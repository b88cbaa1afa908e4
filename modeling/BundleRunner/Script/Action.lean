import BundleRunner.Callback
import BundleRunner.Script.Recipe

namespace BundleRunner

/-!
# Actions

A scripted callback is a list of actions for each phase.  An `Action` makes one request or a few;
what it finds out is a `Finding`, and a `Notebook` keeps the findings and the handles from call to
call.
-/

/-- The time of an emission in a script. -/
inductive EmissionTime where
  /-- None is given. -/
  | inherited
  /-- The given instant. -/
  | at (timestamp : Instant)
  /-- So many milliseconds after the element. -/
  | shifted (millis : Int)
deriving DecidableEq

namespace EmissionTime

/-- The explicit timestamp of an emission, for an element at `timestamp` if there is one. -/
def explicit? (timestamp : Option Instant) : EmissionTime → Option Instant
  | inherited => none
  | .at t => some t
  | shifted millis => timestamp.map fun t => .clamp (t.millis + millis)

end EmissionTime

/-- A number or a text in a script, which becomes a value once its type is known. -/
inductive Literal where
  | number (n : Int)
  | text (s : String)
deriving DecidableEq

/-- The value of a type that a literal stands for. -/
def Literal.as? : Literal → (type : ValueType) → Option type.Carrier
  | number n, .unsigned => some n.toNat
  | number n, .signed => some n
  | text s, .text => some s
  | _, _ => none

/-- What a script does with a handle on keyed state. -/
inductive StateUse where
  | nothing
  | describe
  | call (call : StateCall)
deriving DecidableEq

/-- The use of keyed state that a script names by a word. -/
def StateUse.ofWord? (word name : String) (bytes : List UInt8) : Option StateUse :=
  match word with
  | "none" => some nothing
  | "debug" => some describe
  | "lookup" => some (call (.lookup name))
  | "store" => some (call (.store name bytes))
  | "remove" => some (call (.remove name))
  | _ => none

/-- What a script does with a handle on windowing internals. -/
inductive InternalsUse where
  | nothing
  | describe
  | pane
  | windows
  | timestamp
deriving DecidableEq

/-- The use of windowing internals that a script names by a word. -/
def InternalsUse.ofWord? : String → Option InternalsUse
  | "none" => some nothing
  | "debug" => some describe
  | "pane" => some pane
  | "windows" => some windows
  | "timestamp" => some timestamp
  | _ => none

/-- One action of a script. -/
inductive Action where
  | output (value : String) (time : EmissionTime)
  | side (tag : String) (value : Value) (time : EmissionTime)
  | create (name : String) (recipe : Recipe) (binder : String)
  | add (handle : String) (values : List Literal)
  | value (handle : String)
  | option (key : String)
  | options
  | keptState (use : StateUse)
  | keptInternals (use : InternalsUse)
  | interrupt (reason : String)
  | clear
  | fail (message : String)
  | failInterrupted (message : String)
  | panic (message : String)
  | phase
  | describe
  | element
  | timestamp
  | windows
  | skew
  | window
  | check
  | sideInput (view : String) (type : ValueType)
  | keyed (use : StateUse) (keep : Bool)
  | internals (use : InternalsUse) (keep : Bool)

namespace Action

/-- The name of an action. -/
def label : Action → String
  | output .. => "output"
  | side .. => "side"
  | create .. => "create"
  | add .. => "add"
  | value _ => "value"
  | option _ => "option"
  | options => "options"
  | keptState _ => "retained"
  | keptInternals _ => "retained"
  | interrupt _ => "interrupt"
  | clear => "clear"
  | fail _ => "fail"
  | failInterrupted _ => "fail_interrupted"
  | panic _ => "panic"
  | phase => "phase"
  | describe => "debug"
  | element => "element"
  | timestamp => "timestamp"
  | windows => "windows"
  | skew => "skew"
  | window => "window"
  | check => "check"
  | sideInput .. => "side_input"
  | keyed .. => "keyed"
  | internals .. => "internals"

/-- The action with a name, among those that need nothing but their name. -/
def ofLabel? (name : String) : Option Action :=
  [options, clear, phase, describe, element, timestamp, windows, skew, window, check].find?
    (·.label == name)

end Action

/-- An action, and whether the script goes on when it fails. -/
structure Step where
  action : Action
  tolerant : Bool

/-- What an action finds out. -/
inductive Finding where
  | nothing
  | text (s : String)
  | instant (t : Instant)
  | window (w : Window)
  | windows (s : WindowSet)
  | bytes (bytes : Option (List UInt8))
  | pane (pane : Pane)
  | value (v : Value)
  | options (o : Options)

/-- A handle on an aggregator of any type. -/
structure AnyAggregator where
  input : ValueType
  output : ValueType
  handle : Aggregator input output

namespace AnyAggregator

/-- Add literals to an aggregator, one after the other; those of another type are passed over. -/
def addAll (h : AnyAggregator) (literals : List Literal) (r : Registry) : Registry :=
  (literals.filterMap (·.as? h.input)).foldl (fun r x => r.add h.handle x) r

/-- The result of an aggregator so far. -/
def value? (h : AnyAggregator) (r : Registry) : Option Value :=
  (r.value? h.handle).map (⟨h.output, ·⟩)

end AnyAggregator

/-- An action that was run, and how it ended. -/
structure TraceLine where
  label : String
  result : Except Fault Finding

/-- What a scripted callback keeps from call to call. -/
structure Notebook where
  /-- The actions run since the notebook was last read. -/
  trace : List TraceLine
  /-- Handles on aggregators, by the names that the script gives them. -/
  aggregators : List (String × AnyAggregator)
  state : Option StateHandle
  internals : Option InternalsHandle

namespace Notebook

/-- An empty notebook. -/
def empty : Notebook := ⟨[], [], none, none⟩

/-- Note how an action ended. -/
def note (book : Notebook) (label : String) (result : Except Fault Finding) : Notebook :=
  { book with trace := book.trace ++ [⟨label, result⟩] }

/-- Keep a handle on an aggregator under a name. -/
def keep (book : Notebook) (binder : String) (handle : AnyAggregator) : Notebook :=
  { book with
    aggregators := book.aggregators.filter (·.1 != binder) ++ [(binder, handle)] }

/-- The handle on an aggregator with a name. -/
def aggregator? (book : Notebook) (binder : String) : Option AnyAggregator :=
  (book.aggregators.find? (·.1 == binder)).map (·.2)

/-- The results of all aggregators kept, by their names in the script. -/
def values (book : Notebook) (r : Registry) : List (String × Option Value) :=
  (book.aggregators.map fun kept => (kept.1, kept.2.value? r)).mergeSort
    fun a b => decide (a.1 ≤ b.1)

/-- A notebook whose trace was read. -/
def turnPage (book : Notebook) : Notebook := { book with trace := [] }

end Notebook

end BundleRunner
