import BundleRunner.Provider
import BundleRunner.Window.Function

namespace BundleRunner

/-!
# Scripted collaborators

Window functions and providers of capabilities that are given by a few data.
-/

/-! ### Window functions -/

/-- What a scripted window function reads. -/
inductive ContextPart where
  | element
  | timestamp
  | windows
deriving DecidableEq

/-- The part of the context that a script names by a word. -/
def ContextPart.ofWord? : String → Option ContextPart
  | "element" => some element
  | "timestamp" => some timestamp
  | "windows" => some windows
  | _ => none

/-- What a scripted window function answers. -/
inductive WindowAnswer where
  /-- The windows that the element lies in. -/
  | inherit
  /-- One second from the timestamp on. -/
  | fromTimestamp
  /-- One second from as many seconds after the epoch as the element has bytes. -/
  | fromElement
  /-- The windows in a list. -/
  | fixed (windows : List Window)

namespace WindowAnswer

/-- The second from an instant on. -/
def secondFrom (t : Instant) : Except Fault WindowSet :=
  match Interval.of? t (t.add (.ofMillis 1000)) with
  | some stretch => .ok (.single (.interval stretch))
  | none => .error .emptyWindowSet

/-- The rule that gives the answer, reading what it needs. -/
def rule : WindowAnswer → WindowRule String
  | inherit => .readWindows .answer
  | fromTimestamp => .byTimestamp secondFrom
  | fromElement => .readElement fun
    | .ok element => .answer (secondFrom (.ofSecs element.utf8ByteSize))
    | .error fault => .answer (.error fault)
  | fixed windows => .answer (WindowSet.ofList windows)

end WindowAnswer

/-- A scripted window function: it reads some parts of the context, perhaps without minding a
    refusal, and then answers. -/
structure ScriptedWindowFn where
  name : String
  reads : List ContextPart
  /-- Whether a refusal is passed over. -/
  swallow : Bool
  answer : WindowAnswer

namespace ScriptedWindowFn

/-- Go on after a read, unless it was refused and refusals count. -/
def proceed {τ : Type} (swallow : Bool) (next : WindowRule String) :
    Except Fault τ → WindowRule String
  | .ok _ => next
  | .error fault => if swallow then next else .answer (.error fault)

/-- Read parts of the context, then go on. -/
def reading (swallow : Bool) (last : WindowRule String) : List ContextPart → WindowRule String
  | [] => last
  | .element :: parts => .readElement (proceed swallow (reading swallow last parts))
  | .timestamp :: parts => .readTimestamp (proceed swallow (reading swallow last parts))
  | .windows :: parts => .readWindows (proceed swallow (reading swallow last parts))

/-- A scripted window function as a window function. -/
def toWindowFn (f : ScriptedWindowFn) : WindowFn String :=
  ⟨f.name, reading f.swallow f.answer.rule f.reads⟩

end ScriptedWindowFn

/-! ### Providers -/

/-- Windowing internals as a script gives them; the windows may be none. -/
structure ScriptedInternals where
  pane : Pane
  windows : List Window
  timestamp : Instant

/-- A provider whose capabilities may fail for a while and then answer as told. -/
structure ScriptedProvider where
  stateOutage : Option Outage
  /-- Why the store refuses every call, if it does. -/
  broken : Option String
  windowOutage : Option Outage
  /-- The window to answer with; without one, the only window of the record. -/
  window : Option Window
  internalsOutage : Option Outage
  /-- The internals to answer with; without them the capability is missing. -/
  internals : Option ScriptedInternals

namespace ScriptedProvider

/-- Internals with a set of windows, if there are any. -/
def internalsOf (i : ScriptedInternals) : Except Fault Internals :=
  (WindowSet.ofList i.windows).map fun windows => ⟨i.pane, windows, i.timestamp⟩

/-- A scripted provider as a provider. -/
def toProvider (p : ScriptedProvider) : Provider where
  keyedState past _ :=
    Outage.guard p.stateOutage .keyedState past
      (.ok
        (match p.broken with
          | some message => .broken message
          | none => .cells))
  window past scope :=
    Outage.guard p.windowOutage .window past
      (match p.window with
        | some w => .ok w
        | none => scope.onlyWindow)
  internals past scope :=
    Outage.guard p.internalsOutage .windowingInternals past
      (match p.internals with
        | some i => internalsOf i
        | none => Provider.minimal.internals past scope)

end ScriptedProvider

end BundleRunner
