import BundleRunner.Aggregator.Registry
import BundleRunner.Interrupt
import BundleRunner.Program
import BundleRunner.Provider
import BundleRunner.Settings

namespace BundleRunner

/-!
# Callbacks

What a user writes: a descriptor and a program for each phase.  The phases differ in what can be
asked for:

* `SharedRequest` — aggregators and the interrupt signal, in every phase;
* `SetupRequest` — the same, and a look into the registry, before the first bundle;
* `OutputRequest` — emissions and the use of handles, at the start and the finish of a bundle;
* `ElementRequest` — all of it and the capabilities, while an element is processed.
-/

variable {α β σ : Type}

/-! ### Handles -/

/-- A handle on keyed state.  It is good for the invocation that its lease was made for. -/
structure StateHandle where
  access : StateAccess
  lease : Nat
deriving DecidableEq

/-- A handle on windowing internals, good for the invocation that its lease was made for. -/
structure InternalsHandle where
  internals : Internals
  lease : Nat
deriving DecidableEq

/-! ### Requests -/

/-- What a callback can ask for in every phase. -/
inductive SharedRequest : Type 1 where
  /-- Register a combiner under a name. -/
  | create (name : String) (input output : ValueType)
      (combiner : Combiner input.Carrier output.Carrier)
  /-- Give an aggregator one more input. -/
  | add (input output : ValueType) (aggregator : Aggregator input output) (x : input.Carrier)
  /-- Read the result of an aggregator. -/
  | value (input output : ValueType) (aggregator : Aggregator input output)
  /-- Raise the interrupt signal. -/
  | raise (reason : String)
  /-- Clear the interrupt signal. -/
  | clear

/-- The answer to a shared request. -/
@[reducible] def SharedRequest.Answer : SharedRequest → Type
  | create _ input output _ => Except Fault (Aggregator input output)
  | add .. => Unit
  | value _ output _ => Option output.Carrier
  | raise _ => Unit
  | clear => Unit

/-- What a callback can ask for before the first bundle. -/
inductive SetupRequest : Type 1 where
  | shared (request : SharedRequest)
  /-- The handle on an aggregator with a name and types. -/
  | find (name : String) (input output : ValueType)

/-- The answer to a request of the setup. -/
@[reducible] def SetupRequest.Answer : SetupRequest → Type
  | shared request => request.Answer
  | find _ input output => Option (Aggregator input output)

/-- What a callback can ask for at the start and the finish of a bundle. -/
inductive OutputRequest (β : Type) : Type 1 where
  | shared (request : SharedRequest)
  /-- Emit a value to the main output. -/
  | emit (value : β) (explicit : Option Instant)
  /-- Emit a value to a side output. -/
  | emitTagged (tag : String) (value : Value) (explicit : Option Instant)
  /-- Make a call on keyed state. -/
  | useState (handle : StateHandle) (call : StateCall)
  /-- Read windowing internals. -/
  | useInternals (handle : InternalsHandle)

/-- The answer to a request at the start or the finish of a bundle. -/
@[reducible] def OutputRequest.Answer : OutputRequest β → Type
  | shared request => request.Answer
  | emit .. => Except Fault Unit
  | emitTagged .. => Except Fault Unit
  | useState .. => Except Fault (Option (List UInt8))
  | useInternals _ => Except Fault Internals

/-- What a callback can ask for while an element is processed. -/
inductive ElementRequest (β : Type) : Type 1 where
  | output (request : OutputRequest β)
  /-- Fail if the interrupt signal is raised. -/
  | checkInterrupt
  /-- Read a side input. -/
  | sideInput (view : String) (type : ValueType)
  /-- Ask for keyed state. -/
  | keyedState
  /-- Ask for the window of the element. -/
  | window
  /-- Ask for windowing internals. -/
  | internals

/-- The answer to a request while an element is processed. -/
@[reducible] def ElementRequest.Answer : ElementRequest β → Type
  | output request => request.Answer
  | checkInterrupt => Except Fault Unit
  | sideInput _ type => Except Fault type.Carrier
  | keyedState => Except Fault StateHandle
  | window => Except Fault Window
  | internals => Except Fault InternalsHandle

/-! ### Callbacks -/

/-- What a callback sees of the element that it processes. -/
structure ElementView (α : Type) where
  element : α
  timestamp : Instant
  windows : WindowSet
  skew : Skew
  options : Options

/-- A user's callback over a state of its own: what it declares, and what it does in each phase. -/
structure Callback (α β σ : Type) : Type 1 where
  descriptor : Descriptor
  /-- The skew that the callback insists on, in place of the one in the settings. -/
  skew : Option Skew
  setup : σ → Program SetupRequest.Answer σ
  start : Options → σ → Program (@OutputRequest.Answer β) σ
  process : ElementView α → σ → Program (@ElementRequest.Answer β) σ
  finish : Options → σ → Program (@OutputRequest.Answer β) σ

namespace Callback

/-- The callback that declares nothing, and does nothing but process elements. -/
def ofProcess (process : ElementView α → σ → Program (@ElementRequest.Answer β) σ) :
    Callback α β σ where
  descriptor := .plain
  skew := none
  setup state := .stop state (.done ())
  start _ state := .stop state (.done ())
  process := process
  finish _ state := .stop state (.done ())

/-- The callback that emits every element as it is. -/
def echo : Callback α α σ :=
  .ofProcess fun view state =>
    .ask (.output (.emit view.element none)) fun result => .stop state (.ofExcept result)

end Callback

end BundleRunner
