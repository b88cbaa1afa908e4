import BundleRunner.Fault

namespace BundleRunner

/-!
# Descriptors

A callback declares in advance which capabilities it asks for in each phase and how it wants to be
invoked:

* `Signature` — the capabilities of one phase;
* `Descriptor` — a signature for each phase, and the granularity of invocation;
* `Descriptor.validate` — capabilities exist only while an element is processed.
-/

/-- The phases in which a callback is called. -/
inductive CallbackPhase where
  | startBundle
  | processElement
  | finishBundle
deriving DecidableEq

/-- The name of a callback phase. -/
def CallbackPhase.text : CallbackPhase → String
  | startBundle => "start_bundle"
  | processElement => "process_element"
  | finishBundle => "finish_bundle"

/-- The callback phase with a name. -/
def CallbackPhase.ofText? (name : String) : Option CallbackPhase :=
  [startBundle, processElement, finishBundle].find? (·.text == name)

@[simp] theorem CallbackPhase.ofText?_text (p : CallbackPhase) : ofText? p.text = some p := by
  cases p <;> rfl

/-- What a callback may ask for beyond its element. -/
inductive Capability where
  /-- State kept under the key of the element. -/
  | keyedState
  /-- The one window of the element. -/
  | window
  /-- Pane, windows and timestamp of the element. -/
  | windowingInternals
deriving DecidableEq

namespace Capability

/-- The name of a capability. -/
def text : Capability → String
  | keyedState => "keyed_state"
  | window => "window"
  | windowingInternals => "windowing_internals"

/-- All capabilities, in the order in which they are checked. -/
def all : List Capability := [keyedState, window, windowingInternals]

/-- The capability with a name. -/
def ofText? (name : String) : Option Capability := all.find? (·.text == name)

@[simp] theorem ofText?_text (c : Capability) : ofText? c.text = some c := by
  cases c <;> rfl

end Capability

/-- The capabilities that a callback asks for in one phase. -/
structure Signature where
  keyedState : Bool
  window : Bool
  windowingInternals : Bool
deriving DecidableEq

namespace Signature

/-- No capability at all. -/
def plain : Signature := ⟨false, false, false⟩

/-- Whether a capability is asked for. -/
def requests (s : Signature) : Capability → Bool
  | .keyedState => s.keyedState
  | .window => s.window
  | .windowingInternals => s.windowingInternals

/-- Ask for one more capability. -/
def adding (s : Signature) : Capability → Signature
  | .keyedState => { s with keyedState := true }
  | .window => { s with window := true }
  | .windowingInternals => { s with windowingInternals := true }

/-- The signature that asks for the capabilities in a list. -/
def ofList (capabilities : List Capability) : Signature := capabilities.foldl adding plain

/-- The capabilities asked for, in order. -/
def toList (s : Signature) : List Capability := Capability.all.filter s.requests

/-- Fails for a capability that is not asked for. -/
def require (s : Signature) (capability : Capability) (phase : CallbackPhase) :
    Except Fault Unit :=
  if s.requests capability then .ok ()
  else .error (.undeclaredCapability capability.text phase.text)

end Signature

/-- How often the element callback is invoked for a record. -/
inductive Granularity where
  /-- Once, with all windows of the record. -/
  | perRecord
  /-- Once for each window of the record, with that window only. -/
  | perWindow
deriving DecidableEq

/-- The name of a granularity. -/
def Granularity.text : Granularity → String
  | perRecord => "PerRecord"
  | perWindow => "PerWindow"

/-- What a callback declares about itself. -/
structure Descriptor where
  start : Signature
  process : Signature
  finish : Signature
  granularity : Granularity
deriving DecidableEq

namespace Descriptor

/-- No capability, and one invocation a record. -/
def plain : Descriptor := ⟨.plain, .plain, .plain, .perRecord⟩

instance : Inhabited Descriptor := ⟨plain⟩

/-- The signature of a phase. -/
def signature (d : Descriptor) : CallbackPhase → Signature
  | .startBundle => d.start
  | .processElement => d.process
  | .finishBundle => d.finish

/-- Fails with the first capability asked for where there is no element. -/
def validate (d : Descriptor) : Except Fault Unit :=
  match d.start.toList with
  | capability :: _ => .error (.invalidDescriptor CallbackPhase.startBundle.text capability.text)
  | [] =>
    match d.finish.toList with
    | capability :: _ =>
      .error (.invalidDescriptor CallbackPhase.finishBundle.text capability.text)
    | [] => .ok ()

end Descriptor

end BundleRunner
