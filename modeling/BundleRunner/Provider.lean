import BundleRunner.Descriptor
import BundleRunner.KeyedState
import BundleRunner.Window.Set

namespace BundleRunner

/-!
# Providers of capabilities

What a callback may ask for beyond its element comes from a `Provider`.  Its answer may depend on
the scope of the invocation and on all queries before:

* `InvocationScope` — what a provider is told about an invocation;
* `Provider.minimal`, `StaticProvider` — the provider with the least to offer, and one with fixed
  answers.
-/

/-- When a pane of results was fired. -/
inductive PaneTiming where
  | early
  | onTime
  | late
  | unknown
deriving DecidableEq

/-- The name of a pane's timing. -/
def PaneTiming.text : PaneTiming → String
  | early => "Early"
  | onTime => "OnTime"
  | late => "Late"
  | unknown => "Unknown"

/-- The timing with a name; every other name stands for an unknown timing. -/
def PaneTiming.ofText (name : String) : PaneTiming :=
  ([early, onTime, late].find? (·.text == name)).getD unknown

@[simp] theorem PaneTiming.ofText_text (t : PaneTiming) : ofText t.text = t := by
  cases t <;> rfl

/-- The pane that a record belongs to. -/
structure Pane where
  index : Nat
  isFirst : Bool
  isLast : Bool
  timing : PaneTiming
deriving DecidableEq

/-- The pane of a record that no trigger has fired: the first and the last of its window. -/
def Pane.notFired : Pane := ⟨0, true, true, .unknown⟩

/-- What lies behind the windows of a record. -/
structure Internals where
  pane : Pane
  windows : WindowSet
  timestamp : Instant
deriving DecidableEq

/-- What a provider is told about an invocation. -/
structure InvocationScope where
  phase : CallbackPhase
  timestamp : Instant
  windows : WindowSet
  keyed : Bool
deriving DecidableEq

/-- A query that reached the provider. -/
structure Query where
  capability : Capability
  scope : InvocationScope
deriving DecidableEq

/-- The source of capabilities: its answers, given all queries before. -/
structure Provider where
  keyedState : List Query → InvocationScope → Except Fault StateAccess
  window : List Query → InvocationScope → Except Fault Window
  internals : List Query → InvocationScope → Except Fault Internals

/-- The number of queries for a capability. -/
def Query.count (past : List Query) (capability : Capability) : Nat :=
  past.countP (·.capability == capability)

namespace InvocationScope

/-- The only window of a scope. -/
def onlyWindow (scope : InvocationScope) : Except Fault Window :=
  match scope.windows.only? with
  | some w => .ok w
  | none => .error (.ambiguousWindow scope.windows.size)

end InvocationScope

/-- The refusal of a capability that a provider does not have. -/
def Capability.unavailable (capability : Capability) : Fault :=
  .capabilityUnavailable capability.text

namespace Provider

/-- The provider that has only the window of the scope itself to offer. -/
def minimal : Provider where
  keyedState _ _ := .error Capability.keyedState.unavailable
  window _ scope := scope.onlyWindow
  internals _ _ := .error Capability.windowingInternals.unavailable

end Provider

/-- A provider with fixed answers: perhaps keyed state, and one pane for every record. -/
structure StaticProvider where
  hasState : Bool
  pane : Pane
deriving DecidableEq

/-- A provider with fixed answers as a provider. -/
def StaticProvider.toProvider (s : StaticProvider) : Provider where
  keyedState _ _ :=
    if s.hasState then .ok .cells else .error Capability.keyedState.unavailable
  window _ scope := scope.onlyWindow
  internals _ scope := .ok ⟨s.pane, scope.windows, scope.timestamp⟩

/-! ### Providers that fail -/

/-- How often a capability fails before it is there. -/
structure Outage where
  message : String
  /-- The number of failing queries; all of them when there is no number. -/
  times : Option Nat
deriving DecidableEq

/-- The answer of a capability with an outage: the outage while it lasts, then `answer`. -/
def Outage.guard {τ : Type} (outage : Option Outage) (capability : Capability)
    (past : List Query) (answer : Except Fault τ) : Except Fault τ :=
  match outage with
  | none => answer
  | some o =>
    let fault := Fault.collaborator "provider" o.message
    match o.times with
    | none => .error fault
    | some n => if Query.count past capability < n then .error fault else answer

end BundleRunner
