import BundleRunner.RunState

namespace BundleRunner

/-!
# Invocations

While an element is processed, the callback may ask for capabilities and side inputs.  Every request
passes its checks first; then the provider is queried once for each capability, and its answer
serves the whole invocation, a failure as well:

* `Plan` — what is fixed for all invocations of a run;
* `Invocation.keyedState`, `Invocation.window`, `Invocation.internals` — the three capabilities;
* `Invocation.sideInput` — a read of a side input;
* `ElementRequest.perform` — the answers to all requests.
-/

variable {α β : Type}

/-- What is fixed for all invocations of a run. -/
structure Plan (α : Type) where
  descriptor : Descriptor
  /-- The skew that counts: the callback's, or the one in the settings. -/
  skew : Skew
  settings : Settings
  sideInputs : SideInputs
  keyed : Bool
  windowFn : WindowFn α
  provider : Provider
  options : Options

/-- The provider's answers within one invocation. -/
structure Answers where
  keyedState : Option (Except Fault StateAccess)
  window : Option (Except Fault Window)
  internals : Option (Except Fault Internals)

/-- No answer yet. -/
def Answers.none : Answers := ⟨.none, .none, .none⟩

/-- The state of a run while an element is processed. -/
structure ElementState (β : Type) : Type 1 where
  run : RunState β
  answers : Answers

/-- One invocation of the element callback: the record it is made for, and its lease. -/
structure Invocation (α : Type) where
  plan : Plan α
  record : Record α
  lease : Nat

namespace Invocation

/-- What the provider is told about an invocation. -/
def scope (i : Invocation α) : InvocationScope :=
  ⟨.processElement, i.record.timestamp, i.record.windows, i.plan.keyed⟩

/-- The scope of emissions of an invocation. -/
def emission (i : Invocation α) : Scope α :=
  .element i.record.timestamp i.record.windows i.plan.skew

/-- What the callback sees. -/
def view (i : Invocation α) : ElementView α :=
  ⟨i.record.value, i.record.timestamp, i.record.windows, i.plan.skew, i.plan.options⟩

/-- Fails for a capability that the descriptor does not declare. -/
def declared (i : Invocation α) (capability : Capability) : Except Fault Unit :=
  i.plan.descriptor.process.require capability .processElement

/-- The checks for keyed state: no interrupt, declared, and a transform with keys. -/
def checkKeyedState (i : Invocation α) (s : ElementState β) : Except Fault Unit := do
  s.run.interrupt.check
  i.declared .keyedState
  if i.plan.keyed then .ok () else .error .noKey

/-- The checks for the window: declared, and only one. -/
def checkWindow (i : Invocation α) : Except Fault Unit := do
  i.declared .window
  if i.record.windows.size = 1 then .ok () else .error (.ambiguousWindow i.record.windows.size)

/-- Note that the provider was queried. -/
def queried (i : Invocation α) (capability : Capability) (s : RunState β) : RunState β :=
  { s with queries := s.queries ++ [⟨capability, i.scope⟩] }

/-- The provider's answer about keyed state, which is queried the first time only. -/
def askKeyedState (i : Invocation α) (s : ElementState β) :
    ElementState β × Except Fault StateAccess :=
  match s.answers.keyedState with
  | some answer => (s, answer)
  | none =>
    let answer := i.plan.provider.keyedState s.run.queries i.scope
    (⟨i.queried .keyedState s.run, { s.answers with keyedState := some answer }⟩, answer)

/-- The provider's answer about the window, which is queried the first time only. -/
def askWindow (i : Invocation α) (s : ElementState β) : ElementState β × Except Fault Window :=
  match s.answers.window with
  | some answer => (s, answer)
  | none =>
    let answer := i.plan.provider.window s.run.queries i.scope
    (⟨i.queried .window s.run, { s.answers with window := some answer }⟩, answer)

/-- The provider's answer about internals, which is queried the first time only. -/
def askInternals (i : Invocation α) (s : ElementState β) :
    ElementState β × Except Fault Internals :=
  match s.answers.internals with
  | some answer => (s, answer)
  | none =>
    let answer := i.plan.provider.internals s.run.queries i.scope
    (⟨i.queried .windowingInternals s.run, { s.answers with internals := some answer }⟩, answer)

/-- Keyed state, under the lease of the invocation. -/
def keyedState (i : Invocation α) (s : ElementState β) :
    ElementState β × Except Fault StateHandle :=
  match i.checkKeyedState s with
  | .error fault => (s, .error fault)
  | .ok () =>
    let asked := i.askKeyedState s
    (asked.1, asked.2.map (⟨·, i.lease⟩))

/-- The window of the element. -/
def window (i : Invocation α) (s : ElementState β) : ElementState β × Except Fault Window :=
  match i.checkWindow with
  | .error fault => (s, .error fault)
  | .ok () => i.askWindow s

/-- Windowing internals, under the lease of the invocation. -/
def internals (i : Invocation α) (s : ElementState β) :
    ElementState β × Except Fault InternalsHandle :=
  match i.declared .windowingInternals with
  | .error fault => (s, .error fault)
  | .ok () =>
    let asked := i.askInternals s
    (asked.1, asked.2.map (⟨·, i.lease⟩))

/-- The window that a side input is read for: no interrupt, a declared view, and one window. -/
def readWindow (i : Invocation α) (s : ElementState β) (view : String) : Except Fault Window := do
  s.run.interrupt.check
  i.plan.sideInputs.ensureDeclared view
  i.scope.onlyWindow

/-- Read a side input for the window of the element. -/
def sideInput (i : Invocation α) (view : String) (type : ValueType) (s : ElementState β) :
    ElementState β × Except Fault type.Carrier :=
  match i.readWindow s view with
  | .error fault => (s, .error fault)
  | .ok window =>
    let read : ViewRead := ⟨view, window⟩
    let answer := i.plan.sideInputs.reader.answer s.run.reads read
    ({ s with run := { s.run with reads := s.run.reads ++ [read] } },
      SideInputs.typed view type answer)

end Invocation

/-- The answer to a request of an invocation. -/
def ElementRequest.perform (i : Invocation α) (request : ElementRequest β)
    (s : ElementState β) : ElementState β × request.Answer :=
  match request with
  | output request =>
    let made := request.perform i.emission s.run
    ({ s with run := made.1 }, made.2)
  | checkInterrupt => (s, s.run.interrupt.check)
  | sideInput view type => i.sideInput view type s
  | keyedState => i.keyedState s
  | window => i.window s
  | internals => i.internals s

end BundleRunner
