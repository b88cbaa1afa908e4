import BundleRunner.Binding
import BundleRunner.Router

namespace BundleRunner

/-!
# The state of a run

Everything that a run changes in the world around a callback: the outputs, the aggregates, the
interrupt signal, the keyed state, the leases, and what observers have seen.

* `RunState.emit`, `RunState.emitTagged` — emissions, with their notice in the log;
* `RunState.useState`, `RunState.useInternals` — the use of handles, good only under a live lease;
* `SharedRequest.perform`, `SetupRequest.perform`, `OutputRequest.perform` — the answers to the
  requests that need no element.
-/

variable {α β : Type}

/-- The state of a run. -/
structure RunState (β : Type) : Type 1 where
  router : Router β
  registry : Registry
  interrupt : Interrupt
  cells : Cells
  /-- The queries that reached the provider. -/
  queries : List Query
  /-- The reads that reached the reader of side inputs. -/
  reads : List ViewRead
  /-- The number of leases made out so far; the next lease has this number. -/
  leases : Nat
  /-- The lease of the invocation that is running. -/
  live : Option Nat
  /-- The number of the bundle inside which notices are given. -/
  bundle : Option Nat
  log : List Log.Entry

namespace RunState

/-- Tell the log. -/
def tell (s : RunState β) (notice : Notice) : RunState β :=
  { s with log := s.log ++ [⟨notice, s.bundle⟩] }

/-- Tell the log, if there is something to tell. -/
def tellAny (s : RunState β) : Option Notice → RunState β
  | some notice => s.tell notice
  | none => s

/-- Give notices inside a bundle from now on, or outside all bundles. -/
def within (s : RunState β) (bundle : Option Nat) : RunState β := { s with bundle }

@[simp] theorem router_tellAny (s : RunState β) (notice : Option Notice) :
    (s.tellAny notice).router = s.router := by
  cases notice <;> rfl

/-- Take over what an emission did. -/
def deliver (s : RunState β) (d : Router.Delivery β) : RunState β × Except Fault Unit :=
  ({ s with router := d.router }.tellAny d.notice, d.outcome)

@[simp] theorem router_deliver (s : RunState β) (d : Router.Delivery β) :
    (s.deliver d).1.router = d.router := by
  simp [deliver]

/-- Emit a value to the main output. -/
def emit (s : RunState β) (scope : Scope α) (value : β) (explicit : Option Instant) :
    RunState β × Except Fault Unit :=
  s.deliver (s.router.emitMain scope value explicit)

/-- Emit a value to a side output. -/
def emitTagged (s : RunState β) (scope : Scope α) (tag : String) (value : Value)
    (explicit : Option Instant) : RunState β × Except Fault Unit :=
  s.deliver (s.router.emitTagged scope tag value explicit)

/-- Fails for a lease whose invocation is over. -/
def ensureLive (s : RunState β) (lease : Nat) (accessor : String) : Except Fault Unit :=
  if s.live = some lease then .ok () else .error (.staleContext accessor)

/-- Make a call on keyed state.  The lease is checked before the interrupt signal. -/
def useState (s : RunState β) (handle : StateHandle) (call : StateCall) :
    RunState β × Except Fault (Option (List UInt8)) :=
  match s.ensureLive handle.lease Capability.keyedState.text with
  | .error fault => (s, .error fault)
  | .ok () =>
    match s.interrupt.check with
    | .error fault => (s, .error fault)
    | .ok () =>
      let made := handle.access.perform call s.cells
      ({ s with cells := made.1 }, made.2)

/-- Read windowing internals. -/
def useInternals (s : RunState β) (handle : InternalsHandle) : Except Fault Internals :=
  (s.ensureLive handle.lease Capability.windowingInternals.text).map fun _ => handle.internals

end RunState

/-- The answer to a shared request. -/
def SharedRequest.perform (s : RunState β) :
    (request : SharedRequest) → RunState β × request.Answer
  | create name _ _ combiner =>
    let made := s.registry.create name combiner
    ({ s with registry := made.registry }.tellAny made.notice, made.outcome)
  | add _ _ aggregator x => ({ s with registry := s.registry.add aggregator x }, ())
  | value _ _ aggregator => (s, s.registry.value? aggregator)
  | raise reason => ({ s with interrupt := .raise reason }, ())
  | clear => ({ s with interrupt := .clear }, ())

/-- A shared request leaves the outputs alone. -/
@[simp] theorem SharedRequest.router_perform (request : SharedRequest) (s : RunState β) :
    (request.perform s).1.router = s.router := by
  cases request <;> simp [SharedRequest.perform]

/-- The answer to a request of the setup. -/
def SetupRequest.perform (request : SetupRequest) (s : RunState β) :
    RunState β × request.Answer :=
  match request with
  | shared request => request.perform s
  | find name input output => (s, s.registry.get? name input output)

/-- A request of the setup leaves the outputs alone. -/
@[simp] theorem SetupRequest.router_perform (request : SetupRequest) (s : RunState β) :
    (request.perform s).1.router = s.router := by
  cases request <;> simp [SetupRequest.perform]

/-- The answer to a request in an emission scope. -/
def OutputRequest.perform (scope : Scope α) (request : OutputRequest β) (s : RunState β) :
    RunState β × request.Answer :=
  match request with
  | shared request => request.perform s
  | emit value explicit => s.emit scope value explicit
  | emitTagged tag value explicit => s.emitTagged scope tag value explicit
  | useState handle call => s.useState handle call
  | useInternals handle => (s, s.useInternals handle)

end BundleRunner
