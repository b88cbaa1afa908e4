import BundleRunner.Invocation

namespace BundleRunner

/-!
# Runners

A `Runner` is a callback bound to its collaborators and ready for one bundle after another.  It
keeps the callback's state and the state of the run, from bundle to bundle:

* `Runner.build` — settings and descriptor are checked, and the callback is set up;
* `Runner.runStart`, `Runner.runFinish` — the bundle phases of the callback;
* `Runner.invoke` — one invocation for a record, under a lease that ends with it;
* `Runner.runElement` — all invocations for a record.

The interrupt signal is checked before the callback is entered, each time.
-/

variable {α β σ : Type}

/-- A callback that is bound and set up. -/
structure Runner (α β σ : Type) : Type 1 where
  callback : Callback α β σ
  plan : Plan α
  /-- The callback's own state. -/
  state : σ
  run : RunState β
  /-- The number of bundles opened so far. -/
  bundles : Nat

/-- What an attempt to build a runner leaves behind, whether it succeeds or not. -/
structure Building (α β σ : Type) : Type 1 where
  state : σ
  run : RunState β
  outcome : Outcome (Runner α β σ)

namespace Runner

/-- The router for a binding. -/
def routerOf (binding : Binding α β) (settings : Settings) : Router β where
  main := .ofSink binding.main
  side := binding.sideOutputs.map fun d => ⟨d.tag, d.type, .ofSink d.sink⟩
  limit := settings.maxTags
  used := []
  mainCount := 0
  sideCount := 0

/-- The state of a run before its first event. -/
def freshRun (binding : Binding α β) (settings : Settings) : RunState β where
  router := routerOf binding settings
  registry := .empty
  interrupt := binding.interrupt
  cells := .empty
  queries := []
  reads := []
  leases := 0
  live := none
  bundle := none
  log := []

/-- What is fixed for a run: the callback's own skew takes the place of the one in the settings. -/
def planOf (callback : Callback α β σ) (binding : Binding α β) (settings : Settings) : Plan α where
  descriptor := callback.descriptor
  skew := callback.skew.getD settings.skew
  settings := settings
  sideInputs := ⟨binding.views, binding.reader⟩
  keyed := binding.keyed
  windowFn := binding.windowFn
  provider := binding.provider
  options := binding.options

/-- The notice that a runner is ready. -/
def readyNotice (plan : Plan α) (run : RunState β) : Notice :=
  .runnerReady plan.skew run.router.side.length plan.sideInputs.declared.length plan.keyed
    plan.windowFn.name run.registry.size

/-- Build a runner: the settings are valid, the descriptor is valid, and the setup succeeds. -/
def build (callback : Callback α β σ) (state : σ) (binding : Binding α β)
    (settings : Settings) : Building α β σ :=
  let run := freshRun binding settings
  match settings.validate with
  | .error fault => ⟨state, run, .failed fault⟩
  | .ok () =>
    match callback.descriptor.validate with
    | .error fault => ⟨state, run, .failed fault⟩
    | .ok () =>
      let plan := planOf callback binding settings
      let setup := (callback.setup state).run SetupRequest.perform run
      match setup.outcome with
      | .done () =>
        let ready := setup.env.tell (readyNotice plan setup.env)
        ⟨setup.state, ready, .done ⟨callback, plan, setup.state, ready, 0⟩⟩
      | .failed fault => ⟨setup.state, setup.env, .failed fault⟩
      | .panicked message => ⟨setup.state, setup.env, .panicked message⟩

/-- What the setup of a callback leaves behind. -/
def setupRun (callback : Callback α β σ) (state : σ) (binding : Binding α β)
    (settings : Settings) : Program.Result (RunState β) σ :=
  (callback.setup state).run SetupRequest.perform (freshRun binding settings)

/-- What it takes to build a runner: valid settings, a valid descriptor, and a setup that is done,
    from which the runner goes on. -/
theorem build_eq_done {callback : Callback α β σ} {state : σ} {binding : Binding α β}
    {settings : Settings} {r : Runner α β σ}
    (built : (build callback state binding settings).outcome = .done r) :
    settings.validate = .ok () ∧ callback.descriptor.validate = .ok () ∧
      (setupRun callback state binding settings).outcome = .done () ∧
      r.callback = callback ∧ r.plan = planOf callback binding settings ∧
      r.run = (setupRun callback state binding settings).env.tell
        (readyNotice r.plan (setupRun callback state binding settings).env) := by
  unfold build at built
  split at built
  · exact absurd built (by simp)
  next valid =>
    split at built
    · exact absurd built (by simp)
    next described =>
      cases ended : (setupRun callback state binding settings).outcome with
      | done u =>
        unfold setupRun at ended
        simp only [ended] at built
        obtain rfl := Outcome.done.inj built
        exact ⟨valid, described, rfl, rfl, rfl, rfl⟩
      | failed fault =>
        unfold setupRun at ended
        simp only [ended] at built
        exact absurd built (by simp)
      | panicked message =>
        unfold setupRun at ended
        simp only [ended] at built
        exact absurd built (by simp)

/-- A runner that was built has its plan from its collaborators, and outputs that the setup left
    alone. -/
theorem of_build {callback : Callback α β σ} {state : σ} {binding : Binding α β}
    {settings : Settings} {r : Runner α β σ}
    (built : (build callback state binding settings).outcome = .done r) :
    r.plan = planOf callback binding settings ∧ r.run.router = routerOf binding settings := by
  obtain ⟨-, -, -, -, plan, run⟩ := build_eq_done built
  have untouched : (setupRun callback state binding settings).env.router =
      routerOf binding settings :=
    Program.run_invariant (fun s : RunState β => s.router = routerOf binding settings)
      (fun request s same => by rw [SetupRequest.router_perform, same]) _ _ rfl
  exact ⟨plan, run ▸ untouched⟩

/-- No bundle was opened yet on a runner that was built. -/
theorem bundles_of_build {callback : Callback α β σ} {state : σ} {binding : Binding α β}
    {settings : Settings} {r : Runner α β σ}
    (built : (build callback state binding settings).outcome = .done r) : r.bundles = 0 := by
  unfold build at built
  split at built
  · exact absurd built (by simp)
  next =>
    split at built
    · exact absurd built (by simp)
    next =>
      dsimp only at built
      split at built
      · obtain rfl := Outcome.done.inj built
        rfl
      · exact absurd built (by simp)
      · exact absurd built (by simp)

/-- The runner with the state of the run changed. -/
def mapRun (r : Runner α β σ) (f : RunState β → RunState β) : Runner α β σ :=
  { r with run := f r.run }

/-- The runner with the callback's state changed. -/
def mapState (r : Runner α β σ) (f : σ → σ) : Runner α β σ := { r with state := f r.state }

/-- What no call changes: the callback, and the plan of its run. -/
def fixed (r : Runner α β σ) : Callback α β σ × Plan α := (r.callback, r.plan)

@[simp] theorem fixed_mapRun (r : Runner α β σ) (f : RunState β → RunState β) :
    (r.mapRun f).fixed = r.fixed := rfl

/-- Run a program of a bundle phase, unless the run is interrupted. -/
def runBundlePhase (r : Runner α β σ)
    (phase : Options → σ → Program (@OutputRequest.Answer β) σ) :
    Runner α β σ × Outcome Unit :=
  match r.run.interrupt.check with
  | .error fault => (r, .failed fault)
  | .ok () =>
    let scope := Scope.bundle r.plan.windowFn
    let ended := (phase r.plan.options r.state).run (OutputRequest.perform scope) r.run
    ({ r with state := ended.state, run := ended.env }, ended.outcome)

/-- A bundle phase leaves callback and plan alone. -/
@[simp] theorem fixed_runBundlePhase (r : Runner α β σ)
    (phase : Options → σ → Program (@OutputRequest.Answer β) σ) :
    (r.runBundlePhase phase).1.fixed = r.fixed := by
  unfold runBundlePhase
  split <;> rfl

/-- Let the callback start a bundle. -/
def runStart (r : Runner α β σ) : Runner α β σ × Outcome Unit :=
  r.runBundlePhase r.callback.start

/-- Let the callback finish a bundle. -/
def runFinish (r : Runner α β σ) : Runner α β σ × Outcome Unit :=
  r.runBundlePhase r.callback.finish

/-- Make out a lease. -/
def lease (s : RunState β) : RunState β := { s with leases := s.leases + 1, live := some s.leases }

/-- End the lease of the invocation that was running. -/
def endLease (s : RunState β) : RunState β := { s with live := none }

/-- Invoke the callback for a record, unless the run is interrupted.  The lease of the invocation
    ends with it, however the callback stops. -/
def invoke (r : Runner α β σ) (record : Record α) : Runner α β σ × Outcome Unit :=
  match r.run.interrupt.check with
  | .error fault => (r, .failed fault)
  | .ok () =>
    let invocation : Invocation α := ⟨r.plan, record, r.run.leases⟩
    let ended := (r.callback.process invocation.view r.state).run
      (ElementRequest.perform invocation) ⟨lease r.run, .none⟩
    ({ r with state := ended.state, run := endLease ended.env.run }, ended.outcome)

/-- An invocation leaves callback and plan alone. -/
@[simp] theorem fixed_invoke (r : Runner α β σ) (record : Record α) :
    (r.invoke record).1.fixed = r.fixed := by
  unfold invoke
  split <;> rfl

/-- Invoke the callback for a record once in each of the windows, one after the other, until one
    invocation is not done. -/
def invokeEach (record : Record α) : List Window → Runner α β σ → Runner α β σ × Outcome Unit
  | [], r => (r, .done ())
  | w :: ws, r =>
    match r.invoke (record.narrow w) with
    | (r, .done ()) => invokeEach record ws r
    | (r, ended) => (r, ended)

/-- Invocations one after the other leave callback and plan alone. -/
@[simp] theorem fixed_invokeEach (record : Record α) (ws : List Window) (r : Runner α β σ) :
    (invokeEach record ws r).1.fixed = r.fixed := by
  induction ws generalizing r with
  | nil => rfl
  | cons w ws ih =>
    have first := fixed_invoke r (record.narrow w)
    unfold invokeEach
    split
    next r' invoked =>
      rw [invoked] at first
      rw [ih, first]
    next r' ended _ invoked =>
      rw [invoked] at first
      exact first

/-- Process a record with as many invocations as the descriptor asks for; the result is their
    number. -/
def runElement (r : Runner α β σ) (record : Record α) : Runner α β σ × Outcome Nat :=
  match r.plan.descriptor.granularity with
  | .perRecord =>
    let ended := r.invoke record
    (ended.1, ended.2.map fun _ => 1)
  | .perWindow =>
    let ended := invokeEach record record.windows.windows r
    (ended.1, ended.2.map fun _ => record.windows.size)

/-- The processing of a record leaves callback and plan alone. -/
@[simp] theorem fixed_runElement (r : Runner α β σ) (record : Record α) :
    (r.runElement record).1.fixed = r.fixed := by
  unfold runElement
  split <;> simp

end Runner

end BundleRunner
