import BundleRunner.Proofs.History

namespace BundleRunner

/-!
# Simulation

Two runs that differ in something that no request shows go the same way.  This file proves it once
for every such difference: whoever relates plans, routers and logs, and shows that emissions and
notices keep what is related, has it for whole runs.

* `Program.run_related`, `Program.exchanges_related` — two runs of one program;
* `Simulation` — what is related, and what has to be shown of it;
* `Simulation.States.output`, `Simulation.ElementStates.perform` — a request in related states;
* `Simulation.Sessions.perform`, `Simulation.Sessions.exchanges` — a call in related sessions is
  replied to alike, and the same requests are made during it, with the same answers;
* `Simulation.Sessions.performAll` — a sequence of calls;
* `Simulation.States.build` — the setup, from which related sessions come.

Only the outputs, the views and the log can be related to others.  All else is the same in related
states, so that the requests for it need no proof for each relation.
-/

universe u v

variable {α β σ τ : Type}

/-! ### Related runs of a program -/

namespace Program

variable {R : Type u} {Answer : R → Type} {E E' : Type u}

/-- **Simulation.** When related environments answer every request alike and stay related, two runs
    of a program end alike. -/
theorem run_related {answer : (request : R) → E → E × Answer request}
    {answer' : (request : R) → E' → E' × Answer request} (Related : E → E' → Prop)
    (alike : ∀ request env env', Related env env' →
      Related (answer request env).1 (answer' request env').1 ∧
      (answer request env).2 = (answer' request env').2)
    (program : Program Answer σ) (env : E) (env' : E') (start : Related env env') :
    Related (program.run answer env).env (program.run answer' env').env ∧
      (program.run answer env).state = (program.run answer' env').state ∧
      (program.run answer env).outcome = (program.run answer' env').outcome := by
  -- the answers are the same, so that both runs go on with one and the same rest of the program
  induction program generalizing env env' with
  | stop state outcome => exact ⟨start, rfl, rfl⟩
  | ask request next ih =>
    obtain ⟨related, same⟩ := alike request env env' start
    rw [run_ask, run_ask, ← same]
    exact ih _ _ _ related

/-- The requests of a run, each with its answer. -/
def exchanges (answer : (request : R) → E → E × Answer request) (program : Program Answer σ)
    (env : E) : List ((request : R) × Answer request) :=
  (program.requests answer env).map fun asked => ⟨asked.1, (answer asked.1 asked.2).2⟩

theorem exchanges_ask (answer : (request : R) → E → E × Answer request) (request : R)
    (next : Answer request → Program Answer σ) (env : E) :
    (ask request next).exchanges answer env =
      ⟨request, (answer request env).2⟩ ::
        (next (answer request env).2).exchanges answer (answer request env).1 := rfl

/-- The two runs make the same requests, with the same answers. -/
theorem exchanges_related {answer : (request : R) → E → E × Answer request}
    {answer' : (request : R) → E' → E' × Answer request} (Related : E → E' → Prop)
    (alike : ∀ request env env', Related env env' →
      Related (answer request env).1 (answer' request env').1 ∧
      (answer request env).2 = (answer' request env').2)
    (program : Program Answer σ) (env : E) (env' : E') (start : Related env env') :
    program.exchanges answer env = program.exchanges answer' env' := by
  induction program generalizing env env' with
  | stop state outcome => rfl
  | ask request next ih =>
    obtain ⟨related, same⟩ := alike request env env' start
    rw [exchanges_ask, exchanges_ask, ← same, ih _ _ _ related]

end Program

/-! ### Exchanges -/

/-- A request of a callback, with its answer. -/
inductive Exchange (β : Type) : Type 1 where
  /-- At the start or the finish of a bundle. -/
  | output (request : OutputRequest β) (answer : request.Answer)
  /-- During an invocation. -/
  | element (request : ElementRequest β) (answer : request.Answer)

/-- The request of a moment, with its answer. -/
def Moment.exchange : Moment α β → Exchange β
  | bundle windowFn request s => .output request (request.perform (.bundle windowFn) s).2
  | element i request s => .element request (request.perform i s).2

/-- The exchanges of a visit, in order. -/
def Visit.exchanges (v : Visit α β σ) : List (Exchange β) := v.moments.map Moment.exchange

/-- The exchanges of a call, in order. -/
def Stage.exchanges (st : Stage α β σ) : List (Exchange β) := st.moments.map Moment.exchange

theorem Stage.exchanges_eq (st : Stage α β σ) :
    st.exchanges = (st.visits.map Visit.exchanges).flatten := by
  rw [exchanges, moments, List.map_flatMap, List.flatMap_def]
  rfl

/-- The exchanges of a bundle phase are those of its program. -/
theorem Runner.exchanges_bundleMoments (r : Runner α β σ)
    (phase : Options → σ → Program (@OutputRequest.Answer β) σ) :
    (r.bundleMoments phase).map Moment.exchange =
      ((phase r.plan.options r.state).exchanges (OutputRequest.perform (.bundle r.plan.windowFn))
        r.run).map fun asked => .output asked.1 asked.2 := by
  rw [bundleMoments, Program.exchanges, List.map_map, List.map_map]
  rfl

/-- So it is with an invocation. -/
theorem Runner.exchanges_elementMoments (r : Runner α β σ) (visible : Record α) :
    (r.elementMoments visible).map Moment.exchange =
      ((r.callback.process (r.invocation visible).view r.state).exchanges
        (ElementRequest.perform (r.invocation visible)) ⟨Runner.lease r.run, .none⟩).map
          fun asked => .element asked.1 asked.2 := by
  rw [elementMoments, Program.exchanges, List.map_map, List.map_map]
  rfl

/-! ### Simulations -/

/-- The plans are the same but for the order of the views, and for how often a view stands there. -/
def Plan.Alike (p p' : Plan α) : Prop :=
  ∃ declared, (∀ view, view ∈ p.sideInputs.declared ↔ view ∈ declared) ∧
    p' = { p with sideInputs := { p.sideInputs with declared } }

/-- Deliveries that leave related routers behind, and show nothing else. -/
structure Router.Delivery.Related (Routers : Router β → Router β → Prop)
    (made made' : Delivery β) : Prop where
  router : Routers made.router made'.router
  notice : made.notice = made'.notice
  outcome : made.outcome = made'.outcome

/-- Relations of plans, of routers, and of what is told, which no request shows.  A log comes with the
    span in which it is told. -/
structure Simulation (α β : Type) : Type 1 where
  Plans : Plan α → Plan α → Prop
  Routers : Router β → Router β → Prop
  Logs : Option Nat × List Log.Entry → Option Nat × List Log.Entry → Prop
  plans : ∀ {p p'}, Plans p p' → p.Alike p'
  emitMain : ∀ {r r'} (scope : Scope α) (value : β) (explicit : Option Instant), Routers r r' →
    (r.emitMain scope value explicit).Related Routers (r'.emitMain scope value explicit)
  emitTagged : ∀ {r r'} (scope : Scope α) (tag : String) (value : Value)
    (explicit : Option Instant), Routers r r' →
      (r.emitTagged scope tag value explicit).Related Routers
        (r'.emitTagged scope tag value explicit)
  takeCounts : ∀ {r r'}, Routers r r' →
    r.takeCounts.1 = r'.takeCounts.1 ∧ Routers r.takeCounts.2 r'.takeCounts.2
  tell : ∀ {span span' log log'} (notice : Notice), Logs (span, log) (span', log') →
    Logs (span, log ++ [⟨notice, span⟩]) (span', log' ++ [⟨notice, span'⟩])
  within : ∀ {span span' log log'} (next : Option Nat), Logs (span, log) (span', log') →
    Logs (next, log) (next, log')

namespace Simulation

variable (sim : Simulation α β)

/-- States with related routers and related logs, and nothing else that differs. -/
structure States (s s' : RunState β) : Prop where
  router : sim.Routers s.router s'.router
  told : sim.Logs (s.bundle, s.log) (s'.bundle, s'.log)
  rest : s' = { s with router := s'.router, bundle := s'.bundle, log := s'.log }

/-- Related states of an invocation. -/
structure ElementStates (s s' : ElementState β) : Prop where
  run : sim.States s.run s'.run
  answers : s.answers = s'.answers

variable {sim}

/-! ### Requests -/

namespace States

variable {s s' : RunState β}

/-- States that are related differ in router, span and log. -/
theorem exists_eq (related : sim.States s s') :
    ∃ router bundle log, s' = { s with router, bundle, log } ∧ sim.Routers s.router router ∧
      sim.Logs (s.bundle, s.log) (bundle, log) :=
  ⟨_, _, _, related.rest, related.router, related.told⟩

theorem tell (related : sim.States s s') (notice : Notice) :
    sim.States (s.tell notice) (s'.tell notice) := by
  obtain ⟨router, bundle, log, rfl, routers, logs⟩ := related.exists_eq
  exact ⟨routers, sim.tell notice logs, rfl⟩

theorem tellAny (related : sim.States s s') (notice : Option Notice) :
    sim.States (s.tellAny notice) (s'.tellAny notice) := by
  cases notice with
  | none => exact related
  | some notice => exact related.tell notice

theorem within (related : sim.States s s') (bundle : Option Nat) :
    sim.States (s.within bundle) (s'.within bundle) := by
  obtain ⟨router, span, log, rfl, routers, logs⟩ := related.exists_eq
  exact ⟨routers, sim.within bundle logs, rfl⟩

theorem resetCounts (related : sim.States s s') :
    sim.States { s with router := s.router.takeCounts.2 }
      { s' with router := s'.router.takeCounts.2 } := by
  obtain ⟨router, bundle, log, rfl, routers, logs⟩ := related.exists_eq
  exact ⟨(sim.takeCounts routers).2, logs, rfl⟩

theorem lease (related : sim.States s s') : sim.States (Runner.lease s) (Runner.lease s') := by
  obtain ⟨router, bundle, log, rfl, routers, logs⟩ := related.exists_eq
  exact ⟨routers, logs, rfl⟩

theorem endLease (related : sim.States s s') :
    sim.States (Runner.endLease s) (Runner.endLease s') := by
  obtain ⟨router, bundle, log, rfl, routers, logs⟩ := related.exists_eq
  exact ⟨routers, logs, rfl⟩

theorem signal (related : sim.States s s') (interrupt : Interrupt) :
    sim.States { s with interrupt } { s' with interrupt } := by
  obtain ⟨router, bundle, log, rfl, routers, logs⟩ := related.exists_eq
  exact ⟨routers, logs, rfl⟩

/-- A shared request is answered alike. -/
theorem shared (related : sim.States s s') (request : SharedRequest) :
    sim.States (request.perform s).1 (request.perform s').1 ∧
      (request.perform s).2 = (request.perform s').2 := by
  obtain ⟨router, bundle, log, rfl, routers, logs⟩ := related.exists_eq
  cases request with
  -- of these requests only a registration tells the log, once the registry is changed
  | create name input output combiner =>
    have registered : sim.States
        { s with registry := (s.registry.create name combiner).registry }
        { s with
          registry := (s.registry.create name combiner).registry
          router, bundle, log } := ⟨routers, logs, rfl⟩
    exact ⟨registered.tellAny _, rfl⟩
  | _ => exact ⟨⟨routers, logs, rfl⟩, rfl⟩

/-- A request of the setup is answered alike. -/
theorem setup (related : sim.States s s') (request : SetupRequest) :
    sim.States (request.perform s).1 (request.perform s').1 ∧
      (request.perform s).2 = (request.perform s').2 := by
  cases request with
  | shared request => exact related.shared request
  | find name input output =>
    obtain ⟨router, bundle, log, rfl, routers, logs⟩ := related.exists_eq
    exact ⟨⟨routers, logs, rfl⟩, rfl⟩

/-- Related deliveries are taken over alike. -/
theorem deliver (related : sim.States s s') {made made' : Router.Delivery β}
    (same : made.Related sim.Routers made') :
    sim.States (s.deliver made).1 (s'.deliver made').1 ∧
      (s.deliver made).2 = (s'.deliver made').2 := by
  obtain ⟨router, bundle, log, rfl, -, logs⟩ := related.exists_eq
  have routed : sim.States { s with router := made.router }
      { s with router := made'.router, bundle, log } := ⟨same.router, logs, rfl⟩
  -- the notice of a delivery is told after its router is in place, in both
  refine ⟨?_, same.outcome⟩
  unfold RunState.deliver
  rw [← same.notice]
  exact routed.tellAny made.notice

/-- Keyed state is used alike. -/
theorem useState (related : sim.States s s') (handle : StateHandle) (call : StateCall) :
    sim.States (s.useState handle call).1 (s'.useState handle call).1 ∧
      (s.useState handle call).2 = (s'.useState handle call).2 := by
  obtain ⟨router, bundle, log, rfl, routers, logs⟩ := related.exists_eq
  have live : ({ s with router, bundle, log } : RunState β).ensureLive handle.lease
      Capability.keyedState.text = s.ensureLive handle.lease Capability.keyedState.text := rfl
  -- the checks look at leases and at the signal, which do not differ
  unfold RunState.useState
  rw [live]
  cases s.ensureLive handle.lease Capability.keyedState.text with
  | error fault => exact ⟨⟨routers, logs, rfl⟩, rfl⟩
  | ok u =>
    cases s.interrupt.check with
    | error fault => exact ⟨⟨routers, logs, rfl⟩, rfl⟩
    | ok u => exact ⟨⟨routers, logs, rfl⟩, rfl⟩

/-- A request in an emission scope is answered alike. -/
theorem output (related : sim.States s s') (scope : Scope α) (request : OutputRequest β) :
    sim.States (request.perform scope s).1 (request.perform scope s').1 ∧
      (request.perform scope s).2 = (request.perform scope s').2 := by
  cases request with
  | shared request => exact related.shared request
  | emit value explicit =>
    exact related.deliver (sim.emitMain scope value explicit related.router)
  | emitTagged tag value explicit =>
    exact related.deliver (sim.emitTagged scope tag value explicit related.router)
  | useState handle call => exact related.useState handle call
  | useInternals handle =>
    obtain ⟨router, bundle, log, rfl, routers, logs⟩ := related.exists_eq
    exact ⟨⟨routers, logs, rfl⟩, rfl⟩

end States

namespace ElementStates

variable {p p' : Plan α} {s s' : ElementState β} {record : Record α} {lease : Nat}

/-- States of an invocation that are related differ in router, span and log. -/
theorem exists_eq (related : sim.ElementStates s s') :
    ∃ router bundle log, s' = ⟨{ s.run with router, bundle, log }, s.answers⟩ ∧
      sim.Routers s.run.router router ∧ sim.Logs (s.run.bundle, s.run.log) (bundle, log) := by
  obtain ⟨run, answers⟩ := s
  obtain ⟨run', answers'⟩ := s'
  obtain ⟨states, rfl⟩ := related
  obtain ⟨router, bundle, log, rfl, routers, logs⟩ := states.exists_eq
  exact ⟨router, bundle, log, rfl, routers, logs⟩

/-- A side input is read alike: a view is looked up by its name. -/
theorem sideInput (related : sim.ElementStates s s') (plans : sim.Plans p p') (view : String)
    (type : ValueType) :
    sim.ElementStates (Invocation.sideInput ⟨p, record, lease⟩ view type s).1
        (Invocation.sideInput ⟨p', record, lease⟩ view type s').1 ∧
      (Invocation.sideInput ⟨p, record, lease⟩ view type s).2 =
        (Invocation.sideInput ⟨p', record, lease⟩ view type s').2 := by
  obtain ⟨declared, members, rfl⟩ := sim.plans plans
  obtain ⟨router, bundle, log, rfl, routers, logs⟩ := related.exists_eq
  -- the order of the views is all in which the plans differ, and it is not what is asked
  have named : ({ p.sideInputs with declared } : SideInputs).ensureDeclared view =
      p.sideInputs.ensureDeclared view := by
    simp only [SideInputs.ensureDeclared, List.contains_iff_mem, members]
  have window : Invocation.readWindow
      ⟨{ p with sideInputs := { p.sideInputs with declared } }, record, lease⟩
      (⟨{ s.run with router, bundle, log }, s.answers⟩ : ElementState β) view =
        Invocation.readWindow ⟨p, record, lease⟩ s view := by
    unfold Invocation.readWindow
    rw [named]
    rfl
  unfold Invocation.sideInput
  rw [window]
  cases Invocation.readWindow ⟨p, record, lease⟩ s view with
  | error fault => exact ⟨⟨⟨routers, logs, rfl⟩, rfl⟩, rfl⟩
  | ok w => exact ⟨⟨⟨routers, logs, rfl⟩, rfl⟩, rfl⟩

/-- Keyed state is asked for alike. -/
theorem keyedState (related : sim.ElementStates s s') (plans : sim.Plans p p') :
    sim.ElementStates (Invocation.keyedState ⟨p, record, lease⟩ s).1
        (Invocation.keyedState ⟨p', record, lease⟩ s').1 ∧
      (Invocation.keyedState ⟨p, record, lease⟩ s).2 =
        (Invocation.keyedState ⟨p', record, lease⟩ s').2 := by
  obtain ⟨declared, -, rfl⟩ := sim.plans plans
  obtain ⟨router, bundle, log, rfl, routers, logs⟩ := related.exists_eq
  have checks : Invocation.checkKeyedState
      ⟨{ p with sideInputs := { p.sideInputs with declared } }, record, lease⟩
      (⟨{ s.run with router, bundle, log }, s.answers⟩ : ElementState β) =
        Invocation.checkKeyedState ⟨p, record, lease⟩ s := rfl
  unfold Invocation.keyedState Invocation.askKeyedState
  rw [checks]
  cases Invocation.checkKeyedState ⟨p, record, lease⟩ s with
  | error fault => exact ⟨⟨⟨routers, logs, rfl⟩, rfl⟩, rfl⟩
  | ok u =>
    -- an answer that the invocation has already is not asked for again
    cases s.answers.keyedState with
    | none => exact ⟨⟨⟨routers, logs, rfl⟩, rfl⟩, rfl⟩
    | some answer => exact ⟨⟨⟨routers, logs, rfl⟩, rfl⟩, rfl⟩

/-- The window is asked for alike. -/
theorem window (related : sim.ElementStates s s') (plans : sim.Plans p p') :
    sim.ElementStates (Invocation.window ⟨p, record, lease⟩ s).1
        (Invocation.window ⟨p', record, lease⟩ s').1 ∧
      (Invocation.window ⟨p, record, lease⟩ s).2 =
        (Invocation.window ⟨p', record, lease⟩ s').2 := by
  obtain ⟨declared, -, rfl⟩ := sim.plans plans
  obtain ⟨router, bundle, log, rfl, routers, logs⟩ := related.exists_eq
  have checks : Invocation.checkWindow
      ⟨{ p with sideInputs := { p.sideInputs with declared } }, record, lease⟩ =
        Invocation.checkWindow ⟨p, record, lease⟩ := rfl
  unfold Invocation.window Invocation.askWindow
  rw [checks]
  cases Invocation.checkWindow ⟨p, record, lease⟩ with
  | error fault => exact ⟨⟨⟨routers, logs, rfl⟩, rfl⟩, rfl⟩
  | ok u =>
    cases s.answers.window with
    | none => exact ⟨⟨⟨routers, logs, rfl⟩, rfl⟩, rfl⟩
    | some answer => exact ⟨⟨⟨routers, logs, rfl⟩, rfl⟩, rfl⟩

/-- Internals are asked for alike. -/
theorem internals (related : sim.ElementStates s s') (plans : sim.Plans p p') :
    sim.ElementStates (Invocation.internals ⟨p, record, lease⟩ s).1
        (Invocation.internals ⟨p', record, lease⟩ s').1 ∧
      (Invocation.internals ⟨p, record, lease⟩ s).2 =
        (Invocation.internals ⟨p', record, lease⟩ s').2 := by
  obtain ⟨declared, -, rfl⟩ := sim.plans plans
  obtain ⟨router, bundle, log, rfl, routers, logs⟩ := related.exists_eq
  have checks : Invocation.declared
      ⟨{ p with sideInputs := { p.sideInputs with declared } }, record, lease⟩ =
        Invocation.declared ⟨p, record, lease⟩ := rfl
  unfold Invocation.internals Invocation.askInternals
  rw [checks]
  cases Invocation.declared ⟨p, record, lease⟩ .windowingInternals with
  | error fault => exact ⟨⟨⟨routers, logs, rfl⟩, rfl⟩, rfl⟩
  | ok u =>
    cases s.answers.internals with
    | none => exact ⟨⟨⟨routers, logs, rfl⟩, rfl⟩, rfl⟩
    | some answer => exact ⟨⟨⟨routers, logs, rfl⟩, rfl⟩, rfl⟩

/-- A request of an invocation is answered alike. -/
theorem perform (related : sim.ElementStates s s') (plans : sim.Plans p p')
    (request : ElementRequest β) :
    sim.ElementStates (request.perform ⟨p, record, lease⟩ s).1
        (request.perform ⟨p', record, lease⟩ s').1 ∧
      (request.perform ⟨p, record, lease⟩ s).2 = (request.perform ⟨p', record, lease⟩ s').2 := by
  cases request with
  | output request =>
    -- the scope of the emission is made of the record and the skew, without the views
    obtain ⟨declared, -, rfl⟩ := sim.plans plans
    obtain ⟨run, answer⟩ :=
      related.run.output (Invocation.emission ⟨p, record, lease⟩) request
    exact ⟨⟨run, related.answers⟩, answer⟩
  | checkInterrupt =>
    obtain ⟨router, bundle, log, rfl, routers, logs⟩ := related.exists_eq
    exact ⟨⟨⟨routers, logs, rfl⟩, rfl⟩, rfl⟩
  | sideInput view type => exact related.sideInput plans view type
  | keyedState => exact related.keyedState plans
  | window => exact related.window plans
  | internals => exact related.internals plans

end ElementStates

/-! ### Runners -/

variable (sim)

/-- Runners with one callback, in related states. -/
structure Runners (r r' : Runner α β σ) : Prop where
  callback : r.callback = r'.callback
  plan : sim.Plans r.plan r'.plan
  state : r.state = r'.state
  run : sim.States r.run r'.run
  bundles : r.bundles = r'.bundles

/-- Related runners, and the same result. -/
structure Ends (ended ended' : Runner α β σ × τ) : Prop where
  runner : sim.Runners ended.1 ended'.1
  result : ended.2 = ended'.2

/-- Related runners, with one bundle and one outcome. -/
structure Turns (t t' : Turn α β σ τ) : Prop where
  runner : sim.Runners t.runner t'.runner
  bundle : t.bundle = t'.bundle
  outcome : t.outcome = t'.outcome

/-- Related runners, with one bundle open on them. -/
structure Sessions (s s' : Session α β σ) : Prop where
  runner : sim.Runners s.runner s'.runner
  bundle : s.bundle = s'.bundle

variable {sim} {r r' : Runner α β σ}

namespace Runners

/-- Related runners stay related where the states of their runs do. -/
theorem mapRun {f : RunState β → RunState β} (keeps : ∀ s s', sim.States s s' →
    sim.States (f s) (f s')) (related : sim.Runners r r') : sim.Runners (r.mapRun f) (r'.mapRun f) :=
  { related with run := keeps _ _ related.run }

theorem tell (related : sim.Runners r r') (notice : Notice) :
    sim.Runners (r.mapRun (·.tell notice)) (r'.mapRun (·.tell notice)) :=
  related.mapRun fun _ _ states => states.tell notice

theorem enter (related : sim.Runners r r') (b : Bundle) : sim.Runners (b.enter r) (b.enter r') :=
  related.mapRun fun _ _ states => states.within (some b.id)

theorem resetCounts (related : sim.Runners r r') :
    sim.Runners (Bundle.resetCounts r) (Bundle.resetCounts r') :=
  related.mapRun fun _ _ states => states.resetCounts

/-- What the library itself reads of the state of a run. -/
theorem seen (related : sim.Runners r r') : r.run.interrupt = r'.run.interrupt ∧
    r.run.leases = r'.run.leases ∧ r.run.router.takeCounts.1 = r'.run.router.takeCounts.1 :=
  ⟨(congrArg RunState.interrupt related.run.rest).symm,
    (congrArg RunState.leases related.run.rest).symm, (sim.takeCounts related.run.router).1⟩

theorem check (related : sim.Runners r r') : r.run.interrupt.check = r'.run.interrupt.check := by
  rw [related.seen.1]

/-- What the library itself reads of a plan. -/
theorem planned (related : sim.Runners r r') :
    r.plan.descriptor = r'.plan.descriptor ∧ r.plan.options = r'.plan.options ∧
      r.plan.windowFn = r'.plan.windowFn := by
  obtain ⟨declared, -, alike⟩ := sim.plans related.plan
  rw [alike]
  exact ⟨rfl, rfl, rfl⟩

/-- The view of an invocation is the same. -/
theorem view (related : sim.Runners r r') (record : Record α) :
    (r.invocation record).view = (r'.invocation record).view := by
  obtain ⟨declared, -, alike⟩ := sim.plans related.plan
  have view : ∀ p : Plan α, ∀ lease, Invocation.view ⟨p, record, lease⟩ =
      ⟨record.value, record.timestamp, record.windows, p.skew, p.options⟩ := fun _ _ => rfl
  rw [Runner.invocation, Runner.invocation, view, view, alike]

/-! ### Visits -/

/-- A bundle phase goes the same way from related runners. -/
theorem runBundlePhase (related : sim.Runners r r')
    (phase : Options → σ → Program (@OutputRequest.Answer β) σ) :
    sim.Ends (r.runBundlePhase phase) (r'.runBundlePhase phase) := by
  obtain ⟨-, options, windowFn⟩ := related.planned
  unfold Runner.runBundlePhase
  rw [← related.check]
  cases r.run.interrupt.check with
  | error fault => exact ⟨related, rfl⟩
  | ok u =>
    -- both run the program of one state and one set of options
    dsimp only
    rw [← options, ← related.state, ← windowFn]
    obtain ⟨run, state, outcome⟩ := Program.run_related sim.States
      (fun request _ _ states => states.output (.bundle r.plan.windowFn) request)
      (phase r.plan.options r.state) _ _ related.run
    exact ⟨⟨related.callback, related.plan, state, run, related.bundles⟩, outcome⟩

theorem runStart (related : sim.Runners r r') : sim.Ends r.runStart r'.runStart := by
  unfold Runner.runStart
  rw [← related.callback]
  exact related.runBundlePhase _

theorem runFinish (related : sim.Runners r r') : sim.Ends r.runFinish r'.runFinish := by
  unfold Runner.runFinish
  rw [← related.callback]
  exact related.runBundlePhase _

/-- The same requests are made in it, with the same answers. -/
theorem exchanges_bundleMoments (related : sim.Runners r r')
    (phase : Options → σ → Program (@OutputRequest.Answer β) σ) :
    (r.bundleMoments phase).map Moment.exchange = (r'.bundleMoments phase).map Moment.exchange := by
  obtain ⟨-, options, windowFn⟩ := related.planned
  rw [Runner.exchanges_bundleMoments, Runner.exchanges_bundleMoments, ← options, ← related.state,
    ← windowFn, Program.exchanges_related sim.States
      (fun request _ _ states => states.output (.bundle r.plan.windowFn) request) _ _ _ related.run]

/-- Requests of invocations under related plans, for one record and one lease, are answered alike. -/
theorem perform (related : sim.Runners r r') (record : Record α) (request : ElementRequest β)
    (s s' : ElementState β) (same : sim.ElementStates s s') :
    sim.ElementStates (request.perform (r.invocation record) s).1
        (request.perform (r'.invocation record) s').1 ∧
      (request.perform (r.invocation record) s).2 =
        (request.perform (r'.invocation record) s').2 := by
  rw [Runner.invocation, Runner.invocation, ← related.seen.2.1]
  exact same.perform related.plan request

/-- An invocation goes the same way from related runners. -/
theorem invoke (related : sim.Runners r r') (record : Record α) :
    sim.Ends (r.invoke record) (r'.invoke record) := by
  unfold Runner.invoke
  rw [← related.check]
  cases r.run.interrupt.check with
  | error fault => exact ⟨related, rfl⟩
  | ok u =>
    -- an invocation begins with a lease of its own, and with no answers
    have start : sim.ElementStates ⟨Runner.lease r.run, .none⟩ ⟨Runner.lease r'.run, .none⟩ :=
      ⟨related.run.lease, rfl⟩
    obtain ⟨env, state, outcome⟩ := Program.run_related sim.ElementStates (related.perform record)
      (r.callback.process (r.invocation record).view r.state) _ _ start
    have view := related.view record
    rw [Runner.invocation, Runner.invocation] at view
    dsimp only
    rw [← related.callback, ← related.state, ← view]
    exact ⟨⟨rfl, related.plan, state, env.run.endLease, related.bundles⟩, outcome⟩

/-- The same requests are made in it, with the same answers. -/
theorem exchanges_elementMoments (related : sim.Runners r r') (record : Record α) :
    (r.elementMoments record).map Moment.exchange =
      (r'.elementMoments record).map Moment.exchange := by
  have start : sim.ElementStates ⟨Runner.lease r.run, .none⟩ ⟨Runner.lease r'.run, .none⟩ :=
    ⟨related.run.lease, rfl⟩
  rw [Runner.exchanges_elementMoments, Runner.exchanges_elementMoments, ← related.callback,
    ← related.state, ← related.view record,
    Program.exchanges_related sim.ElementStates (related.perform record) _ _ _ start]

theorem invokeEach (record : Record α) (ws : List Window) (related : sim.Runners r r') :
    sim.Ends (Runner.invokeEach record ws r) (Runner.invokeEach record ws r') := by
  induction ws generalizing r r' with
  | nil => exact ⟨related, rfl⟩
  | cons w ws ih =>
    have first := related.invoke (record.narrow w)
    unfold Runner.invokeEach
    -- the loop depends on the first invocation by the runner and the result that it ends with
    generalize r.invoke (record.narrow w) = made at first ⊢
    generalize r'.invoke (record.narrow w) = made' at first ⊢
    obtain ⟨next, ended⟩ := made
    obtain ⟨next', ended'⟩ := made'
    obtain ⟨relatedNext, rfl⟩ := first
    cases ended with
    | done u => exact ih relatedNext
    | failed fault => exact ⟨relatedNext, rfl⟩
    | panicked message => exact ⟨relatedNext, rfl⟩

/-- A record is processed the same way by related runners. -/
theorem runElement (related : sim.Runners r r') (record : Record α) :
    sim.Ends (r.runElement record) (r'.runElement record) := by
  unfold Runner.runElement
  rw [← related.planned.1]
  cases r.plan.descriptor.granularity with
  | perRecord =>
    have ends := related.invoke record
    exact ⟨ends.runner, congrArg (Outcome.map _) ends.result⟩
  | perWindow =>
    have ends := related.invokeEach record record.windows.windows
    exact ⟨ends.runner, congrArg (Outcome.map _) ends.result⟩

/-- The visits at an entrance make the same requests, with the same answers. -/
theorem exchanges_visitAt (related : sim.Runners r r') (entrance : Entrance α) :
    (r.visitAt entrance).map Visit.exchanges = (r'.visitAt entrance).map Visit.exchanges := by
  have same : (Visit.mk entrance r).exchanges = (Visit.mk entrance r').exchanges := by
    -- the phases take their program from the callback, which is the same
    cases entrance with
    | start =>
      have phases := related.exchanges_bundleMoments r.callback.start
      rw [Visit.exchanges, Visit.exchanges]
      unfold Visit.moments
      dsimp only
      rw [← related.callback]
      exact phases
    | process visible => exact related.exchanges_elementMoments visible
    | finish =>
      have phases := related.exchanges_bundleMoments r.callback.finish
      rw [Visit.exchanges, Visit.exchanges]
      unfold Visit.moments
      dsimp only
      rw [← related.callback]
      exact phases
  unfold Runner.visitAt
  rw [← related.check]
  cases r.run.interrupt.check with
  | error fault => rfl
  | ok u => rw [List.map_singleton, List.map_singleton, same]

theorem exchanges_visitEach (record : Record α) (ws : List Window) (related : sim.Runners r r') :
    (Runner.visitEach record ws r).map Visit.exchanges =
      (Runner.visitEach record ws r').map Visit.exchanges := by
  induction ws generalizing r r' with
  | nil => rfl
  | cons w ws ih =>
    have now := related.exchanges_visitAt (.process (record.narrow w))
    have first := related.invoke (record.narrow w)
    unfold Runner.visitEach
    rw [List.map_append, List.map_append, now]
    -- there are further visits only if the invocation is done, which it is in both or in neither
    generalize r.invoke (record.narrow w) = made at first ⊢
    generalize r'.invoke (record.narrow w) = made' at first ⊢
    obtain ⟨next, ended⟩ := made
    obtain ⟨next', ended'⟩ := made'
    obtain ⟨relatedNext, rfl⟩ := first
    cases ended with
    | done u => rw [ih relatedNext]
    | failed fault => rfl
    | panicked message => rfl

theorem exchanges_visitElement (related : sim.Runners r r') (record : Record α) :
    (r.visitElement record).map Visit.exchanges = (r'.visitElement record).map Visit.exchanges := by
  unfold Runner.visitElement
  rw [← related.planned.1]
  cases r.plan.descriptor.granularity with
  | perRecord => exact related.exchanges_visitAt _
  | perWindow => exact related.exchanges_visitEach record record.windows.windows

end Runners

/-! ### Calls -/

/-- An operation is settled alike. -/
theorem Ends.settle {ended ended' : Runner α β σ × Outcome Unit} (ends : sim.Ends ended ended')
    (b : Bundle) (operation : Operation) :
    sim.Turns (b.settle operation ended.1 ended.2) (b.settle operation ended'.1 ended'.2) := by
  obtain ⟨r, outcome⟩ := ended
  obtain ⟨r', outcome'⟩ := ended'
  obtain ⟨related, rfl⟩ := ends
  cases outcome with
  | done u => exact ⟨related.tell _, rfl, rfl⟩
  | failed fault => exact ⟨related.tell _, rfl, rfl⟩
  | panicked message => exact ⟨related, rfl, rfl⟩

/-- A call is refused alike. -/
theorem Runners.refuse (related : sim.Runners r r') (b : Bundle) (operation : Operation) :
    sim.Turns (b.refuse operation r : Turn α β σ τ) (b.refuse operation r') :=
  ⟨related.tell _, rfl, rfl⟩

/-- The span of a bundle is left alike. -/
theorem Turns.leave {t t' : Turn α β σ τ} (related : sim.Turns t t') :
    sim.Turns (Bundle.leave t) (Bundle.leave t') :=
  ⟨related.runner.mapRun fun _ _ states => states.within none, related.bundle, related.outcome⟩

/-- A bundle is closed alike. -/
theorem Turns.close {t t' : Turn α β σ Unit} (related : sim.Turns t t') :
    sim.Turns (Bundle.close t) (Bundle.close t') := by
  obtain ⟨r, b, outcome⟩ := t
  obtain ⟨r', b', outcome'⟩ := t'
  obtain ⟨related, rfl, rfl⟩ := related
  cases outcome with
  | done u =>
    -- the summary is read off the counters
    have summary : b.summary r.run.router.takeCounts.1 = b.summary r'.run.router.takeCounts.1 := by
      rw [related.seen.2.2]
    refine ⟨?_, rfl, congrArg Outcome.done summary⟩
    show sim.Runners ((Bundle.resetCounts r).mapRun (·.tell (.bundleFinished (b.summary _))))
      ((Bundle.resetCounts r').mapRun (·.tell (.bundleFinished (b.summary _))))
    rw [summary]
    exact related.resetCounts.tell _
  | failed fault => exact ⟨related, rfl, rfl⟩
  | panicked message => exact ⟨related, rfl, rfl⟩

/-- A bundle is started alike. -/
theorem Runners.start (related : sim.Runners r r') (b : Bundle) :
    sim.Turns (b.start r) (b.start r') := by
  unfold Bundle.start
  cases b.advance .start with
  | none => exact related.refuse b .start
  | some begun => exact ((related.enter begun).resetCounts.runStart.settle begun .start).leave

/-- A record is processed alike. -/
theorem Runners.process (related : sim.Runners r r') (b : Bundle) (record : Record α) :
    sim.Turns (b.process r record) (b.process r' record) := by
  unfold Bundle.process
  cases b.advance .process with
  | none => exact related.refuse b .process
  | some begun =>
    have ends := (related.enter begun).runElement record
    dsimp only
    rw [← ends.result]
    -- the number of invocations is settled apart from the outcome
    have counted : sim.Ends
        (((begun.enter r).runElement record).1, ((begun.enter r).runElement record).2.map fun _ => ())
        (((begun.enter r').runElement record).1,
          ((begun.enter r).runElement record).2.map fun _ => ()) := ⟨ends.runner, rfl⟩
    exact (counted.settle _ .process).leave

/-- A bundle is finished alike. -/
theorem Runners.finish (related : sim.Runners r r') (b : Bundle) :
    sim.Turns (b.finish r) (b.finish r') := by
  unfold Bundle.finish
  cases b.advance .finish with
  | none => exact related.refuse b .finish
  | some begun => exact ((related.enter begun).runFinish.settle begun .finish).close.leave

theorem Turns.ofTurn {t t' : Turn α β σ τ} (related : sim.Turns t t') :
    sim.Sessions (Session.ofTurn t) (Session.ofTurn t') :=
  ⟨related.runner, congrArg some related.bundle⟩

namespace Sessions

variable {s s' : Session α β σ}

/-- **One call.** A call leaves related sessions behind, and is replied to alike. -/
theorem perform (related : sim.Sessions s s') (call : Call α) :
    sim.Sessions (s.perform call).1 (s'.perform call).1 ∧
      (s.perform call).2 = (s'.perform call).2 := by
  obtain ⟨r, opened⟩ := s
  obtain ⟨r', opened'⟩ := s'
  obtain ⟨runner, rfl⟩ := related
  replace runner : sim.Runners r r' := runner
  cases call with
  -- a bundle is numbered by a counter that the runners agree on
  | openBundle =>
    have numbered : r.bundles = r'.bundles := runner.bundles
    refine ⟨⟨{ runner with bundles := congrArg (· + 1) numbered }, ?_⟩, ?_⟩
    · exact congrArg (fun n => some (Bundle.fresh (n + 1))) numbered
    · exact congrArg (fun n => Reply.opened (n + 1)) numbered
  | dropBundle => exact ⟨⟨runner, rfl⟩, rfl⟩
  -- calls on a bundle: without one they come to nothing
  | start =>
    cases opened with
    | none => exact ⟨⟨runner, rfl⟩, rfl⟩
    | some b =>
      have turns := runner.start b
      exact ⟨turns.ofTurn, congrArg Reply.moved turns.outcome⟩
  | process record =>
    cases opened with
    | none => exact ⟨⟨runner, rfl⟩, rfl⟩
    | some b =>
      have turns := runner.process b record
      exact ⟨turns.ofTurn, congrArg Reply.moved turns.outcome⟩
  | finish =>
    cases opened with
    | none => exact ⟨⟨runner, rfl⟩, rfl⟩
    | some b =>
      have turns := runner.finish b
      exact ⟨turns.ofTurn, congrArg Reply.finished turns.outcome⟩
  -- what is done outside of a bundle
  | raise reason => exact ⟨⟨runner.mapRun fun _ _ states => states.signal (.raise reason), rfl⟩, rfl⟩
  | clear => exact ⟨⟨runner.mapRun fun _ _ states => states.signal .clear, rfl⟩, rfl⟩
  | useState handle call =>
    obtain ⟨run, result⟩ := runner.run.useState handle call
    exact ⟨⟨{ runner with run := run }, rfl⟩, congrArg Reply.state result⟩
  | useInternals handle =>
    have result : r.run.useInternals handle = r'.run.useInternals handle := by
      rw [runner.run.rest]
      rfl
    exact ⟨⟨runner, rfl⟩, congrArg Reply.internals result⟩

/-- The same requests are made during a call, with the same answers. -/
theorem exchanges (related : sim.Sessions s s') (call : Call α) :
    (Stage.mk s call).exchanges = (Stage.mk s' call).exchanges := by
  -- whether a call begins is up to the bundle alone
  have begun : (Stage.mk s call).begun? = (Stage.mk s' call).begun? := by
    unfold Stage.begun?
    rw [related.bundle]
  rw [Stage.exchanges_eq, Stage.exchanges_eq]
  unfold Stage.visits
  rw [← begun]
  cases (Stage.mk s call).begun? with
  | none => rfl
  | some begun =>
    have entered := related.runner.enter begun
    cases call with
    | start => exact congrArg List.flatten (entered.resetCounts.exchanges_visitAt .start)
    | process record => exact congrArg List.flatten (entered.exchanges_visitElement record)
    | finish => exact congrArg List.flatten (entered.exchanges_visitAt .finish)
    | _ => rfl

/-- **A sequence of calls.** From related sessions, every sequence of calls leads to related sessions,
    with the same replies, and with the same requests and answers during each call. -/
theorem performAll (related : sim.Sessions s s') (calls : List (Call α)) :
    sim.Sessions (s.performAll calls).1 (s'.performAll calls).1 ∧
      (s.performAll calls).2 = (s'.performAll calls).2 ∧
      (s.stages calls).map Stage.exchanges = (s'.stages calls).map Stage.exchanges := by
  induction calls generalizing s s' with
  | nil => exact ⟨related, rfl, rfl⟩
  | cons call calls ih =>
    obtain ⟨first, reply⟩ := related.perform call
    obtain ⟨last, replies, later⟩ := ih first
    refine ⟨last, ?_, ?_⟩
    · rw [Session.performAll_cons, Session.performAll_cons, reply, replies]
    · rw [Session.stages_cons, Session.stages_cons, List.map_cons, List.map_cons,
        related.exchanges call, later]

end Sessions

/-! ### Runners that are built -/

/-- A callback is set up alike under related bindings, and the runners that come of it are related, as
    long as the notices that they are ready keep the logs related. -/
theorem States.build {callback : Callback α β σ} {binding binding' : Binding α β}
    {settings : Settings}
    (fresh : sim.States (Runner.freshRun binding settings) (Runner.freshRun binding' settings))
    (plans : sim.Plans (Runner.planOf callback binding settings)
      (Runner.planOf callback binding' settings))
    (ready : ∀ s s', sim.States s s' → sim.States
      (s.tell (Runner.readyNotice (Runner.planOf callback binding settings) s))
      (s'.tell (Runner.readyNotice (Runner.planOf callback binding' settings) s')))
    (state : σ) :
    (Runner.build callback state binding settings).state =
        (Runner.build callback state binding' settings).state ∧
      (Runner.build callback state binding settings).outcome.map (fun _ => ()) =
        (Runner.build callback state binding' settings).outcome.map (fun _ => ()) ∧
      ∀ r r', (Runner.build callback state binding settings).outcome = .done r →
        (Runner.build callback state binding' settings).outcome = .done r' → sim.Runners r r' := by
  -- the setups run in step, whether or not it comes to them
  obtain ⟨env, same, outcome⟩ := Program.run_related sim.States
    (fun request _ _ states => states.setup request) (callback.setup state) _ _ fresh
  unfold Runner.build
  cases settings.validate with
  | error fault => exact ⟨rfl, rfl, fun r r' built => absurd built (by simp)⟩
  | ok u =>
    cases callback.descriptor.validate with
    | error fault => exact ⟨rfl, rfl, fun r r' built => absurd built (by simp)⟩
    | ok u =>
      dsimp only
      rw [← outcome, ← same]
      cases ((callback.setup state).run SetupRequest.perform
          (Runner.freshRun binding settings)).outcome with
      -- only here do runners come of it, and they have told that they are ready
      | done u =>
        refine ⟨rfl, rfl, fun r r' built built' => ?_⟩
        obtain rfl := Outcome.done.inj built
        obtain rfl := Outcome.done.inj built'
        exact ⟨rfl, plans, rfl, ready _ _ env, rfl⟩
      | failed fault => exact ⟨rfl, rfl, fun r r' built => absurd built (by simp)⟩
      | panicked message => exact ⟨rfl, rfl, fun r r' built => absurd built (by simp)⟩

end Simulation

end BundleRunner
