import BundleRunner.Proofs.Events

namespace BundleRunner

/-!
# What an event changes

Every event has one part of the state that it can change, and leaves the others alone:

* `Part`, `Event.part` — the part of an event;
* `Event.silent_after` — up to the log, an event changes its part at most, with one lemma for each
  part that stays (`Event.router_after` and so on);
* `Session.view_performAll` — a view that every request extends, and that nothing else changes, is
  extended by a whole run with what its requests add.
-/

universe u

variable {α β σ : Type}

/-! ### Parts -/

/-- The parts of a state that events change. -/
inductive Part where
  | outputs
  | registry
  | signal
  | cells
  | queries
  | reads
  | lease
  | nothing
deriving DecidableEq

/-- The state `s` with one part taken over from the state `s'`. -/
def Part.patch (p : Part) (s s' : RunState β) : RunState β :=
  match p with
  | outputs => { s with router := s'.router }
  | registry => { s with registry := s'.registry }
  | signal => { s with interrupt := s'.interrupt }
  | cells => { s with cells := s'.cells }
  | queries => { s with queries := s'.queries }
  | reads => { s with reads := s'.reads }
  | lease => { s with leases := s'.leases, live := s'.live }
  | nothing => s

/-- The part that a shared request changes. -/
def SharedRequest.part : SharedRequest → Part
  | create .. => .registry
  | add .. => .registry
  | value .. => .nothing
  | raise _ => .signal
  | clear => .signal

/-- The part that a request in an emission scope changes. -/
def OutputRequest.part : OutputRequest β → Part
  | shared request => request.part
  | emit .. => .outputs
  | emitTagged .. => .outputs
  | useState .. => .cells
  | useInternals _ => .nothing

/-- The part that a request of an invocation changes. -/
def ElementRequest.part : ElementRequest β → Part
  | output request => request.part
  | checkInterrupt => .nothing
  | sideInput .. => .reads
  | keyedState => .queries
  | window => .queries
  | internals => .queries

/-- The part that a request changes. -/
def Moment.part : Moment α β → Part
  | .bundle _ request _ => request.part
  | .element _ request _ => request.part

/-- The part that a call changes when it is not about the bundle. -/
def Call.part : Call α → Part
  | .raise _ => .signal
  | .clear => .signal
  | .useState .. => .cells
  | _ => .nothing

/-- The part that coming to or going from an entrance changes. -/
def Entrance.part : Entrance α → Part
  | .process _ => .lease
  | _ => .nothing

/-- The part that an event changes. -/
def Event.part : Event α β σ → Part
  | .enter v => v.entrance.part
  | .request m => m.part
  | .leave v => v.entrance.part
  | .outside st _ => st.call.part

/-- A part in a list is none that is not. -/
theorem Part.ne_of_mem {p q : Part} {ps : List Part} (member : p ∈ ps) (other : q ∉ ps) :
    p ≠ q := by
  rintro rfl
  exact other member

theorem SharedRequest.part_mem (request : SharedRequest) :
    request.part ∈ [Part.registry, .signal, .nothing] := by
  cases request <;> simp [part]

/-- At the start and the finish of a bundle, requests do not reach the provider, nor the reader of
    side inputs. -/
theorem OutputRequest.part_mem (request : OutputRequest β) :
    request.part ∈ [Part.outputs, .registry, .signal, .cells, .nothing] := by
  cases request with
  | shared request => cases request <;> simp [part, SharedRequest.part]
  | _ => simp [part]

theorem Call.part_mem (call : Call α) : call.part ∈ [Part.signal, .cells, .nothing] := by
  cases call <;> simp [part]

theorem Entrance.part_mem (entrance : Entrance α) : entrance.part ∈ [Part.lease, .nothing] := by
  cases entrance <;> simp [part]

namespace Moment

/-- The request in an emission scope that a request is, and its scope.  An invocation can ask for
    more than that. -/
def output? : Moment α β → Option (Scope α × OutputRequest β)
  | bundle windowFn request _ => some (.bundle windowFn, request)
  | element i (.output request) _ => some (i.emission, request)
  | _ => none

/-- A request in an emission scope is answered in its scope. -/
theorem after_of_output {m : Moment α β} {scope : Scope α} {request : OutputRequest β}
    (output : m.output? = some (scope, request)) :
    m.after = (request.perform scope m.before).1 ∧ m.part = request.part := by
  unfold output? at output
  split at output
  next => cases output; exact ⟨rfl, rfl⟩
  next => cases output; exact ⟨rfl, rfl⟩
  next => exact absurd output (by simp)

/-- What only an invocation can ask for is for the provider or the reader of side inputs. -/
theorem part_mem_of_inner {m : Moment α β} (inner : m.output? = none) :
    m.part ∈ [Part.queries, .reads, .nothing] := by
  cases m with
  | bundle windowFn request s => exact absurd inner (by simp [output?])
  | element i request s =>
    cases request with
    | output request => exact absurd inner (by simp [output?])
    | _ => simp [part, ElementRequest.part]

/-- No request is about leases. -/
theorem part_ne_lease (m : Moment α β) : m.part ≠ .lease := by
  -- a request is one in an emission scope, or one that only an invocation can make
  cases output : m.output? with
  | some asked =>
    rw [(after_of_output output).2]
    exact Part.ne_of_mem asked.2.part_mem (by decide)
  | none => exact Part.ne_of_mem (part_mem_of_inner output) (by decide)

end Moment

theorem SharedRequest.silent_perform (request : SharedRequest) (s : RunState β) :
    (request.perform s).1.silent =
      request.part.patch s.silent (request.perform s).1.silent := by
  cases request with
  | create name input output combiner =>
    simp only [SharedRequest.perform, RunState.silent_tellAny]
    rfl
  | _ => rfl

theorem RunState.silent_useState (s : RunState β) (handle : StateHandle) (call : StateCall) :
    (s.useState handle call).1.silent =
      Part.cells.patch s.silent (s.useState handle call).1.silent := by
  unfold useState
  split
  · rfl
  · split <;> rfl

theorem OutputRequest.silent_perform (scope : Scope α) (request : OutputRequest β)
    (s : RunState β) :
    (request.perform scope s).1.silent =
      request.part.patch s.silent (request.perform scope s).1.silent := by
  cases request with
  | shared request => exact request.silent_perform s
  | emit value explicit =>
    simp only [OutputRequest.perform, RunState.emit, RunState.deliver, RunState.silent_tellAny]
    rfl
  | emitTagged tag value explicit =>
    simp only [OutputRequest.perform, RunState.emitTagged, RunState.deliver,
      RunState.silent_tellAny]
    rfl
  | useState handle call => exact s.silent_useState handle call
  | useInternals handle => rfl

theorem ElementRequest.silent_perform (i : Invocation α) (request : ElementRequest β)
    (s : ElementState β) :
    (request.perform i s).1.run.silent =
      request.part.patch s.run.silent (request.perform i s).1.run.silent := by
  cases request with
  | output request => exact request.silent_perform i.emission s.run
  | checkInterrupt => rfl
  | sideInput view type =>
    simp only [ElementRequest.perform, Invocation.sideInput]
    split <;> rfl
  -- refused, served again, or asked: only the last adds a query
  | keyedState =>
    simp only [ElementRequest.perform, Invocation.keyedState, Invocation.askKeyedState]
    split
    · rfl
    · split <;> rfl
  | window =>
    simp only [ElementRequest.perform, Invocation.window, Invocation.askWindow]
    split
    · rfl
    · split <;> rfl
  | internals =>
    simp only [ElementRequest.perform, Invocation.internals, Invocation.askInternals]
    split
    · rfl
    · split <;> rfl

namespace Event

/-- **What an event changes.** Up to the log, an event changes its part of the state at most. -/
theorem silent_after (e : Event α β σ) :
    e.after.silent = e.part.patch e.before.silent e.after.silent := by
  cases e with
  | enter v =>
    obtain ⟨entrance, r⟩ := v
    cases entrance <;> rfl
  | request m =>
    cases m with
    | bundle windowFn request s => exact request.silent_perform _ s
    | element i request s => exact request.silent_perform i s
  | leave v =>
    obtain ⟨entrance, r⟩ := v
    cases entrance <;> rfl
  | outside st idle =>
    obtain ⟨s, call⟩ := st
    cases call with
    | useState handle call => exact s.runner.run.silent_useState handle call
    -- calls on the bundle are no events of their own
    | start => exact absurd idle (by simp [Call.operation?])
    | process record => exact absurd idle (by simp [Call.operation?])
    | finish => exact absurd idle (by simp [Call.operation?])
    | _ => rfl

/-- A view that no change to the event's part changes is not changed by the event. -/
theorem view_after {τ : Type u} (view : RunState β → τ) (e : Event α β σ)
    (untouched : ∀ s s' : RunState β, view (e.part.patch s s') = view s) :
    view e.after.silent = view e.before.silent := by
  rw [e.silent_after, untouched]

variable {e : Event α β σ}

theorem router_after (h : e.part ≠ .outputs) : e.after.router = e.before.router :=
  e.view_after RunState.router fun s s' => by
    cases part : e.part with
    | outputs => exact absurd part h
    | _ => rfl

theorem registry_after (h : e.part ≠ .registry) : e.after.registry = e.before.registry :=
  e.view_after RunState.registry fun s s' => by
    cases part : e.part with
    | registry => exact absurd part h
    | _ => rfl

theorem interrupt_after (h : e.part ≠ .signal) : e.after.interrupt = e.before.interrupt :=
  e.view_after RunState.interrupt fun s s' => by
    cases part : e.part with
    | signal => exact absurd part h
    | _ => rfl

theorem cells_after (h : e.part ≠ .cells) : e.after.cells = e.before.cells :=
  e.view_after RunState.cells fun s s' => by
    cases part : e.part with
    | cells => exact absurd part h
    | _ => rfl

theorem queries_after (h : e.part ≠ .queries) : e.after.queries = e.before.queries :=
  e.view_after RunState.queries fun s s' => by
    cases part : e.part with
    | queries => exact absurd part h
    | _ => rfl

theorem reads_after (h : e.part ≠ .reads) : e.after.reads = e.before.reads :=
  e.view_after RunState.reads fun s s' => by
    cases part : e.part with
    | reads => exact absurd part h
    | _ => rfl

theorem lease_after (h : e.part ≠ .lease) :
    (e.after.live, e.after.leases) = (e.before.live, e.before.leases) :=
  e.view_after (fun s => (s.live, s.leases)) fun s s' => by
    cases part : e.part with
    | lease => exact absurd part h
    | _ => rfl

end Event

/-! ### Before the first call -/

/-- The part that a request of the setup changes. -/
def SetupRequest.part : SetupRequest → Part
  | shared request => request.part
  | find .. => .nothing

theorem SetupRequest.silent_perform (request : SetupRequest) (s : RunState β) :
    (request.perform s).1.silent =
      request.part.patch s.silent (request.perform s).1.silent := by
  cases request with
  | shared request => exact request.silent_perform s
  | find name input output => rfl

/-- The setup changes aggregators and the signal at most. -/
theorem SetupRequest.part_mem (request : SetupRequest) :
    request.part ∈ [Part.registry, .signal, .nothing] := by
  cases request with
  | shared request => exact request.part_mem
  | find name input output => simp [part]

/-- **Before the first call.** Up to the log, a runner that was built finds the state of a fresh
    run, but for the aggregators and the signal. -/
theorem Runner.silent_of_build {callback : Callback α β σ} {state : σ} {binding : Binding α β}
    {settings : Settings} {r : Runner α β σ}
    (built : (build callback state binding settings).outcome = .done r) :
    ∃ registry interrupt,
      r.run.silent = { freshRun binding settings with registry, interrupt } := by
  obtain ⟨-, -, -, -, -, run⟩ := build_eq_done built
  let Kept (s : RunState β) : Prop :=
    ∃ registry interrupt, s.silent = { freshRun binding settings with registry, interrupt }
  have keeps : ∀ (request : SetupRequest) (s : RunState β),
      Kept s → Kept (request.perform s).1 := by
    rintro request s ⟨registry, interrupt, kept⟩
    show ∃ registry interrupt, (request.perform s).1.silent = _
    have part := request.part_mem
    rw [request.silent_perform s, kept]
    generalize request.part = p at part ⊢
    -- whichever part the request changes, the rest is as it was
    cases p with
    | registry => exact ⟨_, interrupt, rfl⟩
    | signal => exact ⟨registry, _, rfl⟩
    | nothing => exact ⟨registry, interrupt, rfl⟩
    | _ => exact absurd part (by decide)
  -- the setup is a program, and what each request keeps the program keeps
  have kept : Kept (setupRun callback state binding settings).env :=
    Program.run_invariant Kept keeps _ _ ⟨_, _, rfl⟩
  rw [run, RunState.silent_tell]
  exact kept

/-! ### Accumulation over a run -/

/-- The request that an event is, if it is one. -/
def Event.moments : Event α β σ → List (Moment α β)
  | .request m => [m]
  | _ => []

/-- The parts that requests change, and nothing else. -/
def Part.requested : Part → Bool
  | outputs => true
  | registry => true
  | queries => true
  | reads => true
  | _ => false

/-- An event that is no request changes none of these parts. -/
theorem Event.part_ne_of_silent {e : Event α β σ} (silent : e.moments = []) {p : Part}
    (requested : p.requested = true) : e.part ≠ p := by
  have entrance : ∀ q ∈ [Part.lease, .nothing], q.requested = false := by decide
  have call : ∀ q ∈ [Part.signal, .cells, .nothing], q.requested = false := by decide
  rintro rfl
  cases e with
  | enter v => exact absurd requested (by simp [part, entrance _ v.entrance.part_mem])
  | request m => exact absurd silent (by simp [moments])
  | leave v => exact absurd requested (by simp [part, entrance _ v.entrance.part_mem])
  | outside st idle => exact absurd requested (by simp [part, call _ st.call.part_mem])

/-- What an event can do to the outputs: nothing, or what one of the two emissions does. -/
theorem Event.router_cases (e : Event α β σ) :
    e.after.router = e.before.router ∨
    (∃ (scope : Scope α) (value : β) (explicit : Option Instant),
      e.after.router = (e.before.router.emitMain scope value explicit).router) ∨
    ∃ (scope : Scope α) (tag : String) (value : Value) (explicit : Option Instant),
      e.after.router = (e.before.router.emitTagged scope tag value explicit).router := by
  by_cases part : e.part = .outputs
  · cases e with
    | request m =>
      cases output : m.output? with
      | none => exact absurd part (Part.ne_of_mem (Moment.part_mem_of_inner output) (by decide))
      | some asked =>
        obtain ⟨scope, request⟩ := asked
        obtain ⟨made, same⟩ := Moment.after_of_output output
        have part : request.part = .outputs := same.symm.trans part
        rw [after, before, made]
        cases request with
        | emit value explicit =>
          exact Or.inr (Or.inl ⟨scope, value, explicit, m.before.router_deliver _⟩)
        | emitTagged tag value explicit =>
          exact Or.inr (Or.inr ⟨scope, tag, value, explicit, m.before.router_deliver _⟩)
        | shared request => exact absurd part (Part.ne_of_mem request.part_mem (by decide))
        | _ => exact absurd part (by simp [OutputRequest.part])
    | _ => exact absurd part (part_ne_of_silent rfl rfl)
  · exact Or.inl (router_after part)

theorem Visit.flatMap_moments_events (v : Visit α β σ) :
    v.events.flatMap Event.moments = v.moments := by
  have requests : (v.moments.map (.request : Moment α β → Event α β σ)).flatMap Event.moments =
      v.moments := by
    rw [List.flatMap_map]
    exact List.flatMap_singleton' v.moments
  rw [events, List.flatMap_cons, List.flatMap_append, requests]
  exact List.append_nil _

/-- The requests of a run are the moments of its stages. -/
theorem Session.flatMap_moments_events (s : Session α β σ) (calls : List (Call α)) :
    (s.events calls).flatMap Event.moments = (s.stages calls).flatMap Stage.moments := by
  have stage : ∀ st : Stage α β σ, st.events.flatMap Event.moments = st.moments := by
    intro st
    -- a call that is not about the bundle makes no visits
    cases performs : st.call.operation? with
    | none =>
      have quiet : st.visits = [] := Stage.visits_of_refused (by
        cases opened : st.before.bundle <;> simp [Stage.begun?, performs, opened])
      rw [Stage.events, Stage.acts_of_idle performs, Stage.moments, quiet]
      rfl
    | some operation =>
      rw [Stage.events, Stage.acts_of_operation performs, Stage.moments, List.flatMap_assoc,
        List.flatMap_map]
      exact congrArg (fun f => st.visits.flatMap f) (funext Visit.flatMap_moments_events)
  unfold events acts
  rw [List.flatMap_assoc, List.flatMap_assoc]
  refine congrArg (fun f => (s.stages calls).flatMap f) (funext fun st => ?_)
  rw [← stage, Stage.events, List.flatMap_assoc]

/-- **Accumulation over a session.** A view that only requests extend holds in the end what it held
    before, followed by what the moments of all calls add to it, in order. -/
theorem Session.view_performAll {τ : Type} (view : RunState β → List τ)
    (gain : Moment α β → List τ) (worldly : ∀ s : RunState β, view s.world = view s)
    (silent : ∀ e : Event α β σ, e.moments = [] → view e.after = view e.before)
    (moment : ∀ m : Moment α β, view m.after = view m.before ++ gain m) (s : Session α β σ)
    (calls : List (Call α)) :
    view (s.performAll calls).1.runner.run =
      view s.runner.run ++ (s.stages calls).flatMap fun st => st.moments.flatMap gain := by
  -- events lead to one another up to the log and the counters, and `view` reads neither
  have follows : ∀ e ∈ s.events calls, view e.after.world =
      view e.before.world ++ e.moments.flatMap gain := by
    intro e _
    rw [worldly, worldly]
    by_cases quiet : e.moments = []
    · rw [quiet, silent e quiet]
      exact (List.append_nil _).symm
    · cases e with
      | request m =>
        rw [Event.moments, List.flatMap_singleton]
        exact moment m
      | _ => exact absurd rfl quiet
  have folded := (s.leads_events calls).fold view (fun e t => t ++ e.moments.flatMap gain) follows
  rw [worldly, worldly] at folded
  rw [folded, List.foldl_append_eq_append, ← List.flatMap_def, ← List.flatMap_assoc,
    s.flatMap_moments_events, List.flatMap_assoc]

/-- A view of a run that reads the outputs only, and that each moment extends with its gain. -/
structure Accumulates {τ : Type} (view : RunState β → List τ) (gain : Moment α β → List τ) :
    Prop where
  outputs : ∀ {s s' : RunState β}, s.router.main = s'.router.main →
    s.router.side = s'.router.side → view s = view s'
  moment : ∀ m : Moment α β, view m.after = view m.before ++ gain m

/-- A view of the outputs accumulates over a session. -/
theorem Accumulates.view_performAll {τ : Type} {view : RunState β → List τ}
    {gain : Moment α β → List τ} (h : Accumulates view gain) (s : Session α β σ)
    (calls : List (Call α)) :
    view (s.performAll calls).1.runner.run =
      view s.runner.run ++ (s.stages calls).flatMap fun st => st.moments.flatMap gain := by
  refine s.view_performAll view gain (fun s => h.outputs rfl rfl) (fun e silent => ?_) h.moment
    calls
  have same := e.router_after (Event.part_ne_of_silent silent rfl)
  exact h.outputs (congrArg Router.main same) (congrArg Router.side same)

end BundleRunner
