import BundleRunner.Proofs.Leads

namespace BundleRunner

/-!
# Events

A history tells a run layer by layer.  This file lays it out flat, as one list of events, each of
which finds the world as the event before has left it:

* `Event` — a callback is entered, makes a request, or is left, or something is done outside of it;
* `Act` — a visit as a whole, or something that is done outside;
* `Session.leads_acts`, `Session.leads_events` — the acts of a sequence of calls, and their events,
  lead from the state before the calls to the state after them.
-/

variable {α β σ : Type}

/-! ### Visits as events -/

namespace Runner

/-- What the program of a bundle phase leaves behind. -/
def bundleRun (r : Runner α β σ) (phase : Options → σ → Program (@OutputRequest.Answer β) σ) :
    Program.Result (RunState β) σ :=
  (phase r.plan.options r.state).run (OutputRequest.perform (.bundle r.plan.windowFn)) r.run

theorem runBundlePhase_of_ready {r : Runner α β σ} (ready : r.run.interrupt.check = .ok ())
    (phase : Options → σ → Program (@OutputRequest.Answer β) σ) :
    r.runBundlePhase phase =
      ({ r with state := (r.bundleRun phase).state, run := (r.bundleRun phase).env },
        (r.bundleRun phase).outcome) := by
  unfold runBundlePhase
  rw [ready]
  rfl

/-- What the program of an invocation leaves behind. -/
def elementRun (r : Runner α β σ) (record : Record α) : Program.Result (ElementState β) σ :=
  (r.callback.process (r.invocation record).view r.state).run
    (ElementRequest.perform (r.invocation record)) ⟨lease r.run, .none⟩

/-- The runner after the program of an invocation, with the lease at its end. -/
def afterElement (r : Runner α β σ) (ended : Program.Result (ElementState β) σ) : Runner α β σ :=
  { r with state := ended.state, run := endLease ended.env.run }

theorem invoke_of_ready {r : Runner α β σ} (ready : r.run.interrupt.check = .ok ())
    (record : Record α) :
    r.invoke record = (r.afterElement (r.elementRun record), (r.elementRun record).outcome) := by
  unfold invoke
  rw [ready]
  rfl

end Runner

namespace Visit

/-- What the library makes of the visit: the runner after it, and how the callback ended. -/
def turn (v : Visit α β σ) : Runner α β σ × Outcome Unit :=
  match v.entrance with
  | .start => v.runner.runStart
  | .process visible => v.runner.invoke visible
  | .finish => v.runner.runFinish

/-- The state in which the callback's program begins.  An invocation has its lease by then. -/
def opened (v : Visit α β σ) : RunState β :=
  match v.entrance with
  | .process _ => Runner.lease v.runner.run
  | _ => v.runner.run

/-- The state in which the callback's program stops, in whatever way. -/
def stopped (v : Visit α β σ) : RunState β :=
  match v.entrance with
  | .start => (v.runner.bundleRun v.runner.callback.start).env
  | .process visible => (v.runner.elementRun visible).env.run
  | .finish => (v.runner.bundleRun v.runner.callback.finish).env

/-- The state after the visit.  The lease of an invocation has ended by then. -/
def closed (v : Visit α β σ) : RunState β :=
  match v.entrance with
  | .process _ => Runner.endLease v.stopped
  | _ => v.stopped

theorem turn_run {v : Visit α β σ} (ready : v.Ready) : v.turn.1.run = v.closed := by
  obtain ⟨entrance, r⟩ := v
  cases entrance with
  | start => exact congrArg (·.1.run) (Runner.runBundlePhase_of_ready ready _)
  | process visible => exact congrArg (·.1.run) (Runner.invoke_of_ready ready visible)
  | finish => exact congrArg (·.1.run) (Runner.runBundlePhase_of_ready ready _)

/-- While the signal is raised, a visit would change nothing. -/
theorem turn_run_of_interrupted {v : Visit α β σ} {fault : Fault}
    (interrupted : v.runner.run.interrupt.check = .error fault) : v.turn.1.run = v.runner.run := by
  obtain ⟨entrance, r⟩ := v
  cases entrance <;>
    simp [turn, Runner.runStart, Runner.runFinish, Runner.runBundlePhase, Runner.invoke,
      interrupted]

end Visit

/-- Something that happens in a run. -/
inductive Event (α β σ : Type) : Type 1 where
  /-- The callback is entered. -/
  | enter (visit : Visit α β σ)
  /-- The callback makes a request. -/
  | request (moment : Moment α β)
  /-- The callback is left, in whatever way. -/
  | leave (visit : Visit α β σ)
  /-- The scheduler, or someone who kept a handle, does something that is not about the bundle. -/
  | outside (stage : Stage α β σ) (idle : stage.call.operation? = none)

namespace Event

/-- The state that an event finds. -/
def before : Event α β σ → RunState β
  | enter v => v.runner.run
  | request m => m.before
  | leave v => v.stopped
  | outside st _ => st.before.runner.run

/-- The state that an event leaves. -/
def after : Event α β σ → RunState β
  | enter v => v.opened
  | request m => m.after
  | leave v => v.closed
  | outside st _ => st.after.runner.run

end Event

/-- The events of a visit, in order. -/
def Visit.events (v : Visit α β σ) : List (Event α β σ) :=
  .enter v :: (v.moments.map .request ++ [.leave v])

/-- The requests of a bundle phase lead from the state in which its program begins to the one in
    which it stops. -/
theorem Program.leads_requests_output (windowFn : WindowFn α)
    (program : Program (@OutputRequest.Answer β) σ) (s : RunState β) :
    Leads Event.before Event.after s
      ((program.requests (OutputRequest.perform (.bundle windowFn)) s).map fun asked =>
        (Event.request (.bundle windowFn asked.1 asked.2) : Event α β σ))
      (program.run (OutputRequest.perform (.bundle windowFn)) s).env := by
  induction program generalizing s with
  | stop state outcome => rfl
  | ask request next ih => exact ⟨rfl, ih _ _⟩

/-- So do the requests of an invocation. -/
theorem Program.leads_requests_element (i : Invocation α)
    (program : Program (@ElementRequest.Answer β) σ) (s : ElementState β) :
    Leads Event.before Event.after s.run
      ((program.requests (ElementRequest.perform i) s).map fun asked =>
        (Event.request (.element i asked.1 asked.2) : Event α β σ))
      (program.run (ElementRequest.perform i) s).env.run := by
  induction program generalizing s with
  | stop state outcome => rfl
  | ask request next ih => exact ⟨rfl, ih _ _⟩

/-- The requests of a visit lead from the state in which its program begins to the one in which it
    stops. -/
theorem Visit.leads_requests (v : Visit α β σ) :
    Leads Event.before Event.after v.opened
      (v.moments.map (.request : Moment α β → Event α β σ)) v.stopped := by
  obtain ⟨entrance, r⟩ := v
  cases entrance with
  | start =>
    simp only [moments, Runner.bundleMoments, List.map_map]
    exact Program.leads_requests_output _ _ _
  | process visible =>
    simp only [moments, Runner.elementMoments, List.map_map]
    exact Program.leads_requests_element (r.invocation visible) _ ⟨Runner.lease r.run, .none⟩
  | finish =>
    simp only [moments, Runner.bundleMoments, List.map_map]
    exact Program.leads_requests_output _ _ _

/-- The events of a visit lead from the state before it to the state after it. -/
theorem Visit.leads_events (v : Visit α β σ) :
    Leads Event.before Event.after v.runner.run v.events v.closed :=
  ⟨rfl, v.leads_requests.append (Leads.single (Event.leave v))⟩

/-! ### Runs as events -/

/-- What happens during a call: the callback is visited, or something is done outside of it. -/
inductive Act (α β σ : Type) : Type 1 where
  | visit (visit : Visit α β σ)
  | outside (stage : Stage α β σ) (idle : stage.call.operation? = none)

namespace Act

/-- The state before an act. -/
def before : Act α β σ → RunState β
  | visit v => v.runner.run
  | outside st _ => st.before.runner.run

/-- The state after an act. -/
def after : Act α β σ → RunState β
  | visit v => v.closed
  | outside st _ => st.after.runner.run

/-- The events of an act. -/
def events : Act α β σ → List (Event α β σ)
  | visit v => v.events
  | outside st idle => [.outside st idle]

theorem leads_events (a : Act α β σ) :
    Leads Event.before Event.after a.before a.events a.after := by
  cases a with
  | visit v => exact v.leads_events
  | outside st idle => exact Leads.single (Event.outside st idle)

end Act

namespace Stage

/-- The acts of a call. -/
def acts (st : Stage α β σ) : List (Act α β σ) :=
  match h : st.call.operation? with
  | none => [.outside st h]
  | some _ => st.visits.map .visit

/-- The events of a call. -/
def events (st : Stage α β σ) : List (Event α β σ) := st.acts.flatMap Act.events

theorem acts_of_idle {st : Stage α β σ} (idle : st.call.operation? = none) :
    st.acts = [.outside st idle] := by
  unfold acts
  split
  next => rfl
  next performs => exact absurd (idle.symm.trans performs) (by simp)

theorem acts_of_operation {st : Stage α β σ} {operation : Operation}
    (performs : st.call.operation? = some operation) : st.acts = st.visits.map .visit := by
  unfold acts
  split
  next idle => exact absurd (idle.symm.trans performs) (by simp)
  next => rfl

end Stage

/-- The acts of a sequence of calls. -/
def Session.acts (s : Session α β σ) (calls : List (Call α)) : List (Act α β σ) :=
  (s.stages calls).flatMap Stage.acts

/-- The events of a sequence of calls. -/
def Session.events (s : Session α β σ) (calls : List (Call α)) : List (Event α β σ) :=
  (s.acts calls).flatMap Act.events

/-! ### From call to call -/

namespace Bundle

theorem world_settle (b : Bundle) (operation : Operation) (r : Runner α β σ)
    (outcome : Outcome Unit) :
    (b.settle operation r outcome).runner.run.world = r.run.world := by
  cases outcome <;> rfl

theorem world_close (t : Turn α β σ Unit) :
    (close t).runner.run.world = t.runner.run.world := by
  unfold close
  cases t.outcome <;> rfl

end Bundle

namespace Runner

/-- The visit at an entrance, if there is one, leads to the state after it. -/
theorem leads_visitAt (r : Runner α β σ) (entrance : Entrance α) :
    Leads Act.before Act.after r.run ((r.visitAt entrance).map .visit)
      (Visit.mk entrance r).turn.1.run := by
  cases ready : r.run.interrupt.check with
  | error fault =>
    rw [visitAt_of_interrupted ready]
    exact (congrArg RunState.world (Visit.turn_run_of_interrupted (v := ⟨entrance, r⟩) ready)).symm
  | ok u =>
    rw [visitAt_of_ready ready, Visit.turn_run (v := ⟨entrance, r⟩) ready]
    exact Leads.single (Act.visit ⟨entrance, r⟩)

/-- The visits in a list of windows lead to the state after the invocations in them. -/
theorem leads_visitEach (record : Record α) (ws : List Window) (r : Runner α β σ) :
    Leads Act.before Act.after r.run ((visitEach record ws r).map .visit)
      (invokeEach record ws r).1.run := by
  induction ws generalizing r with
  | nil => rfl
  | cons w ws ih =>
    have first := r.leads_visitAt (.process (record.narrow w))
    have turned : (Visit.mk (.process (record.narrow w)) r).turn = r.invoke (record.narrow w) :=
      rfl
    rw [turned] at first
    unfold visitEach invokeEach
    rw [List.map_append]
    generalize r.invoke (record.narrow w) = made at first ⊢
    obtain ⟨r', ended⟩ := made
    -- the next window is reached only when this invocation is done
    cases ended with
    | done u => exact first.append (ih r')
    | failed fault => exact first.append rfl
    | panicked message => exact first.append rfl

/-- The visits for a record lead to the state after its processing. -/
theorem leads_visitElement (r : Runner α β σ) (record : Record α) :
    Leads Act.before Act.after r.run ((r.visitElement record).map .visit)
      (r.runElement record).1.run := by
  unfold visitElement runElement
  cases r.plan.descriptor.granularity with
  | perRecord => exact r.leads_visitAt (.process record)
  | perWindow => exact leads_visitEach record record.windows.windows r

end Runner

/-- The acts of a call lead from the state before it to the state after it. -/
theorem Stage.leads_acts (st : Stage α β σ) :
    Leads Act.before Act.after st.before.runner.run st.acts st.after.runner.run := by
  cases performs : st.call.operation? with
  | none =>
    rw [acts_of_idle performs]
    exact Leads.single (Act.outside st performs)
  | some operation =>
    rw [acts_of_operation performs]
    obtain ⟨⟨r, opened⟩, call⟩ := st
    cases opened with
    | none =>
      -- nothing can be done on a bundle when none is open
      cases call with
      | start => rfl
      | process record => rfl
      | finish => rfl
      | _ => exact absurd performs (by simp [Call.operation?])
    | some b =>
      -- a call that is refused warns and makes no visit
      cases advance : b.advance operation with
      | none =>
        have refused : (Stage.mk ⟨r, some b⟩ call).begun? = none := by
          simp [begun?, performs, advance]
        rw [visits_of_refused refused, after, Session.perform_of_refused performs advance]
        rfl
      | some begun =>
        have begins : (Stage.mk ⟨r, some b⟩ call).begun? = some begun := by
          simp [begun?, performs, advance]
        rw [visits_of_begun begins]
        cases call with
        | start =>
          -- the start sets the counters to zero, which the world does not show
          obtain rfl : .start = operation := Option.some.inj performs
          refine Leads.congr ?_ ?_ ((Bundle.resetCounts (begun.enter r)).leads_visitAt .start)
          · rfl
          · simp only [after, Session.perform, Session.ofTurn, Bundle.start, advance]
            exact (Bundle.world_settle begun .start _ _).symm
        | process record =>
          obtain rfl : .process = operation := Option.some.inj performs
          refine Leads.congr ?_ ?_ ((begun.enter r).leads_visitElement record)
          · rfl
          · simp only [after, Session.perform, Session.ofTurn, Bundle.process, advance]
            exact (Bundle.world_settle _ .process _ _).symm
        | finish =>
          obtain rfl : .finish = operation := Option.some.inj performs
          refine Leads.congr ?_ ?_ ((begun.enter r).leads_visitAt .finish)
          · rfl
          · simp only [after, Session.perform, Session.ofTurn, Bundle.finish, advance]
            exact ((Bundle.world_close _).trans (Bundle.world_settle begun .finish _ _)).symm
        | _ => exact absurd performs (by simp [Call.operation?])

namespace Session

/-- **A run as acts.** The acts of a sequence of calls lead from the state before the calls to the
    state after them. -/
theorem leads_acts (s : Session α β σ) (calls : List (Call α)) :
    Leads Act.before Act.after s.runner.run (s.acts calls) (s.performAll calls).1.runner.run := by
  induction calls generalizing s with
  | nil => rfl
  | cons call calls ih =>
    have first := Stage.leads_acts ⟨s, call⟩
    exact first.append (ih _)

/-- **A run as events.** So do its events. -/
theorem leads_events (s : Session α β σ) (calls : List (Call α)) :
    Leads Event.before Event.after s.runner.run (s.events calls)
      (s.performAll calls).1.runner.run :=
  (s.leads_acts calls).flatMap fun a _ => a.leads_events

/-- A visit among the acts of a run is one of a call, and finds the signal down, and the callback
    and the plan of the session. -/
theorem of_visit_mem_acts {s : Session α β σ} {calls : List (Call α)} {v : Visit α β σ}
    (h : .visit v ∈ s.acts calls) :
    (∃ st ∈ s.stages calls, v ∈ st.visits) ∧ v.Ready ∧ v.runner.fixed = s.runner.fixed := by
  obtain ⟨st, hst, act⟩ := List.mem_flatMap.mp h
  have visit : v ∈ st.visits := by
    cases performs : st.call.operation? with
    | none =>
      rw [Stage.acts_of_idle performs, List.mem_singleton] at act
      exact absurd act (by simp)
    | some operation =>
      rw [Stage.acts_of_operation performs] at act
      obtain ⟨w, hw, same⟩ := List.mem_map.mp act
      exact Act.visit.inj same ▸ hw
  obtain ⟨ready, fixed⟩ := Stage.ready_of_mem_visits visit
  exact ⟨⟨st, hst, visit⟩, ready, fixed.trans (Stage.fixed_of_mem hst)⟩

/-- In a run the callback is entered only when the signal is down. -/
theorem ready_of_enter {s : Session α β σ} {calls : List (Call α)} {v : Visit α β σ}
    (h : .enter v ∈ s.events calls) : v.Ready := by
  obtain ⟨a, ha, event⟩ := List.mem_flatMap.mp h
  cases a with
  | visit w =>
    obtain ⟨-, ready, -⟩ := of_visit_mem_acts ha
    rcases List.mem_cons.mp event with same | later
    · exact Event.enter.inj same ▸ ready
    · exact absurd later (by simp)
  | outside st idle => exact absurd (List.mem_singleton.mp event) (by simp)

end Session

end BundleRunner
