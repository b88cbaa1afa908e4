import BundleRunner.Session

namespace BundleRunner

/-!
# Histories

A run leaves its last state behind.  A history says how the run came there, in three layers:

* `Stage` — one call on a session, and the session that the call finds;
* `Visit` — one entry into the callback during a call, and the runner that the callback finds;
* `Moment` — one request of the callback during a visit, and the state that the request finds.

The history follows the calls as the session performs them: `Session.stages` lists the stages of a
sequence of calls, `Stage.visits` the visits of a stage, `Visit.moments` the moments of a visit.
-/

universe u

variable {α β σ : Type}

namespace Program

variable {R : Type u} {Answer : R → Type} {E : Type u}

/-- The requests of a run, each with the environment that it is made in. -/
def requests (answer : (request : R) → E → E × Answer request) :
    Program Answer σ → E → List (R × E)
  | stop _ _, _ => []
  | ask request next, env =>
    let reply := answer request env
    (request, env) :: (next reply.2).requests answer reply.1

@[simp] theorem requests_stop (answer : (request : R) → E → E × Answer request) (state : σ)
    (outcome : Outcome Unit) (env : E) :
    (stop state outcome : Program Answer σ).requests answer env = [] := rfl

@[simp] theorem requests_ask (answer : (request : R) → E → E × Answer request) (request : R)
    (next : Answer request → Program Answer σ) (env : E) :
    (ask request next).requests answer env =
      (request, env) ::
        (next (answer request env).2).requests answer (answer request env).1 := rfl

end Program

/-! ### Moments -/

/-- A request that a callback makes, and the state that the request finds. -/
inductive Moment (α β : Type) : Type 1 where
  /-- At the start or the finish of a bundle, where `windowFn` assigns windows. -/
  | bundle (windowFn : WindowFn α) (request : OutputRequest β) (state : RunState β)
  /-- During an invocation. -/
  | element (invocation : Invocation α) (request : ElementRequest β) (state : ElementState β)

namespace Moment

/-- The state of the run before the request is answered. -/
def before : Moment α β → RunState β
  | bundle _ _ state => state
  | element _ _ state => state.run

/-- The state of the run after the request was answered. -/
def after : Moment α β → RunState β
  | bundle windowFn request state => (request.perform (.bundle windowFn) state).1
  | element invocation request state => (request.perform invocation state).1.run

end Moment

/-! ### Visits -/

/-- How a callback is entered. -/
inductive Entrance (α : Type) where
  | start
  /-- For a record, given as the callback sees it. -/
  | process (visible : Record α)
  | finish

/-- An entry into the callback, and the runner as the callback finds it. -/
structure Visit (α β σ : Type) : Type 1 where
  entrance : Entrance α
  runner : Runner α β σ

/-- The callback may be entered: the signal is not raised. -/
def Visit.Ready (v : Visit α β σ) : Prop := v.runner.run.interrupt.check = .ok ()

/-- The moments of a program of a bundle phase. -/
def Runner.bundleMoments (r : Runner α β σ)
    (phase : Options → σ → Program (@OutputRequest.Answer β) σ) : List (Moment α β) :=
  ((phase r.plan.options r.state).requests (OutputRequest.perform (.bundle r.plan.windowFn))
    r.run).map fun asked => .bundle r.plan.windowFn asked.1 asked.2

/-- The invocation for a record. -/
def Runner.invocation (r : Runner α β σ) (visible : Record α) : Invocation α :=
  ⟨r.plan, visible, r.run.leases⟩

/-- The moments of the program of an invocation. -/
def Runner.elementMoments (r : Runner α β σ) (visible : Record α) : List (Moment α β) :=
  ((r.callback.process (r.invocation visible).view r.state).requests
    (ElementRequest.perform (r.invocation visible)) ⟨Runner.lease r.run, .none⟩).map
      fun asked => .element (r.invocation visible) asked.1 asked.2

/-- The moments of a visit, in order. -/
def Visit.moments (v : Visit α β σ) : List (Moment α β) :=
  match v.entrance with
  | .start => v.runner.bundleMoments v.runner.callback.start
  | .process visible => v.runner.elementMoments visible
  | .finish => v.runner.bundleMoments v.runner.callback.finish

namespace Runner

/-- The visit at an entrance: there is none while the run is interrupted. -/
def visitAt (r : Runner α β σ) (entrance : Entrance α) : List (Visit α β σ) :=
  match r.run.interrupt.check with
  | .error _ => []
  | .ok () => [⟨entrance, r⟩]

/-- The visits for a record in each of the windows, until one of them is not done. -/
def visitEach (record : Record α) : List Window → Runner α β σ → List (Visit α β σ)
  | [], _ => []
  | w :: ws, r =>
    r.visitAt (.process (record.narrow w)) ++
      match r.invoke (record.narrow w) with
      | (r, .done ()) => visitEach record ws r
      | _ => []

/-- The visits for a record. -/
def visitElement (r : Runner α β σ) (record : Record α) : List (Visit α β σ) :=
  match r.plan.descriptor.granularity with
  | .perRecord => r.visitAt (.process record)
  | .perWindow => visitEach record record.windows.windows r

theorem visitAt_of_ready {r : Runner α β σ} (ready : r.run.interrupt.check = .ok ())
    (entrance : Entrance α) : r.visitAt entrance = [⟨entrance, r⟩] := by
  unfold visitAt
  rw [ready]

theorem visitAt_of_interrupted {r : Runner α β σ} {fault : Fault}
    (interrupted : r.run.interrupt.check = .error fault) (entrance : Entrance α) :
    r.visitAt entrance = [] := by
  unfold visitAt
  rw [interrupted]

end Runner

/-! ### Stages -/

/-- The operation that a call performs on the open bundle. -/
def Call.operation? : Call α → Option Operation
  | .start => some .start
  | .process _ => some .process
  | .finish => some .finish
  | _ => none

/-- The reply to a call on the bundle that fails. -/
def Call.failure (call : Call α) (fault : Fault) : Reply :=
  match call with
  | .finish => .finished (.failed fault)
  | _ => .moved (.failed fault)

/-- **Refusal.** A call that does not pass the order check fails, and does nothing but warn. -/
theorem Session.perform_of_refused {b : Bundle} {call : Call α} {operation : Operation}
    (performs : call.operation? = some operation) (refused : b.advance operation = none)
    (r : Runner α β σ) :
    (Session.mk r (some b)).perform call =
      (⟨r.mapRun (·.tell (.violation b.id operation b.phase)), some b⟩,
        call.failure (.lifecycleViolation operation.text b.phase.text)) := by
  cases call with
  | start =>
    obtain rfl : .start = operation := Option.some.inj performs
    simp [perform, ofTurn, Bundle.start, refused, Bundle.refuse, Call.failure]
  | process record =>
    obtain rfl : .process = operation := Option.some.inj performs
    simp [perform, ofTurn, Bundle.process, refused, Bundle.refuse, Call.failure]
  | finish =>
    obtain rfl : .finish = operation := Option.some.inj performs
    simp [perform, ofTurn, Bundle.finish, refused, Bundle.refuse, Call.failure]
  | _ => exact absurd performs (by simp [Call.operation?])

/-- The visits of a call on a bundle that has begun. -/
def Bundle.visits (begun : Bundle) (r : Runner α β σ) : Call α → List (Visit α β σ)
  | .start => (resetCounts (begun.enter r)).visitAt .start
  | .process record => (begun.enter r).visitElement record
  | .finish => (begun.enter r).visitAt .finish
  | _ => []

/-- A call, and the session that the call finds. -/
structure Stage (α β σ : Type) : Type 1 where
  before : Session α β σ
  call : Call α

namespace Stage

/-- The session after the call. -/
def after (st : Stage α β σ) : Session α β σ := (st.before.perform st.call).1

/-- The reply to the call. -/
def reply (st : Stage α β σ) : Reply := (st.before.perform st.call).2

/-- The bundle with the call begun on it, when the call passes the order check. -/
def begun? (st : Stage α β σ) : Option Bundle :=
  st.before.bundle.bind fun b => st.call.operation?.bind b.advance

/-- The visits of a call: there is none unless the call passes the order check. -/
def visits (st : Stage α β σ) : List (Visit α β σ) :=
  match st.begun? with
  | some begun => begun.visits st.before.runner st.call
  | none => []

theorem visits_of_begun {st : Stage α β σ} {begun : Bundle} (begins : st.begun? = some begun) :
    st.visits = begun.visits st.before.runner st.call := by
  simp [visits, begins]

/-- A call that is out of order enters no callback. -/
theorem visits_of_refused {st : Stage α β σ} (refused : st.begun? = none) : st.visits = [] := by
  simp [visits, refused]

/-- What it takes for a call to begin: an open bundle, and an operation that is in order. -/
theorem begun?_eq_some {st : Stage α β σ} {begun : Bundle} (begins : st.begun? = some begun) :
    ∃ b operation, st.before.bundle = some b ∧ st.call.operation? = some operation ∧
      b.advance operation = some begun := by
  obtain ⟨b, opened, rest⟩ := Option.bind_eq_some_iff.mp begins
  obtain ⟨operation, performs, advance⟩ := Option.bind_eq_some_iff.mp rest
  exact ⟨b, operation, opened, performs, advance⟩

/-- The moments of a call, in order. -/
def moments (st : Stage α β σ) : List (Moment α β) := st.visits.flatMap Visit.moments

end Stage

namespace Session

/-- The stages of a sequence of calls. -/
def stages (s : Session α β σ) : List (Call α) → List (Stage α β σ)
  | [] => []
  | call :: calls => ⟨s, call⟩ :: (s.perform call).1.stages calls

@[simp] theorem stages_nil (s : Session α β σ) : s.stages [] = [] := rfl

@[simp] theorem stages_cons (s : Session α β σ) (call : Call α) (calls : List (Call α)) :
    s.stages (call :: calls) = ⟨s, call⟩ :: (s.perform call).1.stages calls := rfl

/-- The stages of calls in two parts. -/
theorem stages_append (s : Session α β σ) (first second : List (Call α)) :
    s.stages (first ++ second) = s.stages first ++ (s.performAll first).1.stages second := by
  induction first generalizing s with
  | nil => rfl
  | cons call calls ih => rw [List.cons_append, stages_cons, ih, stages_cons]; rfl

/-- What every stage keeps holds before and after every stage. -/
theorem stages_invariant (P : Session α β σ → Prop) {s : Session α β σ} {calls : List (Call α)}
    (keeps : ∀ st ∈ s.stages calls, P st.before → P st.after) (start : P s) :
    ∀ st ∈ s.stages calls, P st.before ∧ P st.after := by
  -- by the calls, from the session that each of them finds
  induction calls generalizing s with
  | nil => simp
  | cons call calls ih =>
    have first : P (s.perform call).1 := keeps ⟨s, call⟩ (List.mem_cons_self ..) start
    intro st hst
    rcases List.mem_cons.mp hst with rfl | hst
    · exact ⟨start, first⟩
    · exact ih (fun st hst => keeps st (List.mem_cons_of_mem _ hst)) first st hst

/-- What every stage keeps holds in the end. -/
theorem performAll_of_stages (P : Session α β σ → Prop) {s : Session α β σ} {calls : List (Call α)}
    (keeps : ∀ st ∈ s.stages calls, P st.before → P st.after) (start : P s) :
    P (s.performAll calls).1 := by
  induction calls generalizing s with
  | nil => exact start
  | cons call calls ih =>
    have first : P (s.perform call).1 := keeps ⟨s, call⟩ (List.mem_cons_self ..) start
    exact ih (fun st hst => keeps st (List.mem_cons_of_mem _ hst)) first

/-- The call of a stage is one of the calls. -/
theorem call_mem_of_mem_stages {s : Session α β σ} {calls : List (Call α)} {st : Stage α β σ}
    (h : st ∈ s.stages calls) : st.call ∈ calls := by
  induction calls generalizing s with
  | nil => exact absurd h (by simp)
  | cons call calls ih =>
    rcases List.mem_cons.mp h with rfl | later
    · exact List.mem_cons_self ..
    · exact List.mem_cons_of_mem _ (ih later)

end Session

/-- Every stage finds the callback and the plan of the session. -/
theorem Stage.fixed_of_mem {s : Session α β σ} {calls : List (Call α)} {st : Stage α β σ}
    (h : st ∈ s.stages calls) : st.before.runner.fixed = s.runner.fixed := by
  have kept : ∀ st ∈ s.stages calls, st.before.runner.fixed = s.runner.fixed ∧
      st.after.runner.fixed = s.runner.fixed :=
    Session.stages_invariant (fun s' => s'.runner.fixed = s.runner.fixed)
      (fun st _ same => (st.before.fixed_perform st.call).trans same) rfl
  exact (kept st h).1

/-! ### Visits of a run -/

/-- What an invocation for a record sees of it: the record itself, or the record in one of its
    windows. -/
def Granularity.Shows (granularity : Granularity) (trigger visible : Record α) : Prop :=
  match granularity with
  | .perRecord => visible = trigger
  | .perWindow => ∃ w ∈ trigger.windows, visible = trigger.narrow w

/-- What an invocation sees lies at the time of the record. -/
theorem Granularity.Shows.timestamp_eq {granularity : Granularity} {trigger visible : Record α}
    (shows : granularity.Shows trigger visible) : visible.timestamp = trigger.timestamp := by
  cases granularity with
  | perRecord => exact congrArg Record.timestamp shows
  | perWindow =>
    obtain ⟨w, _, rfl⟩ := shows
    rfl

namespace Runner

theorem of_mem_visitAt {r : Runner α β σ} {entrance : Entrance α} {v : Visit α β σ}
    (h : v ∈ r.visitAt entrance) : v = ⟨entrance, r⟩ ∧ v.Ready := by
  cases ready : r.run.interrupt.check with
  | error fault =>
    rw [visitAt_of_interrupted ready] at h
    exact absurd h (by simp)
  | ok u =>
    rw [visitAt_of_ready ready] at h
    obtain rfl := List.mem_singleton.mp h
    exact ⟨rfl, ready⟩

/-- The visits for a record in a list of windows are each for one of the windows. -/
theorem of_mem_visitEach {record : Record α} {ws : List Window} {r : Runner α β σ}
    {v : Visit α β σ} (h : v ∈ visitEach record ws r) :
    v.Ready ∧ v.runner.fixed = r.fixed ∧ ∃ w ∈ ws, v.entrance = .process (record.narrow w) := by
  induction ws generalizing r with
  | nil => exact absurd h (by simp [visitEach])
  | cons w ws ih =>
    unfold visitEach at h
    rcases List.mem_append.mp h with now | later
    · obtain ⟨rfl, ready⟩ := of_mem_visitAt now
      exact ⟨ready, rfl, w, List.mem_cons_self .., rfl⟩
    · have fixed := fixed_invoke r (record.narrow w)
      rcases invoked : r.invoke (record.narrow w) with ⟨r', ended⟩
      rw [invoked] at later fixed
      -- there are later visits only if this one is done, and they are of the runner that it leaves
      cases ended with
      | done u =>
        obtain ⟨ready, same, u, hu, entrance⟩ := ih later
        exact ⟨ready, same.trans fixed, u, List.mem_cons_of_mem _ hu, entrance⟩
      | failed fault => exact absurd later (by simp)
      | panicked message => exact absurd later (by simp)

/-- A visit for a record shows it as the granularity says. -/
theorem of_mem_visitElement {r : Runner α β σ} {record : Record α} {v : Visit α β σ}
    (h : v ∈ r.visitElement record) :
    v.Ready ∧ v.runner.fixed = r.fixed ∧ ∃ visible, v.entrance = .process visible ∧
      r.plan.descriptor.granularity.Shows record visible := by
  unfold visitElement at h
  cases granularity : r.plan.descriptor.granularity with
  | perRecord =>
    rw [granularity] at h
    obtain ⟨rfl, ready⟩ := of_mem_visitAt h
    exact ⟨ready, rfl, record, rfl, rfl⟩
  | perWindow =>
    rw [granularity] at h
    obtain ⟨ready, fixed, w, hw, entrance⟩ := of_mem_visitEach h
    exact ⟨ready, fixed, record.narrow w, entrance, w, hw, rfl⟩

end Runner

/-- A visit of a call finds the signal down, and the callback and the plan of the session. -/
theorem Stage.ready_of_mem_visits {st : Stage α β σ} {v : Visit α β σ} (h : v ∈ st.visits) :
    v.Ready ∧ v.runner.fixed = st.before.runner.fixed := by
  cases begins : st.begun? with
  | none =>
    rw [visits_of_refused begins] at h
    exact absurd h (by simp)
  | some begun =>
    rw [visits_of_begun begins] at h
    cases call : st.call with
    | start =>
      rw [call] at h
      obtain ⟨rfl, ready⟩ := Runner.of_mem_visitAt h
      exact ⟨ready, rfl⟩
    | process record =>
      rw [call] at h
      obtain ⟨ready, fixed, -⟩ := Runner.of_mem_visitElement (r := begun.enter _) h
      exact ⟨ready, fixed⟩
    | finish =>
      rw [call] at h
      obtain ⟨rfl, ready⟩ := Runner.of_mem_visitAt h
      exact ⟨ready, rfl⟩
    | _ =>
      rw [call] at h
      exact absurd h (by simp [Bundle.visits])

/-- At every visit of a run, the plan is the one that the runner was built with. -/
theorem Visit.plan_of_build {callback : Callback α β σ} {state : σ} {binding : Binding α β}
    {settings : Settings} {r : Runner α β σ}
    (built : (Runner.build callback state binding settings).outcome = .done r)
    {calls : List (Call α)} {st : Stage α β σ} (called : st ∈ (Session.ofRunner r).stages calls)
    {v : Visit α β σ} (visited : v ∈ st.visits) :
    v.runner.plan = Runner.planOf callback binding settings := by
  obtain ⟨-, fixed⟩ := Stage.ready_of_mem_visits visited
  have planned : v.runner.plan = r.plan :=
    congrArg Prod.snd (fixed.trans (Stage.fixed_of_mem called))
  exact planned.trans (Runner.of_build built).1

end BundleRunner
