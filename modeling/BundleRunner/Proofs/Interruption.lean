import BundleRunner.Proofs.Arrivals
import BundleRunner.Proofs.Leases
import BundleRunner.Proofs.Turns

namespace BundleRunner

/-!
# While a run is interrupted

Anyone who shares the interrupt signal may raise it and clear it: the scheduler between calls, and
the callback at any request.  The signal is then looked at in six places.  This file proves what the
six come to:

* `SignalAction`, `pending?` — the history of the signal, and the reason that is pending at its end;
* `Session.interrupt_before` — at every event of a run the signal is what its history makes of it;
* `Event.Halted` — what does not happen at an event while a reason is pending;
* `Stage.outcome_of_interrupted` — a call that passes the order check then fails with the reason;
* `Runner.visitEach_of_interrupted` — a loop over windows stops after the window that leaves the
  signal raised;
* `nothing_done_while_interrupted` — the three together, for every run.
-/

variable {α β σ : Type}

/-! ### The history of the signal -/

/-- What is done to the signal. -/
inductive SignalAction where
  | raise (reason : String)
  | clear
deriving DecidableEq

/-- The signal after an action. -/
def SignalAction.apply (_ : Interrupt) : SignalAction → Interrupt
  | raise reason => .raise reason
  | clear => .clear

/-- The signal after a history of actions. -/
def Interrupt.ofHistory (history : List SignalAction) : Interrupt :=
  history.foldl SignalAction.apply .clear

/-- The reason of the latest interruption, if it was not cleared since. -/
def pending? (history : List SignalAction) : Option String :=
  match history.getLast? with
  | some (.raise reason) => some reason
  | _ => none

/-- Whatever was before, a signal is raised with the reason that is pending. -/
theorem foldl_of_pending {history : List SignalAction} {reason : String}
    (pending : pending? history = some reason) (i : Interrupt) :
    history.foldl SignalAction.apply i = .raise reason := by
  unfold pending? at pending
  split at pending
  next latest last =>
    obtain rfl := Option.some.inj pending
    -- the latest action alone decides, whatever was folded before it
    obtain ⟨earlier, rfl⟩ := List.getLast?_eq_some_iff.mp last
    rw [List.foldl_append]
    rfl
  next => exact absurd pending (by simp)

/-- What a shared request does to the signal. -/
def SharedRequest.signals : SharedRequest → List SignalAction
  | raise reason => [.raise reason]
  | clear => [.clear]
  | _ => []

/-- What a request of the setup does to the signal. -/
def SetupRequest.signals : SetupRequest → List SignalAction
  | shared request => request.signals
  | find .. => []

/-- What a request in an emission scope does to the signal. -/
def OutputRequest.signals : OutputRequest β → List SignalAction
  | shared request => request.signals
  | _ => []

/-- What a request does to the signal. -/
def Moment.signals (m : Moment α β) : List SignalAction :=
  m.output?.toList.flatMap fun asked => asked.2.signals

/-- What a call does to the signal, when it is not about the bundle. -/
def Call.signals : Call α → List SignalAction
  | raise reason => [.raise reason]
  | clear => [.clear]
  | _ => []

/-- What an event does to the signal. -/
def Event.signals : Event α β σ → List SignalAction
  | request m => m.signals
  | outside st _ => st.call.signals
  | _ => []

/-- What the setup of a callback does to the signal. -/
def Runner.setupSignals (callback : Callback α β σ) (state : σ) (binding : Binding α β)
    (settings : Settings) : List SignalAction :=
  ((callback.setup state).requests SetupRequest.perform (freshRun binding settings)).flatMap
    fun asked => asked.1.signals

/-- What the events of a sequence of calls do to the signal. -/
def Session.signals (s : Session α β σ) (calls : List (Call α)) : List SignalAction :=
  (s.events calls).flatMap Event.signals

theorem SharedRequest.interrupt_perform (request : SharedRequest) (s : RunState β) :
    (request.perform s).1.interrupt = request.signals.foldl SignalAction.apply s.interrupt := by
  cases request with
  | create name input output combiner =>
    have same := congrArg RunState.interrupt
      ((SharedRequest.create name input output combiner).silent_perform s)
    exact same
  | _ => rfl

theorem OutputRequest.interrupt_perform (scope : Scope α) (request : OutputRequest β)
    (s : RunState β) :
    (request.perform scope s).1.interrupt =
      request.signals.foldl SignalAction.apply s.interrupt := by
  -- emissions and handles have parts of their own, and shared requests are what is left
  have frame : ∀ request : OutputRequest β, request.part = .outputs ∨ request.part = .cells ∨
      request.part = .nothing → (request.perform scope s).1.interrupt = s.interrupt := by
    intro request part
    have same := congrArg RunState.interrupt (request.silent_perform scope s)
    rcases part with part | part | part <;> rw [part] at same <;> exact same
  cases request with
  | shared request => exact request.interrupt_perform s
  | _ => exact frame _ (by simp [part])

/-- Every event does to the signal what it is said to do. -/
theorem Event.interrupt_after_eq (e : Event α β σ) :
    e.after.interrupt = e.signals.foldl SignalAction.apply e.before.interrupt := by
  cases e with
  | enter v => exact Event.interrupt_after (Part.ne_of_mem v.entrance.part_mem (by decide))
  | leave v => exact Event.interrupt_after (Part.ne_of_mem v.entrance.part_mem (by decide))
  | request m =>
    rw [signals, Moment.signals]
    -- what only an invocation can ask for leaves the signal alone
    cases output : m.output? with
    | none =>
      exact Event.interrupt_after (e := (.request m : Event α β σ))
        (Part.ne_of_mem (Moment.part_mem_of_inner output) (by decide))
    | some asked =>
      rw [after, (Moment.after_of_output output).1, Option.toList_some, List.flatMap_singleton]
      exact asked.2.interrupt_perform asked.1 m.before
  | outside st idle =>
    obtain ⟨s, call⟩ := st
    cases call with
    | raise reason => rfl
    | clear => rfl
    | start => exact absurd idle (by simp [Call.operation?])
    | process record => exact absurd idle (by simp [Call.operation?])
    | finish => exact absurd idle (by simp [Call.operation?])
    | _ => exact Event.interrupt_after (by simp [part, Call.part])

/-- The setup does to the signal what its requests do. -/
theorem Program.interrupt_setup (program : Program SetupRequest.Answer σ) (s : RunState β) :
    (program.run SetupRequest.perform s).env.interrupt =
      ((program.requests SetupRequest.perform s).flatMap fun asked => asked.1.signals).foldl
        SignalAction.apply s.interrupt := by
  induction program generalizing s with
  | stop state outcome => rfl
  | ask request next ih =>
    have first : (request.perform s).1.interrupt =
        request.signals.foldl SignalAction.apply s.interrupt := by
      cases request with
      | shared request => exact request.interrupt_perform s
      | find name input output => rfl
    rw [run_ask, requests_ask, List.flatMap_cons, List.foldl_append, ih, first]

/-- A runner that was built finds the signal as it was bound, with what the setup did to it. -/
theorem Runner.interrupt_of_build {callback : Callback α β σ} {state : σ} {binding : Binding α β}
    {settings : Settings} {r : Runner α β σ}
    (built : (build callback state binding settings).outcome = .done r) :
    r.run.interrupt =
      (setupSignals callback state binding settings).foldl SignalAction.apply
        binding.interrupt := by
  obtain ⟨-, -, -, -, -, run⟩ := build_eq_done built
  rw [run]
  exact Program.interrupt_setup (callback.setup state) (freshRun binding settings)

namespace Session

variable {s : Session α β σ} {calls : List (Call α)}

/-- At an event of a run the signal is what the events before have made of it. -/
theorem interrupt_before {xs ys : List (Event α β σ)} {e : Event α β σ}
    (split : s.events calls = xs ++ e :: ys) :
    e.before.interrupt =
      (xs.flatMap Event.signals).foldl SignalAction.apply s.runner.run.interrupt := by
  have leads := s.leads_events calls
  rw [split] at leads
  have folded := leads.split.1.fold RunState.interrupt
    (fun e i => e.signals.foldl SignalAction.apply i) (by intro e _; exact e.interrupt_after_eq)
  rw [List.foldl_flatMap]
  exact folded

/-- After a run the signal is what all events have made of it. -/
theorem interrupt_performAll (s : Session α β σ) (calls : List (Call α)) :
    (s.performAll calls).1.runner.run.interrupt =
      (s.signals calls).foldl SignalAction.apply s.runner.run.interrupt := by
  have folded := (s.leads_events calls).fold RunState.interrupt
    (fun e i => e.signals.foldl SignalAction.apply i) (by intro e _; exact e.interrupt_after_eq)
  rw [signals, List.foldl_flatMap]
  exact folded

end Session

/-! ### Events while a reason is pending -/

/-- What does not happen at an event while a reason is pending: the callback is not entered, the
    reader of side inputs is not consulted, the provider is not asked for keyed state, and no handle
    on keyed state reads or writes. -/
structure Event.Halted (e : Event α β σ) (reason : String) : Prop where
  enter : ∀ v, e ≠ .enter v
  reads : e.after.reads = e.before.reads
  queries : Query.count e.after.queries .keyedState = Query.count e.before.queries .keyedState
  cells : e.after.cells = e.before.cells
  state : ∀ handle call result, e.use? = some (.state handle call result) →
    result = .error (.staleContext "keyed_state") ∨ result = .error (.interrupted reason)

namespace RunState

/-- While a reason is pending a handle on keyed state is of no use. -/
theorem useState_of_raised {s : RunState β} {reason : String}
    (raised : s.interrupt = .raise reason) (handle : StateHandle) (call : StateCall) :
    s.useState handle call = (s, .error (.staleContext "keyed_state")) ∨
      s.useState handle call = (s, .error (.interrupted reason)) := by
  by_cases live : s.live = some handle.lease
  · rw [useState_of_live live, raised, Interrupt.check_raise]
    exact Or.inr rfl
  · exact Or.inl (useState_of_stale live call)

end RunState

/-- While a reason is pending, keyed state cannot be accessed. -/
theorem Access.obstacle_of_raised {a : Access α β} {reason : String}
    (raised : a.state.run.interrupt = .raise reason) (state : a.capability = .keyedState) :
    a.obstacle? = some (.interrupted reason) := by
  obtain ⟨i, capability, s⟩ := a
  obtain rfl : capability = .keyedState := state
  unfold obstacle? Invocation.checks
  rw [show s.run.interrupt = .raise reason from raised, Interrupt.check_raise]
  rfl

/-- While a reason is pending, a request does not ask for keyed state. -/
theorem Moment.count_of_raised {m : Moment α β} {reason : String}
    (raised : m.before.interrupt = .raise reason) :
    Query.count m.after.queries .keyedState = Query.count m.before.queries .keyedState := by
  rw [m.queries_after]
  by_cases asks : m.asked = []
  · rw [asks, List.append_nil]
  · obtain ⟨a, accesses, passes, asked⟩ := access_of_asked asks
    -- an access that asks has passed its checks; for keyed state the signal is the first of them
    have other : a.capability ≠ .keyedState := by
      intro state
      obtain ⟨request, rfl⟩ := of_mem_accesses (m := m) (a := a) (by simp [accesses])
      exact absurd (passes.symm.trans (Access.obstacle_of_raised raised state)) (by simp)
    rw [asked, Query.count, List.countP_append]
    simp [Query.count, Access.query, other]

/-- While a reason is pending, a request does not read a side input. -/
theorem Moment.reads_of_raised {m : Moment α β} {reason : String}
    (raised : m.before.interrupt = .raise reason) : m.after.reads = m.before.reads := by
  by_cases part : m.part = .reads
  · cases m with
    | bundle windowFn request s =>
      exact absurd part (Part.ne_of_mem request.part_mem (by decide))
    | element i request s =>
      cases request with
      | sideInput view type =>
        have interrupted : i.readWindow s view = .error (.interrupted reason) := by
          unfold Invocation.readWindow
          rw [show s.run.interrupt = .raise reason from raised, Interrupt.check_raise]
          rfl
        simp only [after, before, ElementRequest.perform, Invocation.sideInput, interrupted]
      | output request => exact absurd part (Part.ne_of_mem request.part_mem (by decide))
      | _ => exact absurd part (by simp [Moment.part, ElementRequest.part])
  · exact Event.reads_after (e := (.request m : Event α β Unit)) part

/-- **One event.** While a reason is pending, an event that does not enter the callback reads
    nothing, asks for no keyed state, and does not touch the cells. -/
theorem Event.halted_of_raised {e : Event α β σ} {reason : String}
    (raised : e.before.interrupt = .raise reason) (outside : ∀ v, e ≠ .enter v) :
    e.Halted reason := by
  -- the reads, the queries, the cells, and the results of handles
  refine ⟨outside, ?_, ?_, ?_, ?_⟩
  · cases e with
    | request m => exact Moment.reads_of_raised raised
    | _ => exact Event.reads_after (part_ne_of_silent rfl rfl)
  · cases e with
    | request m => exact Moment.count_of_raised raised
    | _ => exact congrArg (Query.count · _) (Event.queries_after (part_ne_of_silent rfl rfl))
  · by_cases used : ∃ handle call result, e.use? = some (.state handle call result)
    · obtain ⟨handle, call, result, used⟩ := used
      rcases e.use_cases used with ⟨handle', call', -, cells⟩ | ⟨handle', same, -⟩
      · rcases RunState.useState_of_raised raised handle' call' with refused | refused
        · rw [cells, refused]
        · rw [cells, refused]
      · exact absurd same (by simp)
    · exact cells_of_unused fun handle call result here => used ⟨handle, call, result, here⟩
  · intro handle call result used
    rcases e.use_cases used with ⟨handle', call', same, -⟩ | ⟨handle', same, -⟩
    · obtain ⟨rfl, rfl, rfl⟩ := HandleUse.state.inj same
      rcases RunState.useState_of_raised raised handle call with refused | refused
      · exact Or.inl (congrArg Prod.snd refused)
      · exact Or.inr (congrArg Prod.snd refused)
    · exact absurd same (by simp)

/-! ### Calls while a reason is pending -/

/-- How the callbacks of a call on a bundle end. -/
def Bundle.ended (begun : Bundle) (r : Runner α β σ) : Call α → Outcome Unit
  | .start => (resetCounts (begun.enter r)).runStart.2
  | .process record => ((begun.enter r).runElement record).2.map fun _ => ()
  | .finish => (begun.enter r).runFinish.2
  | _ => .done ()

/-- A call that passes the order check is answered with how its callbacks end, and moves the bundle
    accordingly. -/
theorem Stage.ended_of_begun {st : Stage α β σ} {begun : Bundle}
    (begins : st.begun? = some begun) :
    ∃ operation, st.accepted? = some operation ∧
      st.reply.outcome? = some (begun.ended st.before.runner st.call) ∧
      st.after.phase? =
        some (begun.landing operation (begun.ended st.before.runner st.call)) := by
  obtain ⟨b, operation, opened, performs, advance⟩ := begun?_eq_some begins
  obtain ⟨outcome, replied, lands⟩ := st.landing opened performs advance
  have ended : st.reply.outcome? = some (begun.ended st.before.runner st.call) := by
    obtain ⟨⟨r, bundle⟩, call⟩ := st
    obtain rfl : bundle = some b := opened
    cases call with
    | start =>
      obtain rfl : .start = operation := Option.some.inj performs
      simp [reply, Session.perform, Reply.outcome?, Bundle.start, advance, Bundle.leave,
        Bundle.ended]
    | process record =>
      obtain rfl : .process = operation := Option.some.inj performs
      simp [reply, Session.perform, Reply.outcome?, Bundle.process, advance, Bundle.leave,
        Bundle.ended]
    | finish =>
      obtain rfl : .finish = operation := Option.some.inj performs
      simp [reply, Session.perform, Reply.outcome?, Bundle.finish, advance, Bundle.leave,
        Bundle.ended]
    | _ => exact absurd performs (by simp [Call.operation?])
  obtain rfl : outcome = begun.ended st.before.runner st.call :=
    Option.some.inj (replied.symm.trans ended)
  exact ⟨operation, by simp [accepted?, begins, performs], ended, lands⟩

namespace Runner

variable {r : Runner α β σ} {fault : Fault}

theorem runBundlePhase_of_interrupted (interrupted : r.run.interrupt.check = .error fault)
    (phase : Options → σ → Program (@OutputRequest.Answer β) σ) :
    r.runBundlePhase phase = (r, .failed fault) := by
  unfold runBundlePhase
  rw [interrupted]

theorem invoke_of_interrupted (interrupted : r.run.interrupt.check = .error fault)
    (visible : Record α) : r.invoke visible = (r, .failed fault) := by
  unfold invoke
  rw [interrupted]

/-- While the run is interrupted, a loop over windows fails at the first of them. -/
theorem invokeEach_of_interrupted (interrupted : r.run.interrupt.check = .error fault)
    (record : Record α) {ws : List Window} (nonempty : ws ≠ []) :
    visitEach record ws r = [] ∧ invokeEach record ws r = (r, .failed fault) := by
  cases ws with
  | nil => exact absurd rfl nonempty
  | cons w ws =>
    unfold visitEach invokeEach
    rw [invoke_of_interrupted interrupted, visitAt_of_interrupted interrupted]
    exact ⟨rfl, rfl⟩

/-- While the run is interrupted, a record is not processed. -/
theorem runElement_of_interrupted (interrupted : r.run.interrupt.check = .error fault)
    (record : Record α) : (r.runElement record).2 = .failed fault := by
  unfold runElement
  cases r.plan.descriptor.granularity with
  | perRecord => simp [invoke_of_interrupted interrupted]
  | perWindow =>
    have failed := (invokeEach_of_interrupted interrupted record record.windows.nonempty).2
    simp [failed]

end Runner

/-- **One call.** While the run is interrupted, a call that passes the order check fails with the
    reason, and fails the bundle. -/
theorem Stage.outcome_of_interrupted {st : Stage α β σ} {operation : Operation} {fault : Fault}
    (accepted : st.accepted? = some operation)
    (interrupted : st.before.runner.run.interrupt.check = .error fault) :
    st.reply.outcome? = some (.failed fault) ∧ st.after.phase? = some .failed := by
  obtain ⟨begun, begins, performs⟩ := Option.bind_eq_some_iff.mp accepted
  obtain ⟨_, -, replied, lands⟩ := ended_of_begun begins
  have ended : begun.ended st.before.runner st.call = .failed fault := by
    cases call : st.call with
    | start =>
      exact congrArg Prod.snd (Runner.runBundlePhase_of_interrupted
        (r := Bundle.resetCounts (begun.enter st.before.runner)) interrupted _)
    | process record =>
      have failed := Runner.runElement_of_interrupted (r := begun.enter st.before.runner)
        interrupted record
      simp [Bundle.ended, failed]
    | finish =>
      exact congrArg Prod.snd (Runner.runBundlePhase_of_interrupted
        (r := begun.enter st.before.runner) interrupted _)
    | _ =>
      rw [call] at performs
      exact absurd performs (by simp [Call.operation?])
  rw [ended] at replied lands
  exact ⟨replied, lands⟩

/-! ### Between two windows -/

namespace Runner

/-- The visits for a record in a list of windows begin with the first of these windows, and go on in
    order. -/
theorem entrance_visitEach (record : Record α) (ws : List Window) (r : Runner α β σ) :
    (visitEach record ws r).map Visit.entrance <+:
      ws.map fun w => .process (record.narrow w) := by
  -- window by window: a visit that is not done is the last one
  induction ws generalizing r with
  | nil => exact List.prefix_rfl
  | cons w ws ih =>
    unfold visitEach
    cases ready : r.run.interrupt.check with
    | error fault =>
      rw [visitAt_of_interrupted ready, invoke_of_interrupted ready]
      exact List.nil_prefix
    | ok u =>
      rw [visitAt_of_ready ready, List.map_append, List.map_cons]
      refine List.cons_prefix_cons.mpr ⟨rfl, ?_⟩
      rcases r.invoke (record.narrow w) with ⟨r', ended⟩
      cases ended with
      | done u => exact ih r'
      | failed fault => exact List.nil_prefix
      | panicked message => exact List.nil_prefix

/-- **Between two windows.** When a visit in a loop over windows is done but leaves the run
    interrupted, and it is not the one in the last window, it is the last visit, and the loop fails
    there. -/
theorem visitEach_of_interrupted {record : Record α} {ws : List Window} {r : Runner α β σ}
    {front rest : List (Visit α β σ)} {v : Visit α β σ} {fault : Fault}
    (visits : visitEach record ws r = front ++ v :: rest) (done : v.turn.2 = .done ())
    (interrupted : v.closed.interrupt.check = .error fault) (more : front.length + 1 < ws.length) :
    rest = [] ∧ invokeEach record ws r = (v.turn.1, .failed fault) := by
  induction ws generalizing r front with
  | nil => exact absurd more (by simp)
  | cons w ws ih =>
    cases ready : r.run.interrupt.check with
    | error fault' =>
      rw [(invokeEach_of_interrupted ready record (List.cons_ne_nil w ws)).1] at visits
      exact absurd visits (by simp)
    | ok u =>
      unfold visitEach at visits
      rw [visitAt_of_ready ready] at visits
      unfold invokeEach
      have turned : r.invoke (record.narrow w) =
          (Visit.mk (.process (record.narrow w)) r).turn := rfl
      rw [turned] at visits ⊢
      -- the visit is the one in this window, or one in a later window
      cases front with
      | nil =>
        obtain ⟨head, visits⟩ := List.cons.inj visits
        have closed : v.turn.1.run = v.closed := Visit.turn_run (head ▸ ready)
        rw [head] at visits ⊢
        generalize v.turn = made at visits done closed ⊢
        obtain ⟨r', ended⟩ := made
        obtain rfl : ended = .done () := done
        -- the next window finds the run interrupted
        rw [← closed] at interrupted
        have windows : ws ≠ [] := by
          rintro rfl
          exact absurd more (by simp)
        obtain ⟨none, failed⟩ := invokeEach_of_interrupted interrupted record windows
        exact ⟨visits.symm.trans none, failed⟩
      | cons u front =>
        obtain ⟨-, visits⟩ := List.cons.inj visits
        generalize (Visit.mk (.process (record.narrow w)) r).turn = made at visits ⊢
        obtain ⟨r', ended⟩ := made
        cases ended with
        | done u => exact ih visits (Nat.lt_of_succ_lt_succ more)
        | failed fault => exact absurd visits (by simp)
        | panicked message => exact absurd visits (by simp)

end Runner

/-- After a visit the signal is what the requests of the visit have made of it. -/
theorem Visit.interrupt_closed (v : Visit α β σ) :
    v.closed.interrupt =
      (v.moments.flatMap Moment.signals).foldl SignalAction.apply v.runner.run.interrupt := by
  have folded := v.leads_events.fold RunState.interrupt
    (fun e i => e.signals.foldl SignalAction.apply i) (by intro e _; exact e.interrupt_after_eq)
  have requests : v.events.flatMap Event.signals = v.moments.flatMap Moment.signals := by
    rw [Visit.events, List.flatMap_cons, List.flatMap_append, List.flatMap_map]
    exact List.append_nil _
  rw [← requests, List.foldl_flatMap]
  exact folded

/-- The visits for a record under a descriptor that asks for an invocation in each window. -/
theorem Stage.visits_of_perWindow {st : Stage α β σ} {begun : Bundle} {record : Record α}
    (begins : st.begun? = some begun) (call : st.call = .process record)
    (perWindow : st.before.runner.plan.descriptor.granularity = .perWindow) :
    st.visits =
      Runner.visitEach record record.windows.windows (begun.enter st.before.runner) := by
  rw [visits_of_begun begins, call]
  show Runner.visitElement (begun.enter st.before.runner) record = _
  unfold Runner.visitElement
  rw [show (begun.enter st.before.runner).plan = st.before.runner.plan from rfl, perWindow]

/-- The invocations for a record follow the list of its windows, as far as they go. -/
theorem Stage.entrances_of_perWindow {st : Stage α β σ} {record : Record α}
    (call : st.call = .process record)
    (perWindow : st.before.runner.plan.descriptor.granularity = .perWindow) :
    st.visits.map Visit.entrance <+:
      record.windows.windows.map fun w => .process (record.narrow w) := by
  cases begins : st.begun? with
  | none =>
    rw [visits_of_refused begins]
    exact List.nil_prefix
  | some begun =>
    rw [visits_of_perWindow begins call perWindow]
    exact Runner.entrance_visitEach record record.windows.windows _

/-- **One record.** When a visit is done but leaves a reason pending, and there are windows left,
    then the windows so far are all that the record is processed in, and the call fails with the
    reason. -/
theorem Stage.stops_of_pending {st : Stage α β σ} {record : Record α}
    (call : st.call = .process record)
    (perWindow : st.before.runner.plan.descriptor.granularity = .perWindow)
    {front rest : List (Visit α β σ)} {v : Visit α β σ} {reason : String}
    (visits : st.visits = front ++ v :: rest) (done : v.turn.2 = .done ())
    (pending : pending? (v.moments.flatMap Moment.signals) = some reason)
    (more : front.length + 1 < record.windows.size) :
    st.visits.map Visit.entrance =
        (record.windows.windows.take (front.length + 1)).map (fun w =>
          .process (record.narrow w)) ∧
      st.reply.outcome? = some (.failed (.interrupted reason)) ∧
      st.after.phase? = some .failed := by
  cases begins : st.begun? with
  | none =>
    rw [visits_of_refused begins] at visits
    exact absurd visits (by simp)
  | some begun =>
    have each := visits_of_perWindow begins call perWindow
    -- what was pending before the visit does not matter
    have interrupted : v.closed.interrupt.check = .error (.interrupted reason) := by
      rw [v.interrupt_closed, foldl_of_pending pending, Interrupt.check_raise]
    obtain ⟨rfl, failed⟩ :=
      Runner.visitEach_of_interrupted (each.symm.trans visits) done interrupted more
    constructor
    · have order := st.entrances_of_perWindow call perWindow
      have length : (st.visits.map Visit.entrance).length = front.length + 1 := by
        rw [visits]
        simp
      rw [List.prefix_iff_eq_take.mp order, length, List.map_take]
    · obtain ⟨operation, -, replied, lands⟩ := ended_of_begun begins
      have ended : begun.ended st.before.runner st.call = .failed (.interrupted reason) := by
        rw [call]
        show Outcome.map _ (Runner.runElement (begun.enter st.before.runner) record).2 = _
        unfold Runner.runElement
        rw [show (begun.enter st.before.runner).plan = st.before.runner.plan from rfl, perWindow]
        simp [failed]
      rw [ended] at replied lands
      exact ⟨replied, lands⟩

/-- What a call delivers stays delivered, in whatever way the call ends. -/
theorem Stage.reached_after (st : Stage α β σ) (channel : ChannelId) :
    st.after.runner.run.router.reached channel =
      st.before.runner.run.router.reached channel ++
        st.moments.flatMap fun m => m.delivered channel := by
  have accumulated := (accumulates_reached channel).view_performAll st.before [st.call]
  rw [Session.stages_cons, Session.stages_nil, List.flatMap_singleton] at accumulated
  exact accumulated

/-- **While a run is interrupted.**  A runner was built and a run of it is under way.  The signal
    was bound with a history, and its history goes on with what the setup and the events do to it.
    As long as a reason is pending: no event enters the callback, reads a side input, asks the
    provider for keyed state, or reads or writes through a handle on keyed state; and a call that
    passes the order check fails with the reason and fails the bundle.  In particular, when the
    invocation in a window of a record is done and leaves a reason pending, and there are windows
    left, the record is processed in the windows so far and in no other, what was delivered stays
    delivered, and the call fails. -/
theorem nothing_done_while_interrupted (callback : Callback α β σ) (state : σ)
    (binding : Binding α β) (settings : Settings) (prior : List SignalAction)
    (bound : binding.interrupt = .ofHistory prior) (r : Runner α β σ)
    (built : (Runner.build callback state binding settings).outcome = .done r)
    (calls : List (Call α)) :
    (∀ xs e ys, (Session.ofRunner r).events calls = xs ++ e :: ys → ∀ reason,
      pending? (prior ++ Runner.setupSignals callback state binding settings ++
        xs.flatMap Event.signals) = some reason → e.Halted reason) ∧
    (∀ reason, pending? (prior ++ Runner.setupSignals callback state binding settings ++
        (Session.ofRunner r).signals calls) = some reason →
      ∀ st : Stage α β σ, st.before = ((Session.ofRunner r).performAll calls).1 →
        ∀ operation, st.accepted? = some operation →
          st.reply.outcome? = some (.failed (.interrupted reason)) ∧
          st.after.phase? = some .failed) ∧
    (callback.descriptor.granularity = .perWindow →
      ∀ st ∈ (Session.ofRunner r).stages calls, ∀ record, st.call = .process record →
        ∀ front v rest reason, st.visits = front ++ v :: rest → v.turn.2 = .done () →
          pending? (v.moments.flatMap Moment.signals) = some reason →
          front.length + 1 < record.windows.size →
            st.visits.map Visit.entrance =
              (record.windows.windows.take (front.length + 1)).map (fun w =>
                .process (record.narrow w)) ∧
            st.reply.outcome? = some (.failed (.interrupted reason)) ∧
            st.after.phase? = some .failed ∧
            ∀ channel, st.after.runner.run.router.reached channel =
              st.before.runner.run.router.reached channel ++
                st.moments.flatMap fun m => m.delivered channel) := by
  have start : r.run.interrupt =
      .ofHistory (prior ++ Runner.setupSignals callback state binding settings) := by
    rw [Runner.interrupt_of_build built, bound, Interrupt.ofHistory, Interrupt.ofHistory,
      List.foldl_append]
  refine ⟨?_, ?_, ?_⟩
  · intro xs e ys split reason pending
    have raised : e.before.interrupt = .raise reason := by
      rw [Session.interrupt_before split, ← foldl_of_pending pending .clear, List.foldl_append]
      exact congrArg (List.foldl SignalAction.apply · _) start
    refine Event.halted_of_raised raised ?_
    rintro v rfl
    -- the callback is entered only when the signal is down
    have ready := Session.ready_of_enter (split ▸ List.mem_append_right _ (List.mem_cons_self ..))
    have fails : v.runner.run.interrupt.check = .error (.interrupted reason) := by
      rw [show v.runner.run.interrupt = .raise reason from raised, Interrupt.check_raise]
    exact absurd (ready.symm.trans fails) (by simp)
  · rintro reason pending st before operation accepted
    have raised : st.before.runner.run.interrupt = .raise reason := by
      rw [before, Session.interrupt_performAll, ← foldl_of_pending pending .clear,
        List.foldl_append]
      exact congrArg (List.foldl SignalAction.apply · _) start
    exact Stage.outcome_of_interrupted accepted (by rw [raised, Interrupt.check_raise])
  · intro perWindow st hst record call front v rest reason visits done pending more
    have plan : st.before.runner.plan = r.plan := congrArg Prod.snd (Stage.fixed_of_mem hst)
    have granularity : st.before.runner.plan.descriptor.granularity = .perWindow := by
      rw [plan, (Runner.of_build built).1]
      exact perWindow
    obtain ⟨entrances, replied, lands⟩ :=
      Stage.stops_of_pending call granularity visits done pending more
    exact ⟨entrances, replied, lands, st.reached_after⟩

/-! ### A callback that halts the run

The callback emits in each window of a record, and raises the signal the second time.
-/

namespace HaltsSecond

/-- Emits the element, and raises the signal when it has been invoked once before. -/
def callback : Callback Nat Nat Nat where
  descriptor := { Descriptor.plain with granularity := .perWindow }
  skew := none
  setup state := .stop state (.done ())
  start _ state := .stop state (.done ())
  process view state :=
    .ask (.output (.emit view.element none)) fun _ =>
      if state = 1 then
        .ask (.output (.shared (.raise "halt"))) fun _ => .stop (state + 1) (.done ())
      else .stop (state + 1) (.done ())
  finish _ state := .stop state (.done ())

/-- A record in three windows. -/
def record : Record Nat where
  value := 7
  timestamp := .epoch
  windows := ⟨[.global, .interval ⟨.epoch, .clamp 30, by decide⟩,
    .interval ⟨.epoch, .clamp 40, by decide⟩], by decide, by simp⟩

/-- A bundle with the record in it, and another bundle. -/
def calls : List (Call Nat) := [.openBundle, .start, .process record, .openBundle]

end HaltsSecond

/-- Two of three windows are processed, and what they emit reaches the sink; the next bundle cannot
    be started. -/
theorem nothing_done_while_interrupted_haltsSecond :
    ∃ r, (Runner.build HaltsSecond.callback 0 (.ofMain .collecting) .default).outcome = .done r ∧
      (∃ st ∈ (Session.ofRunner r).stages HaltsSecond.calls,
        st.call = .process HaltsSecond.record ∧ st.visits.length = 2 ∧
        st.reply.outcome? = some (.failed (.interrupted "halt")) ∧
        (st.after.runner.run.router.reached .main).length = 2) ∧
      ∃ st : Stage Nat Nat Nat,
        st.before = ((Session.ofRunner r).performAll HaltsSecond.calls).1 ∧ st.call = .start ∧
        st.reply.outcome? = some (.failed (.interrupted "halt")) := by
  refine ⟨_, rfl, ?_, ?_⟩
  · obtain ⟨-, -, stops⟩ := nothing_done_while_interrupted HaltsSecond.callback 0
      (.ofMain .collecting) .default [] rfl _ rfl HaltsSecond.calls
    -- the third call processes the record
    refine ⟨_, List.mem_cons_of_mem _ (List.mem_cons_of_mem _ (List.mem_cons_self ..)), rfl, rfl,
      ?_, rfl⟩
    exact (stops rfl _ (List.mem_cons_of_mem _ (List.mem_cons_of_mem _ (List.mem_cons_self ..)))
      HaltsSecond.record rfl [_] _ [] "halt" rfl rfl rfl (by decide)).2.1
  · obtain ⟨-, fails, -⟩ := nothing_done_while_interrupted HaltsSecond.callback 0
      (.ofMain .collecting) .default [] rfl _ rfl HaltsSecond.calls
    exact ⟨⟨_, .start⟩, rfl, rfl, (fails "halt" rfl _ rfl .start rfl).1⟩

end BundleRunner
