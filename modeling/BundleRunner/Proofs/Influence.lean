import BundleRunner.Proofs.Arrivals
import BundleRunner.Proofs.PerWindow

namespace BundleRunner

/-!
# The influence of the window function

A window function is asked for windows where there is no element to take them from: when a callback
emits at the start or the finish of a bundle.  This file proves that it is of no influence
elsewhere.  A run with another window function is compared with the run in two steps:

* `Session.perform_silent` — sessions that agree up to the log go the same way, so that it does not
  matter that the log names the window function;
* `Session.perform_withWindowFn` — a call does the same with another window function in place, as
  long as nothing is emitted around the elements;
* `window_function_without_influence` — the two steps together, from the setup on.
-/

universe u

variable {α β σ τ : Type}

/-! ## Sessions up to the log -/

namespace Session

/-- The session without what its run has told the log. -/
def silent (s : Session α β σ) : Session α β σ := { s with runner := s.runner.silent }

/-- Sessions that agree up to the log simulate each other. -/
theorem upToLog_iff {s s' : Session α β σ} :
    (upToLog : Simulation α β).Sessions s s' ↔ s.silent = s'.silent := by
  obtain ⟨r, opened⟩ := s
  obtain ⟨r', opened'⟩ := s'
  simp only [silent, mk.injEq, ← Runner.upToLog_iff]
  exact ⟨fun related => ⟨related.runner, related.bundle⟩, fun related => ⟨related.1, related.2⟩⟩

/-- **Silence of a session.** Every call does the same, with the same reply, in sessions that agree
    up to the log. -/
theorem perform_silent (call : Call α) {s s' : Session α β σ} (same : s.silent = s'.silent) :
    (s.perform call).1.silent = (s'.perform call).1.silent ∧
      (s.perform call).2 = (s'.perform call).2 := by
  obtain ⟨sessions, reply⟩ := (upToLog_iff.mpr same).perform call
  exact ⟨upToLog_iff.mp sessions, reply⟩

end Session

/-! ## Another window function -/

/-- The request is an emission outside element processing. -/
def Moment.emitsOutside : Moment α β → Bool
  | bundle _ request _ => request.explicit?.isSome
  | element .. => false

/-- The invocation with another window function. -/
def Invocation.withWindowFn (i : Invocation α) (g : WindowFn α) : Invocation α :=
  { i with plan := { i.plan with windowFn := g } }

/-- The runner with another window function. -/
def Runner.withWindowFn (r : Runner α β σ) (g : WindowFn α) : Runner α β σ :=
  { r with plan := { r.plan with windowFn := g } }

/-- The session with another window function. -/
def Session.withWindowFn (s : Session α β σ) (g : WindowFn α) : Session α β σ :=
  { s with runner := s.runner.withWindowFn g }

/-- The turn with another window function. -/
def Turn.withWindowFn (t : Turn α β σ τ) (g : WindowFn α) : Turn α β σ τ :=
  { t with runner := t.runner.withWindowFn g }

/-! ### Requests -/

/-- **Congruence of a run.** When another environment answers the requests of a run in the same way,
    the run is the same there. -/
theorem Program.run_congr {R : Type u} {Answer : R → Type} {E : Type u}
    {answer answer' : (request : R) → E → E × Answer request} (program : Program Answer σ) (env : E)
    (same : ∀ asked ∈ program.requests answer env,
      answer' asked.1 asked.2 = answer asked.1 asked.2) :
    program.run answer' env = program.run answer env := by
  induction program generalizing env with
  | stop state outcome => rfl
  | ask request next ih =>
    rw [requests_ask] at same
    have first : answer' request env = answer request env := same _ (List.mem_cons_self ..)
    rw [run_ask, run_ask, first]
    exact ih _ _ fun asked later => same asked (List.mem_cons_of_mem _ later)

/-- What is not an emission is answered alike in every scope. -/
theorem OutputRequest.perform_eq {request : OutputRequest β} (silent : request.explicit? = none)
    (scope scope' : Scope α) (s : RunState β) :
    request.perform scope s = request.perform scope' s := by
  cases request with
  | emit value explicit => exact absurd silent (by simp [explicit?])
  | emitTagged tag value explicit => exact absurd silent (by simp [explicit?])
  | _ => rfl

/-- No request of an invocation is answered with the help of the window function. -/
theorem ElementRequest.perform_withWindowFn (i : Invocation α) (g : WindowFn α)
    (request : ElementRequest β) (s : ElementState β) :
    request.perform (i.withWindowFn g) s = request.perform i s := by
  cases request <;> rfl

/-! ### Visits -/

namespace Runner

variable {r : Runner α β σ}

theorem elementRun_withWindowFn (r : Runner α β σ) (g : WindowFn α) (record : Record α) :
    (r.withWindowFn g).elementRun record = r.elementRun record :=
  Program.run_congr _ _ fun asked _ =>
    asked.1.perform_withWindowFn (r.invocation record) g asked.2

/-- An invocation does the same with another window function. -/
theorem invoke_withWindowFn (r : Runner α β σ) (g : WindowFn α) (record : Record α) :
    (r.withWindowFn g).invoke record =
      ((r.invoke record).1.withWindowFn g, (r.invoke record).2) := by
  cases ready : r.run.interrupt.check with
  | error fault =>
    have interrupted : (r.withWindowFn g).run.interrupt.check = .error fault := ready
    unfold invoke
    rw [ready, interrupted]
  | ok u =>
    have entered : (r.withWindowFn g).run.interrupt.check = .ok () := ready
    rw [invoke_of_ready ready, invoke_of_ready entered, elementRun_withWindowFn]
    rfl

/-- So do invocations in a list of windows. -/
theorem invokeEach_withWindowFn (g : WindowFn α) (record : Record α) (ws : List Window)
    (r : Runner α β σ) :
    invokeEach record ws (r.withWindowFn g) =
      ((invokeEach record ws r).1.withWindowFn g, (invokeEach record ws r).2) := by
  induction ws generalizing r with
  | nil => rfl
  | cons w ws ih =>
    unfold invokeEach
    rw [invoke_withWindowFn]
    generalize r.invoke (record.narrow w) = made
    obtain ⟨next, ended⟩ := made
    cases ended with
    | done u => exact ih next
    | failed fault => rfl
    | panicked message => rfl

/-- So does the processing of a record. -/
theorem runElement_withWindowFn (r : Runner α β σ) (g : WindowFn α) (record : Record α) :
    (r.withWindowFn g).runElement record =
      ((r.runElement record).1.withWindowFn g, (r.runElement record).2) := by
  have granularity : (r.withWindowFn g).plan.descriptor.granularity =
      r.plan.descriptor.granularity := rfl
  unfold runElement
  rw [granularity]
  cases r.plan.descriptor.granularity with
  | perRecord => rw [invoke_withWindowFn]
  | perWindow => rw [invokeEach_withWindowFn]

/-- A bundle phase does the same with another window function, as long as it emits nothing. -/
theorem runBundlePhase_withWindowFn (g : WindowFn α)
    (phase : Options → σ → Program (@OutputRequest.Answer β) σ)
    (quiet : r.run.interrupt.check = .ok () →
      ∀ m ∈ r.bundleMoments phase, m.emitsOutside = false) :
    (r.withWindowFn g).runBundlePhase phase =
      ((r.runBundlePhase phase).1.withWindowFn g, (r.runBundlePhase phase).2) := by
  cases ready : r.run.interrupt.check with
  | error fault =>
    have interrupted : (r.withWindowFn g).run.interrupt.check = .error fault := ready
    unfold runBundlePhase
    rw [ready, interrupted]
  | ok u =>
    have entered : (r.withWindowFn g).run.interrupt.check = .ok () := ready
    -- the window function is part of the scope, which matters to emissions alone
    have sameRun : (r.withWindowFn g).bundleRun phase = r.bundleRun phase := by
      refine Program.run_congr _ _ fun asked member => ?_
      have silent := quiet ready _ (List.mem_map_of_mem member)
      exact OutputRequest.perform_eq (by simpa [Moment.emitsOutside] using silent) _ _ _
    rw [runBundlePhase_of_ready ready, runBundlePhase_of_ready entered, sameRun]
    rfl

theorem runStart_withWindowFn (g : WindowFn α)
    (quiet : ∀ v ∈ r.visitAt .start, ∀ m ∈ v.moments, m.emitsOutside = false) :
    (r.withWindowFn g).runStart = (r.runStart.1.withWindowFn g, r.runStart.2) :=
  runBundlePhase_withWindowFn g _ fun ready =>
    quiet ⟨.start, r⟩ (by rw [visitAt_of_ready ready]; exact List.mem_singleton_self _)

theorem runFinish_withWindowFn (g : WindowFn α)
    (quiet : ∀ v ∈ r.visitAt .finish, ∀ m ∈ v.moments, m.emitsOutside = false) :
    (r.withWindowFn g).runFinish = (r.runFinish.1.withWindowFn g, r.runFinish.2) :=
  runBundlePhase_withWindowFn g _ fun ready =>
    quiet ⟨.finish, r⟩ (by rw [visitAt_of_ready ready]; exact List.mem_singleton_self _)

end Runner

/-! ### Calls -/

namespace Bundle

theorem settle_withWindowFn (b : Bundle) (operation : Operation) (r : Runner α β σ)
    (outcome : Outcome Unit) (g : WindowFn α) :
    b.settle operation (r.withWindowFn g) outcome =
      (b.settle operation r outcome).withWindowFn g := by
  cases outcome <;> rfl

theorem close_withWindowFn (t : Turn α β σ Unit) (g : WindowFn α) :
    close (t.withWindowFn g) = (close t).withWindowFn g := by
  obtain ⟨r, b, outcome⟩ := t
  cases outcome <;> rfl

/-- A bundle is started alike with another window function, as long as nothing is emitted. -/
theorem start_withWindowFn {b begun : Bundle} {r : Runner α β σ} (g : WindowFn α)
    (advance : b.advance .start = some begun)
    (quiet : ∀ v ∈ begun.visits r .start, ∀ m ∈ v.moments, m.emitsOutside = false) :
    b.start (r.withWindowFn g) = (b.start r).withWindowFn g := by
  have entered : resetCounts (begun.enter (r.withWindowFn g)) =
      (resetCounts (begun.enter r)).withWindowFn g := rfl
  rw [start_of_advance advance, start_of_advance advance, entered,
    Runner.runStart_withWindowFn g quiet, settle_withWindowFn]
  rfl

/-- A record is processed alike with another window function. -/
theorem process_withWindowFn {b begun : Bundle} (r : Runner α β σ) (g : WindowFn α)
    (record : Record α) (advance : b.advance .process = some begun) :
    b.process (r.withWindowFn g) record = (b.process r record).withWindowFn g := by
  have entered : begun.enter (r.withWindowFn g) = (begun.enter r).withWindowFn g := rfl
  rw [process_of_advance advance, process_of_advance advance, entered,
    Runner.runElement_withWindowFn, settle_withWindowFn]
  rfl

/-- A bundle is finished alike with another window function, as long as nothing is emitted. -/
theorem finish_withWindowFn {b begun : Bundle} {r : Runner α β σ} (g : WindowFn α)
    (advance : b.advance .finish = some begun)
    (quiet : ∀ v ∈ begun.visits r .finish, ∀ m ∈ v.moments, m.emitsOutside = false) :
    b.finish (r.withWindowFn g) = (b.finish r).withWindowFn g := by
  have entered : begun.enter (r.withWindowFn g) = (begun.enter r).withWindowFn g := rfl
  rw [finish_of_advance advance, finish_of_advance advance, entered,
    Runner.runFinish_withWindowFn g quiet, settle_withWindowFn, close_withWindowFn]
  rfl

end Bundle

/-- **One call.** A call does the same with another window function, with the same reply, as long as
    nothing is emitted outside element processing. -/
theorem Stage.perform_withWindowFn {st : Stage α β σ} (g : WindowFn α)
    (quiet : ∀ m ∈ st.moments, m.emitsOutside = false) :
    (st.before.withWindowFn g).perform st.call = (st.after.withWindowFn g, st.reply) := by
  have visits : ∀ v ∈ st.visits, ∀ m ∈ v.moments, m.emitsOutside = false := fun v hv m hm =>
    quiet m (List.mem_flatMap.mpr ⟨v, hv, hm⟩)
  obtain ⟨⟨r, opened⟩, call⟩ := st
  cases performs : call.operation? with
  | none =>
    -- the other calls do not look at the plan of the run
    cases call with
    | start => exact absurd performs (by simp [Call.operation?])
    | process record => exact absurd performs (by simp [Call.operation?])
    | finish => exact absurd performs (by simp [Call.operation?])
    | _ => rfl
  | some operation =>
    cases opened with
    | none =>
      cases call with
      | start => rfl
      | process record => rfl
      | finish => rfl
      | _ => exact absurd performs (by simp [Call.operation?])
    | some b =>
      cases advance : b.advance operation with
      | none =>
        have refused := fun r : Runner α β σ => Session.perform_of_refused performs advance r
        exact (refused (r.withWindowFn g)).trans
          (congrArg (fun done => (done.1.withWindowFn g, done.2)) (refused r)).symm
      | some begun =>
        have begins : (Stage.mk ⟨r, some b⟩ call).begun? = some begun := by
          simp [begun?, performs, advance]
        rw [visits_of_begun begins] at visits
        cases call with
        | start =>
          obtain rfl : .start = operation := Option.some.inj performs
          have turn := Bundle.start_withWindowFn g advance visits
          simp only [Session.perform, Session.withWindowFn, turn]
          rfl
        | process record =>
          obtain rfl : .process = operation := Option.some.inj performs
          have turn := Bundle.process_withWindowFn r g record advance
          simp only [Session.perform, Session.withWindowFn, turn]
          rfl
        | finish =>
          obtain rfl : .finish = operation := Option.some.inj performs
          have turn := Bundle.finish_withWindowFn g advance visits
          simp only [Session.perform, Session.withWindowFn, turn]
          rfl
        | _ => exact absurd performs (by simp [Call.operation?])

/-! ## Whole runs -/

/-- What a call leaves behind, apart from what was told: the reply, the bundle with its phase and
    its counts, the callback's state, and the state of the run. -/
structure Aftermath (β σ : Type) : Type 1 where
  reply : Reply
  bundle : Option Bundle
  state : σ
  run : RunState β

/-- What the call of a stage leaves behind. -/
def Stage.aftermath (st : Stage α β σ) : Aftermath β σ :=
  ⟨st.reply, st.after.bundle, st.after.runner.state, st.after.runner.run.silent⟩

/-- The same collaborators, with another window function. -/
def Binding.withWindowFn (binding : Binding α β) (g : WindowFn α) : Binding α β :=
  { binding with windowFn := g }

/-- Sessions that agree up to the log and the window function are seen alike. -/
theorem Stage.aftermath_eq {st st' : Stage α β σ} (g : WindowFn α)
    (same : st'.after.silent = (st.after.withWindowFn g).silent) (reply : st'.reply = st.reply) :
    st'.aftermath = st.aftermath := by
  have bundle : st'.after.bundle = st.after.bundle := (congrArg Session.bundle same :)
  have state : st'.after.runner.state = st.after.runner.state :=
    (congrArg (fun s => s.runner.state) same :)
  have run : st'.after.runner.run.silent = st.after.runner.run.silent :=
    (congrArg (fun s => s.runner.run) same :)
  unfold aftermath
  rw [reply, bundle, state, run]

/-- **Run lemma.** A sequence of calls leaves the same behind, call by call, in sessions that agree
    up to the log and the window function. -/
theorem Session.aftermath_stages {s s' : Session α β σ} (g : WindowFn α) (calls : List (Call α))
    (same : s'.silent = (s.withWindowFn g).silent)
    (quiet : ∀ st ∈ s.stages calls, ∀ m ∈ st.moments, m.emitsOutside = false) :
    (s'.stages calls).map Stage.aftermath = (s.stages calls).map Stage.aftermath := by
  induction calls generalizing s s' with
  | nil => rfl
  | cons call calls ih =>
    -- the other session follows the run with its window function replaced, up to the log
    have first := Stage.perform_withWindowFn g (quiet ⟨s, call⟩ (List.mem_cons_self ..))
    obtain ⟨session, reply⟩ := perform_silent call same
    rw [first] at session reply
    have now : (Stage.mk s' call).aftermath = (Stage.mk s call).aftermath :=
      Stage.aftermath_eq g session reply
    have later := ih (s := (s.perform call).1) session fun st later =>
      quiet st (List.mem_cons_of_mem _ later)
    rw [stages_cons, stages_cons, List.map_cons, List.map_cons, now, later]

/-- A runner is built alike with another window function: the log alone names it. -/
theorem Runner.build_withWindowFn (callback : Callback α β σ) (state : σ) (binding : Binding α β)
    (settings : Settings) (g : WindowFn α) :
    (build callback state (binding.withWindowFn g) settings).state =
        (build callback state binding settings).state ∧
      (build callback state (binding.withWindowFn g) settings).run.silent =
        (build callback state binding settings).run.silent ∧
      (build callback state (binding.withWindowFn g) settings).outcome.map silent =
        (build callback state binding settings).outcome.map fun r =>
          (r.withWindowFn g).silent := by
  have fresh : freshRun (binding.withWindowFn g) settings = freshRun binding settings := rfl
  unfold build
  rw [fresh]
  cases settings.validate with
  | error fault => exact ⟨rfl, rfl, rfl⟩
  | ok u =>
    cases callback.descriptor.validate with
    | error fault => exact ⟨rfl, rfl, rfl⟩
    | ok u =>
      dsimp only
      cases ((callback.setup state).run SetupRequest.perform (freshRun binding settings)).outcome
      all_goals exact ⟨rfl, rfl, rfl⟩

/-- **The window function is without influence on elements.** Two bindings differ in the window
    function only.  A callback is set up under both with the same outcome, leaving the same behind.
    Then every sequence of calls, as long as nothing is emitted at the start or the finish of a
    bundle, leaves the same behind under both, call by call: the replies, the phases and the counts
    of the bundles, the callback's state, and the state of the run but for its log. -/
theorem window_function_without_influence (callback : Callback α β σ) (state : σ)
    (binding : Binding α β) (settings : Settings) (f g : WindowFn α) :
    let underF := Runner.build callback state (binding.withWindowFn f) settings
    let underG := Runner.build callback state (binding.withWindowFn g) settings
    underG.state = underF.state ∧ underG.run.silent = underF.run.silent ∧
      underG.outcome.map (fun _ => ()) = underF.outcome.map (fun _ => ()) ∧
      ∀ r r', underF.outcome = .done r → underG.outcome = .done r' → ∀ calls,
        (∀ st ∈ (Session.ofRunner r).stages calls, ∀ m ∈ st.moments, m.emitsOutside = false) →
          ((Session.ofRunner r').stages calls).map Stage.aftermath =
            ((Session.ofRunner r).stages calls).map Stage.aftermath := by
  intro underF underG
  obtain ⟨state, run, outcome⟩ :=
    Runner.build_withWindowFn callback state (binding.withWindowFn f) settings g
  refine ⟨state, run, ?_, ?_⟩
  · have ended := congrArg (Outcome.map fun _ => ()) outcome
    rw [Outcome.map_map, Outcome.map_map] at ended
    exact ended
  · intro r r' built built' calls quiet
    rw [built] at outcome
    have same : r'.silent = (r.withWindowFn g).silent :=
      Outcome.done.inj ((congrArg (Outcome.map Runner.silent) built').symm.trans outcome)
    exact Session.aftermath_stages g calls (congrArg (Session.mk · none) same) quiet

/-! ### A window function that fails

The callback emits every element, and counts the elements it has seen.
-/

namespace Unasked

/-- Emits the element, and counts it. -/
def callback : Callback Nat Nat Nat :=
  .ofProcess fun view state =>
    .ask (.output (.emit view.element none)) fun result =>
      .stop (state + 1) (.ofExcept result)

/-- A window function that reads the element and the windows, and then fails. -/
def failing : WindowFn Nat :=
  .unnamed (.readElement fun _ => .readWindows fun _ => .answer (.error .emptyWindowSet))

/-- One bundle with one element. -/
def calls : List (Call Nat) :=
  [.openBundle, .start, .process ⟨7, .epoch, .global⟩, .finish]

end Unasked

/-- Nothing is emitted around the element, so the bundle is processed alike under the global windows
    and under the window function that fails: the element reaches the sink. -/
theorem window_function_without_influence_failing :
    ∃ r r', (Runner.build Unasked.callback 0 ((Binding.ofMain .collecting).withWindowFn .global)
        .default).outcome = .done r ∧
      (Runner.build Unasked.callback 0 ((Binding.ofMain .collecting).withWindowFn Unasked.failing)
        .default).outcome = .done r' ∧
      ((Session.ofRunner r').performAll Unasked.calls).1.runner.run.router.reached .main =
        [⟨.inl 7, .epoch, .global⟩] ∧
      ((Session.ofRunner r').stages Unasked.calls).map Stage.aftermath =
        ((Session.ofRunner r).stages Unasked.calls).map Stage.aftermath := by
  obtain ⟨-, -, -, alike⟩ := window_function_without_influence Unasked.callback 0
    (.ofMain .collecting) .default .global Unasked.failing
  refine ⟨_, _, rfl, rfl, rfl, alike _ _ rfl rfl Unasked.calls ?_⟩
  decide

end BundleRunner
