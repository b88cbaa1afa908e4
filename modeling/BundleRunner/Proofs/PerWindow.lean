import BundleRunner.Proofs.Silence
import BundleRunner.Proofs.Turns

namespace BundleRunner

/-!
# One window at a time

A descriptor can ask for one invocation in each window of a record.  This file proves that the
invocations are those of as many records, each in one of the windows:

* `Bundle.process_silent` — what the processing of a record comes to under such a descriptor;
* `Session.performAll_of_stuck` — calls for records that are refused one after the other;
* `process_eq_process_windows` — one call for a record, against one call for each of its windows.

The one call goes through the windows in a loop, and passes the order check once.  The separate
calls pass it each time, which they can as long as all before them are done; and where the loop
stops, the calls that are left are refused.
-/

variable {α β σ : Type}

namespace Runner

/-- A record in one window is processed by the invocation in this window. -/
theorem invokeEach_single (record : Record α) (w : Window) (r : Runner α β σ) :
    invokeEach (record.narrow w) [w] r = r.invoke (record.narrow w) := by
  have twice : (record.narrow w).narrow w = record.narrow w := rfl
  unfold invokeEach
  rw [twice]
  generalize r.invoke (record.narrow w) = made
  obtain ⟨next, ended⟩ := made
  cases ended <;> rfl

end Runner

namespace Bundle

/-- The bundle after an element: done, with the number of invocations, or not. -/
def landed (b : Bundle) (invocations : Nat) : Outcome Unit → Bundle
  | .done () => b.count invocations
  | .failed _ => { b with phase := .failed }
  | .panicked _ => { b with phase := .processingElement }

/-- **Processing in each window.** Within a bundle, a record comes to the invocations in its
    windows, one after the other. -/
theorem process_silent {b : Bundle} {r : Runner α β σ} (record : Record α)
    (inBundle : b.phase = .inBundle)
    (perWindow : r.plan.descriptor.granularity = .perWindow) :
    (b.process r record).runner.silent =
        (Runner.invokeEach record record.windows.windows r).1.silent ∧
      (b.process r record).outcome =
        (Runner.invokeEach record record.windows.windows r).2 ∧
      (b.process r record).bundle = b.landed record.windows.size
        (Runner.invokeEach record record.windows.windows r).2 := by
  obtain ⟨id, phase, elements, invocations⟩ := b
  obtain rfl : phase = .inBundle := inBundle
  -- the invocations find the runner inside the span of the bundle, which only the log can tell
  have entered : (r.mapRun (·.within (some id))).silent = r.silent :=
    r.silent_mapRun fun s => s.silent_within (some id)
  obtain ⟨sameRunner, sameOutcome⟩ :=
    Runner.invokeEach_silent record record.windows.windows entered
  rw [← sameRunner, ← sameOutcome]
  have element : (r.mapRun (·.within (some id))).runElement record =
      ((Runner.invokeEach record record.windows.windows (r.mapRun (·.within (some id)))).1,
        (Runner.invokeEach record record.windows.windows
          (r.mapRun (·.within (some id)))).2.map fun _ => record.windows.size) := by
    unfold Runner.runElement
    rw [show (r.mapRun (·.within (some id))).plan = r.plan from rfl, perWindow]
  unfold process
  rw [show advance ⟨id, .inBundle, elements, invocations⟩ .process =
    some ⟨id, .processingElement, elements, invocations⟩ from rfl]
  simp only [enter, element]
  generalize Runner.invokeEach record record.windows.windows
    (r.mapRun (·.within (some id))) = ended
  obtain ⟨next, outcome⟩ := ended
  cases outcome with
  | done u => exact ⟨rfl, rfl, rfl⟩
  | failed fault => exact ⟨rfl, rfl, rfl⟩
  | panicked message => exact ⟨rfl, rfl, rfl⟩

end Bundle

/-! ### A call for each window -/

/-- How calls on a bundle ended as a whole: as the first of them that was not done, and done if all
    were. -/
def Reply.overall (replies : List Reply) : Outcome Unit :=
  ((replies.filterMap outcome?).find? fun outcome => !outcome.isDone).getD (.done ())

namespace Session

/-- Calls for records that the bundle does not let begin are refused one after the other, and change
    nothing but the log. -/
theorem performAll_of_stuck {s : Session α β σ} {b : Bundle} (records : List (Record α))
    (opened : s.bundle = some b) (stuck : b.advance .process = none) :
    (s.performAll (records.map .process)).1.runner.silent = s.runner.silent ∧
      (s.performAll (records.map .process)).1.bundle = some b := by
  induction records generalizing s with
  | nil => exact ⟨rfl, opened⟩
  | cons record records ih =>
    let st : Stage α β σ := ⟨s, .process record⟩
    have refused : st.Refused b .process := st.refused opened rfl stuck
    obtain ⟨runner, bundle⟩ := ih (s := st.after) (refused.bundle_after.trans opened)
    refine ⟨?_, bundle⟩
    have told : st.after.runner.silent = s.runner.silent := by
      rw [refused.after]
      exact s.runner.silent_mapRun fun run => run.silent_tell _
    exact runner.trans told

/-- A call for a record in one of its windows, within a bundle. -/
theorem perform_narrow {s : Session α β σ} {b : Bundle} (record : Record α) (w : Window)
    (opened : s.bundle = some b) (inBundle : b.phase = .inBundle)
    (perWindow : s.runner.plan.descriptor.granularity = .perWindow) :
    (s.perform (.process (record.narrow w))).1.runner.silent =
        (s.runner.invoke (record.narrow w)).1.silent ∧
      (s.perform (.process (record.narrow w))).2 =
        .moved (s.runner.invoke (record.narrow w)).2 ∧
      (s.perform (.process (record.narrow w))).1.bundle =
        some (b.landed 1 (s.runner.invoke (record.narrow w)).2) := by
  obtain ⟨r, bundle⟩ := s
  obtain rfl : bundle = some b := opened
  obtain ⟨runner, outcome, turned⟩ := Bundle.process_silent (record.narrow w) inBundle perWindow
  rw [Record.windows_narrow, WindowSet.windows_single, Runner.invokeEach_single]
    at runner outcome turned
  exact ⟨runner, congrArg Reply.moved outcome, congrArg some turned⟩

/-- **Calls for windows.** Within a bundle, calls for a record in one window after the other come to
    the invocations in these windows. -/
theorem performAll_windows {s : Session α β σ} {b : Bundle} (record : Record α) (ws : List Window)
    (opened : s.bundle = some b) (inBundle : b.phase = .inBundle)
    (perWindow : s.runner.plan.descriptor.granularity = .perWindow) :
    (s.performAll ((ws.map record.narrow).map .process)).1.runner.silent =
        (Runner.invokeEach record ws s.runner).1.silent ∧
      Reply.overall (s.performAll ((ws.map record.narrow).map .process)).2 =
        (Runner.invokeEach record ws s.runner).2 ∧
      (s.performAll ((ws.map record.narrow).map .process)).1.phase? =
        some (b.landed 0 (Runner.invokeEach record ws s.runner).2).phase ∧
      ((Runner.invokeEach record ws s.runner).2 = .done () →
        (s.performAll ((ws.map record.narrow).map .process)).1.bundle =
          some { b with
            elements := b.elements + ws.length
            invocations := b.invocations + ws.length }) := by
  induction ws generalizing s b with
  | nil => exact ⟨rfl, rfl, congrArg (Option.map Bundle.phase) opened, fun _ => opened⟩
  | cons w ws ih =>
    obtain ⟨runner, reply, bundle⟩ := perform_narrow record w opened inBundle perWindow
    have plan : (s.perform (.process (record.narrow w))).1.runner.plan = s.runner.plan :=
      congrArg Prod.snd (s.fixed_perform _)
    rw [List.map_cons, List.map_cons, performAll_cons, reply]
    unfold Runner.invokeEach
    generalize (s.perform (.process (record.narrow w))).1 = s' at runner bundle plan ⊢
    generalize s.runner.invoke (record.narrow w) = made at runner bundle ⊢
    obtain ⟨next, ended⟩ := made
    cases ended with
    | done u =>
      have rest := ih bundle inBundle (by rw [plan, perWindow])
      -- the loop goes on from the runner of this call, up to the log
      obtain ⟨sameRunner, sameOutcome⟩ := Runner.invokeEach_silent record ws runner
      rw [sameRunner, sameOutcome] at rest
      obtain ⟨runners, outcomes, phases, all⟩ := rest
      refine ⟨runners, outcomes, ?_, ?_⟩
      · rw [phases]
        cases (Runner.invokeEach record ws next).2 <;> rfl
      · intro done
        rw [all done]
        simp only [Bundle.landed, Bundle.count, List.length_cons]
        rw [Nat.add_assoc, Nat.add_assoc, Nat.add_comm 1]
    | failed fault =>
      -- the loop stops here, and a failed bundle refuses the windows that are left
      have stuck : (b.landed 1 (.failed fault)).advance .process = none := rfl
      obtain ⟨sameRunner, sameBundle⟩ := performAll_of_stuck (ws.map record.narrow) bundle stuck
      refine ⟨sameRunner.trans runner, rfl, ?_, fun done => absurd done (by simp)⟩
      exact congrArg (Option.map Bundle.phase) sameBundle
    | panicked message =>
      -- so does a bundle that stands where a panic left it
      have stuck : (b.landed 1 (.panicked message)).advance .process = none := rfl
      obtain ⟨sameRunner, sameBundle⟩ := performAll_of_stuck (ws.map record.narrow) bundle stuck
      refine ⟨sameRunner.trans runner, rfl, ?_, fun done => absurd done (by simp)⟩
      exact congrArg (Option.map Bundle.phase) sameBundle

end Session

/-- The calls for a record in each of its windows, in order. -/
def Record.windowCalls (record : Record α) : List (Call α) :=
  (record.windows.windows.map record.narrow).map .process

/-- **One window at a time.** A record is processed within a bundle under a descriptor that asks for
    one invocation in each window.  One call for the record and one call for each of its windows
    leave the same runner behind, up to the log: the callback's state, the outputs with their
    counters and used tags, the aggregates, the keyed state, the queries, the reads, and the
    interrupt signal.  They leave the bundle in the same phase, and the one call ends as the first
    of the others that is not done.  When all are done, the bundle has as many invocations more as
    there are windows, and one element more or as many. -/
theorem process_eq_process_windows (s : Session α β σ) (b : Bundle) (record : Record α)
    (opened : s.bundle = some b) (inBundle : b.phase = .inBundle)
    (perWindow : s.runner.plan.descriptor.granularity = .perWindow) :
    (s.perform (.process record)).1.runner.silent =
        (s.performAll record.windowCalls).1.runner.silent ∧
      (s.perform (.process record)).1.phase? = (s.performAll record.windowCalls).1.phase? ∧
      (s.perform (.process record)).2 =
        .moved (Reply.overall (s.performAll record.windowCalls).2) ∧
      ((s.perform (.process record)).2 = .moved (.done ()) →
        (s.perform (.process record)).1.bundle = some { b with
            elements := b.elements + 1
            invocations := b.invocations + record.windows.size } ∧
          (s.performAll record.windowCalls).1.bundle = some { b with
            elements := b.elements + record.windows.size
            invocations := b.invocations + record.windows.size }) := by
  obtain ⟨runners, overall, phases, all⟩ :=
    Session.performAll_windows record record.windows.windows opened inBundle perWindow
  obtain ⟨r, bundle⟩ := s
  obtain rfl : bundle = some b := opened
  obtain ⟨runner, outcome, turned⟩ := Bundle.process_silent record inBundle perWindow
  have reply : (Session.perform ⟨r, some b⟩ (.process record)).2 =
      .moved (b.process r record).outcome := rfl
  have opens : (Session.perform ⟨r, some b⟩ (.process record)).1.bundle =
      some (b.process r record).bundle := rfl
  refine ⟨runner.trans runners.symm, ?_, ?_, ?_⟩
  · rw [Record.windowCalls, phases, Session.phase?, opens, turned]
    cases (Runner.invokeEach record record.windows.windows r).2 <;> rfl
  · rw [reply, outcome, Record.windowCalls, overall]
  · intro done
    rw [reply, outcome] at done
    have ended : (Runner.invokeEach record record.windows.windows r).2 = .done () :=
      Reply.moved.inj done
    refine ⟨?_, all ended⟩
    rw [opens, turned, ended]
    rfl

/-! ### A callback that fails in a window

The callback counts its invocations, and emits in each.  It fails the second time.
-/

namespace FailsSecond

/-- Emits the element, and fails when it has been invoked once before. -/
def callback : Callback Nat Nat Nat where
  descriptor := { Descriptor.plain with granularity := .perWindow }
  skew := none
  setup state := .stop state (.done ())
  start _ state := .stop state (.done ())
  process view state :=
    .ask (.output (.emit view.element none)) fun _ =>
      .stop (state + 1) (if state = 1 then .failed (.callback "second") else .done ())
  finish _ state := .stop state (.done ())

/-- The milliseconds from the epoch up to a positive one. -/
def upTo (n : Nat) (positive : Instant.epoch < .clamp n) : Interval :=
  ⟨.epoch, .clamp n, positive⟩

/-- A record in three windows. -/
def record : Record Nat where
  value := 7
  timestamp := .epoch
  windows := ⟨[.global, .interval (upTo 10 (by decide)), .interval (upTo 20 (by decide))],
    by decide, by simp⟩

/-- A bundle that is started. -/
def begun : List (Call Nat) := [.openBundle, .start]

end FailsSecond

/-- The callback fails in the second of three windows, in one call and in three: the third is
    refused, and both ways leave the same behind. -/
theorem process_eq_process_windows_failsSecond :
    ∃ r, (Runner.build FailsSecond.callback 0 (.ofMain .collecting) .default).outcome = .done r ∧
      ∃ s, s = ((Session.ofRunner r).performAll FailsSecond.begun).1 ∧
        (s.perform (.process FailsSecond.record)).2 = .moved (.failed (.callback "second")) ∧
        (s.performAll FailsSecond.record.windowCalls).2 =
          [.moved (.done ()), .moved (.failed (.callback "second")),
            .moved (.failed (.lifecycleViolation "process_element" "Failed"))] ∧
        (s.perform (.process FailsSecond.record)).1.runner.silent =
          (s.performAll FailsSecond.record.windowCalls).1.runner.silent := by
  refine ⟨_, rfl, _, rfl, rfl, rfl, ?_⟩
  exact (process_eq_process_windows _ ⟨1, .inBundle, 0, 0⟩ FailsSecond.record rfl rfl rfl).1

end BundleRunner
