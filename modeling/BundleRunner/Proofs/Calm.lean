import BundleRunner.Proofs.Turns

namespace BundleRunner

/-!
# Panics

A panic moves nothing, so what is proved about a bundle often asks for calls without one.  Whether a
call panics is a matter of its callback alone:

* `Stage.Calm` — a call that does not panic;
* `Callback.Calm` — a callback that does not panic, whatever it is answered;
* `Session.calm_of_callback` — a session with such a callback makes no call that panics.
-/

variable {α β σ : Type}

/-- A call ended without a panic. -/
def Outcome.Calm {τ : Type} (outcome : Outcome τ) : Prop := ∀ message, outcome ≠ .panicked message

/-- No callback panics during the call. -/
def Stage.Calm (st : Stage α β σ) : Prop :=
  ∀ outcome, st.reply.outcome? = some outcome → outcome.Calm

/-- No answers lead the program into a panic. -/
def Program.Calm {R : Type 1} {Answer : R → Type} : Program Answer σ → Prop
  | .stop _ outcome => outcome.Calm
  | .ask _ next => ∀ answer, (next answer).Calm

/-- No program of the callback panics, once it is set up. -/
structure Callback.Calm (callback : Callback α β σ) : Prop where
  start : ∀ options state, (callback.start options state).Calm
  process : ∀ view state, (callback.process view state).Calm
  finish : ∀ options state, (callback.finish options state).Calm

/-- The callback that emits every element as it is does not panic. -/
theorem Callback.calm_echo : (Callback.echo : Callback α α σ).Calm where
  start options state := by simp [echo, ofProcess, Program.Calm, Outcome.Calm]
  process view state := by
    intro answer
    cases answer <;> simp [Program.Calm, Outcome.Calm, Outcome.ofExcept]
  finish options state := by simp [echo, ofProcess, Program.Calm, Outcome.Calm]

theorem Program.Calm.outcome_run {R : Type 1} {Answer : R → Type} {E : Type 1}
    {answer : (request : R) → E → E × Answer request} {program : Program Answer σ}
    (calm : program.Calm) (env : E) : (program.run answer env).outcome.Calm := by
  induction program generalizing env with
  | stop state outcome => exact calm
  | ask request next ih => exact ih _ (calm _) _

theorem Outcome.calm_map {τ υ : Type} {outcome : Outcome τ} {f : τ → υ} :
    (outcome.map f).Calm ↔ outcome.Calm := by
  cases outcome <;> simp [Calm, map]

namespace Runner

theorem calm_runBundlePhase {r : Runner α β σ}
    {phase : Options → σ → Program (@OutputRequest.Answer β) σ}
    (calm : ∀ options state, (phase options state).Calm) : (r.runBundlePhase phase).2.Calm := by
  unfold runBundlePhase
  split
  · simp [Outcome.Calm]
  · exact (calm _ _).outcome_run _

theorem calm_invoke {r : Runner α β σ} (calm : r.callback.Calm) (record : Record α) :
    (r.invoke record).2.Calm := by
  unfold invoke
  split
  · simp [Outcome.Calm]
  · exact (calm.process _ _).outcome_run _

theorem calm_invokeEach {r : Runner α β σ} (calm : r.callback.Calm) (record : Record α)
    (ws : List Window) : (invokeEach record ws r).2.Calm := by
  induction ws generalizing r with
  | nil => simp [invokeEach, Outcome.Calm]
  | cons w ws ih =>
    have first : (r.invoke (record.narrow w)).2.Calm := calm_invoke calm (record.narrow w)
    have same : (r.invoke (record.narrow w)).1.callback = r.callback :=
      congrArg Prod.fst (fixed_invoke r (record.narrow w))
    unfold invokeEach
    split
    next r' invoked =>
      -- the next window is seen by the same callback, in whatever state it is left
      rw [invoked] at same
      exact ih (same ▸ calm)
    next r' ended _ invoked =>
      rw [invoked] at first
      exact first

theorem calm_runElement {r : Runner α β σ} (calm : r.callback.Calm) (record : Record α) :
    (r.runElement record).2.Calm := by
  unfold runElement
  split
  · exact Outcome.calm_map.mpr (calm_invoke calm record)
  · exact Outcome.calm_map.mpr (calm_invokeEach calm record _)

end Runner

/-- A callback that does not panic never does during a call. -/
theorem Stage.calm_of_callback {st : Stage α β σ} (calm : st.before.runner.callback.Calm) :
    st.Calm := by
  intro outcome replied
  cases opened : st.before.bundle with
  | none =>
    obtain ⟨⟨r, bundle⟩, call⟩ := st
    obtain rfl : bundle = none := opened
    cases call <;> exact absurd replied (by simp [reply, Session.perform, Reply.outcome?])
  | some b =>
    cases performs : st.call.operation? with
    | none =>
      rw [outcome?_of_idle performs] at replied
      exact absurd replied (by simp)
    | some operation =>
      cases advance : b.advance operation with
      | none =>
        rw [(st.refused opened performs advance).reply] at replied
        obtain rfl := Option.some.inj replied
        simp [Outcome.Calm]
      | some begun =>
        obtain ⟨⟨r, bundle⟩, call⟩ := st
        obtain rfl : bundle = some b := opened
        cases call with
        | start =>
          obtain rfl : .start = operation := Option.some.inj performs
          simp only [reply, Session.perform, Session.ofTurn, Reply.outcome?, Bundle.start, advance,
            Bundle.leave, Bundle.outcome_settle, Option.some.injEq] at replied
          rw [← replied]
          exact Runner.calm_runBundlePhase calm.start
        | process record =>
          obtain rfl : .process = operation := Option.some.inj performs
          simp only [reply, Session.perform, Session.ofTurn, Reply.outcome?, Bundle.process,
            advance, Bundle.leave, Bundle.outcome_settle, Option.some.injEq] at replied
          rw [← replied]
          exact Outcome.calm_map.mpr (Runner.calm_runElement (r := begun.enter r) calm record)
        | finish =>
          obtain rfl : .finish = operation := Option.some.inj performs
          simp only [reply, Session.perform, Session.ofTurn, Reply.outcome?, Bundle.finish, advance,
            Bundle.leave, Bundle.outcome_close, Bundle.outcome_settle, Option.some.injEq] at replied
          rw [← replied]
          exact Runner.calm_runBundlePhase calm.finish
        | _ => exact absurd performs (by simp [Call.operation?])

/-- A session whose callback does not panic has calm stages only. -/
theorem Session.calm_of_callback {s : Session α β σ} {calls : List (Call α)}
    (calm : s.runner.callback.Calm) : ∀ st ∈ s.stages calls, st.Calm := by
  intro st hst
  have same : st.before.runner.callback = s.runner.callback :=
    congrArg Prod.fst (Stage.fixed_of_mem hst)
  exact Stage.calm_of_callback (same ▸ calm)

end BundleRunner
