import BundleRunner.Proofs.Simulation

namespace BundleRunner

/-!
# Observers

A run tells a log what happens in it, and says for which bundle.  This file proves that nothing
depends on what was told: runs that agree on everything else go the same way.

* `RunState.silent` — a state without what it has told, so that `s.silent = s'.silent` says that two
  states agree up to the log;
* `upToLog`, `Runner.upToLog_iff` — such states simulate each other, and so do runners in them;
* `Runner.silent_mapRun` — what only tells the log leaves a runner that agrees with the one before;
* `Runner.invokeEach_silent` — invocations go the same way from runners that agree up to the log.
-/

variable {α β σ : Type}

/-! ### States up to the log -/

namespace RunState

/-- The state without what it has told the log. -/
def silent (s : RunState β) : RunState β := { s with bundle := none, log := [] }

@[simp] theorem silent_tell (s : RunState β) (notice : Notice) :
    (s.tell notice).silent = s.silent := rfl

@[simp] theorem silent_tellAny (s : RunState β) (notice : Option Notice) :
    (s.tellAny notice).silent = s.silent := by
  cases notice <;> rfl

@[simp] theorem silent_within (s : RunState β) (bundle : Option Nat) :
    (s.within bundle).silent = s.silent := rfl

/-- States that agree up to the log differ in the log only. -/
theorem exists_of_silent {s s' : RunState β} (same : s.silent = s'.silent) :
    ∃ bundle log, s' = { s with bundle, log } := by
  refine ⟨s'.bundle, s'.log, ?_⟩
  cases s
  cases s'
  simp only [silent, mk.injEq] at same
  obtain ⟨rfl, rfl, rfl, rfl, rfl, rfl, rfl, rfl, -, -⟩ := same
  rfl

end RunState

/-- Runs that agree in all but what they tell the log. -/
def upToLog : Simulation α β where
  Plans := Eq
  Routers := Eq
  Logs _ _ := True
  plans := by
    rintro p _ rfl
    exact ⟨p.sideInputs.declared, fun _ => Iff.rfl, rfl⟩
  emitMain := by
    rintro r _ scope value explicit rfl
    exact ⟨rfl, rfl, rfl⟩
  emitTagged := by
    rintro r _ scope tag value explicit rfl
    exact ⟨rfl, rfl, rfl⟩
  takeCounts := by
    rintro r _ rfl
    exact ⟨rfl, rfl⟩
  tell _ _ := trivial
  within _ _ := trivial

/-- These are the states that agree up to the log. -/
theorem upToLog_states_iff {s s' : RunState β} :
    (upToLog : Simulation α β).States s s' ↔ s.silent = s'.silent := by
  constructor
  · intro related
    obtain ⟨_, _, _, rfl, rfl, -⟩ := related.exists_eq
    rfl
  · intro same
    obtain ⟨bundle, log, rfl⟩ := RunState.exists_of_silent same
    exact ⟨rfl, trivial, rfl⟩

namespace Runner

/-- The runner without what its run has told the log. -/
def silent (r : Runner α β σ) : Runner α β σ := r.mapRun RunState.silent

/-- Telling the log changes nothing else. -/
theorem silent_mapRun (r : Runner α β σ) {f : RunState β → RunState β}
    (quiet : ∀ s : RunState β, (f s).silent = s.silent) : (r.mapRun f).silent = r.silent := by
  show ({ r with run := (f r.run).silent } : Runner α β σ) = { r with run := r.run.silent }
  rw [quiet]

/-- Runners that agree up to the log simulate each other. -/
theorem upToLog_iff {r r' : Runner α β σ} :
    (upToLog : Simulation α β).Runners r r' ↔ r.silent = r'.silent := by
  obtain ⟨callback, plan, state, run, bundles⟩ := r
  obtain ⟨callback', plan', state', run', bundles'⟩ := r'
  simp only [silent, mapRun, mk.injEq, ← upToLog_states_iff (α := α)]
  constructor
  · rintro ⟨callback, plan, state, run, bundles⟩
    exact ⟨callback, plan, state, run, bundles⟩
  · rintro ⟨callback, plan, state, run, bundles⟩
    exact ⟨callback, plan, state, run, bundles⟩

/-- **Silence.** Invocations in a list of windows go the same way from runners that agree up to the
    log. -/
theorem invokeEach_silent (record : Record α) (ws : List Window) {r r' : Runner α β σ}
    (same : r.silent = r'.silent) :
    (invokeEach record ws r).1.silent = (invokeEach record ws r').1.silent ∧
      (invokeEach record ws r).2 = (invokeEach record ws r').2 := by
  have ends := (upToLog_iff.mpr same).invokeEach record ws
  exact ⟨upToLog_iff.mp ends.runner, ends.result⟩

end Runner

end BundleRunner
