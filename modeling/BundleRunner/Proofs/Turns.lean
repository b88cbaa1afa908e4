import BundleRunner.Proofs.History

namespace BundleRunner

/-!
# One call on a bundle

A call on a bundle either passes the order check or is refused.  This file says what follows in each
case, once for all three operations:

* `Stage.landing` — a call that passes is answered with an outcome, and the outcome says where the
  bundle stands afterwards;
* `Stage.refused` — a call that does not pass is refused, and changes nothing but the log;
* `Stage.accepted_or_same` — the two together, with the calls that are not about the bundle.
-/

variable {α β σ : Type}

/-! ### Outcomes of calls -/

/-- How a call on a bundle ended, for the reply to one. -/
def Reply.outcome? : Reply → Option (Outcome Unit)
  | .moved outcome => some outcome
  | .finished outcome => some (outcome.map fun _ => ())
  | _ => none

theorem Reply.outcome?_failure (call : Call α) (fault : Fault) :
    (call.failure fault).outcome? = some (.failed fault) := by
  cases call <;> rfl

/-- Whether a call leaves open the bundle that is open, and opens no other. -/
def Call.keepsBundle : Call α → Bool
  | .openBundle => false
  | .dropBundle => false
  | _ => true

/-- The session with another callback in the place of its own. -/
def Session.withCallback (s : Session α β σ) (callback : Callback α β σ) : Session α β σ :=
  { s with runner := { s.runner with callback } }

namespace Bundle

/-- Where an operation that has begun leaves the bundle. -/
def landing (begun : Bundle) (operation : Operation) : Outcome Unit → BundlePhase
  | .done () => operation.target
  | .failed _ => .failed
  | .panicked _ => begun.phase

@[simp] theorem outcome_settle (b : Bundle) (operation : Operation) (r : Runner α β σ)
    (outcome : Outcome Unit) : (b.settle operation r outcome).outcome = outcome := by
  cases outcome <;> rfl

@[simp] theorem phase_settle (b : Bundle) (operation : Operation) (r : Runner α β σ)
    (outcome : Outcome Unit) :
    (b.settle operation r outcome).bundle.phase = b.landing operation outcome := by
  cases outcome <;> rfl

@[simp] theorem outcome_close (t : Turn α β σ Unit) :
    (close t).outcome.map (fun _ => ()) = t.outcome := by
  unfold close
  cases t.outcome <;> rfl

@[simp] theorem bundle_close (t : Turn α β σ Unit) : (close t).bundle = t.bundle := by
  unfold close
  cases t.outcome <;> rfl

@[simp] theorem phase_tally (b : Bundle) (ended : Outcome Nat) :
    (b.tally ended).phase = b.phase := by
  cases ended <;> rfl

theorem landing_congr {b b' : Bundle} (same : b.phase = b'.phase) (operation : Operation)
    (outcome : Outcome Unit) : b.landing operation outcome = b'.landing operation outcome := by
  cases outcome with
  | done u => rfl
  | failed fault => rfl
  | panicked message => exact same

/-- An operation that begins passes the order check, and leaves the bundle as it is, but for an
    element, which moves the bundle at once. -/
theorem begun_of_advance {b begun : Bundle} {operation : Operation}
    (advance : b.advance operation = some begun) :
    b.phase.allows operation.goal = true ∧
      begun = if operation = .process then { b with phase := operation.goal } else b := by
  unfold Bundle.advance at advance
  split at advance
  next edge => exact ⟨edge, (Option.some.inj advance).symm⟩
  next => exact absurd advance (by simp)

/-- The order check reads the edges of the state diagram. -/
theorem allows_of_advance {b begun : Bundle} {operation : Operation}
    (advance : b.advance operation = some begun) : b.phase.allows operation.goal = true :=
  (begun_of_advance advance).1

/-- Only the beginning of an element takes effect at once. -/
theorem phase_of_advance {b begun : Bundle} {operation : Operation}
    (advance : b.advance operation = some begun) :
    begun.phase = if operation = .process then .processingElement else b.phase := by
  obtain ⟨-, rfl⟩ := begun_of_advance advance
  by_cases h : operation = .process
  · subst h
    rfl
  · rw [if_neg h, if_neg h]

/-- The beginning of an operation other than an element leaves the bundle as it is. -/
theorem eq_of_advance {b begun : Bundle} {operation : Operation}
    (advance : b.advance operation = some begun) (other : operation ≠ .process) : begun = b :=
  (begun_of_advance advance).2.trans (if_neg other)

/-- A finish that is closed with a summary was settled as done. -/
theorem close_of_done {t : Turn α β σ Unit} {summary : Summary}
    (done : (close t).outcome = .done summary) :
    t.outcome = .done () ∧ close t = t.bundle.conclude t.runner ∧
      summary = t.bundle.summary t.runner.run.router.takeCounts.1 := by
  unfold close at done ⊢
  cases ended : t.outcome with
  | done u =>
    rw [ended] at done
    exact ⟨rfl, rfl, (Outcome.done.inj done).symm⟩
  | failed fault =>
    rw [ended] at done
    exact absurd done (by simp)
  | panicked message =>
    rw [ended] at done
    exact absurd done (by simp)

/-- A finish that is closed without a summary was settled as something else than done. -/
theorem runner_close_of_not_done {t : Turn α β σ Unit}
    (undone : ∀ summary, (close t).outcome ≠ .done summary) : (close t).runner = t.runner := by
  unfold close at undone ⊢
  cases ended : t.outcome with
  | done u =>
    rw [ended] at undone
    exact absurd rfl (undone _)
  | failed fault => rfl
  | panicked message => rfl

/-- To settle an operation leaves the counts of the bundle alone. -/
@[simp] theorem summary_settle (b : Bundle) (operation : Operation) (r : Runner α β σ)
    (outcome : Outcome Unit) (counts : Nat × Nat) :
    (b.settle operation r outcome).bundle.summary counts = b.summary counts := by
  cases outcome <;> rfl

end Bundle

/-! ### One call -/

namespace Stage

/-- The operation of a call that passes the order check. -/
def accepted? (st : Stage α β σ) : Option Operation := st.begun?.bind fun _ => st.call.operation?

/-- **Landing.** A call that passes the order check is answered with an outcome, and the outcome
    says where the bundle stands afterwards. -/
theorem landing (st : Stage α β σ) {b begun : Bundle} {operation : Operation}
    (opened : st.before.bundle = some b) (performs : st.call.operation? = some operation)
    (advance : b.advance operation = some begun) :
    ∃ outcome, st.reply.outcome? = some outcome ∧
      st.after.phase? = some (begun.landing operation outcome) := by
  obtain ⟨⟨r, bundle⟩, call⟩ := st
  obtain rfl : bundle = some b := opened
  unfold reply after
  -- the three operations settle their bundle alike
  cases call with
  | start =>
    obtain rfl : .start = operation := Option.some.inj performs
    simp [Session.perform, Session.ofTurn, Session.phase?, Reply.outcome?, Bundle.start, advance,
      Bundle.leave]
  | process record =>
    obtain rfl : .process = operation := Option.some.inj performs
    simp only [Session.perform, Session.ofTurn, Session.phase?, Reply.outcome?, Bundle.process,
      advance, Bundle.leave, Bundle.outcome_settle, Option.map_some, Bundle.phase_settle]
    exact ⟨_, rfl, congrArg some (Bundle.landing_congr (Bundle.phase_tally _ _) _ _)⟩
  | finish =>
    obtain rfl : .finish = operation := Option.some.inj performs
    simp [Session.perform, Session.ofTurn, Session.phase?, Reply.outcome?, Bundle.finish, advance,
      Bundle.leave]
  | _ => exact absurd performs (by simp [Call.operation?])

/-- A call on the bundle `b` is refused: it says so, with the operation and the phase; no callback
    is entered, so that the call would have gone the same way with any other callback; and the
    session stays as it is, but for a warning in the log. -/
structure Refused (st : Stage α β σ) (b : Bundle) (operation : Operation) : Prop where
  reply : st.reply.outcome? =
    some (.failed (.lifecycleViolation operation.text b.phase.text))
  visits : st.visits = []
  callback : ∀ callback, (st.before.withCallback callback).perform st.call =
    (st.after.withCallback callback, st.reply)
  after : st.after = { st.before with
    runner := st.before.runner.mapRun (·.tell (.violation b.id operation b.phase)) }

/-- A call that does not pass the order check is refused. -/
theorem refused (st : Stage α β σ) {b : Bundle} {operation : Operation}
    (opened : st.before.bundle = some b) (performs : st.call.operation? = some operation)
    (advance : b.advance operation = none) : st.Refused b operation := by
  have begun : st.begun? = none := by simp [begun?, opened, performs, advance]
  obtain ⟨⟨r, bundle⟩, call⟩ := st
  obtain rfl : bundle = some b := opened
  have turned := Session.perform_of_refused performs advance r
  refine ⟨?_, visits_of_refused begun, ?_, ?_⟩
  · unfold reply
    rw [turned]
    exact Reply.outcome?_failure call _
  · intro callback
    -- the refusal of a call does not look at the callback
    have other := Session.perform_of_refused performs advance { r with callback }
    unfold after reply
    rw [turned]
    exact other
  · unfold after
    rw [turned]

/-- A refused call leaves the bundle as it is. -/
theorem Refused.bundle_after {st : Stage α β σ} {b : Bundle} {operation : Operation}
    (h : st.Refused b operation) : st.after.bundle = st.before.bundle := by
  rw [h.after]

/-- A call that is refused did not pass the order check, even though a callback can fail with the
    same fault: what fails leaves the phase that it began in. -/
theorem Refused.advance {st : Stage α β σ} {b : Bundle} {operation : Operation}
    (h : st.Refused b operation) (opened : st.before.bundle = some b)
    (performs : st.call.operation? = some operation) : b.advance operation = none := by
  cases advance : b.advance operation with
  | none => rfl
  | some begun =>
    obtain ⟨outcome, replied, lands⟩ := st.landing opened performs advance
    obtain rfl := Option.some.inj (replied.symm.trans h.reply)
    -- a call that began and failed leaves its bundle failed, and from there nothing begins
    have phase : b.phase = .failed := by
      rw [Session.phase?, h.bundle_after, opened] at lands
      exact Option.some.inj lands
    have edge := Bundle.allows_of_advance advance
    rw [phase] at edge
    exact absurd edge (by cases operation <;> decide)

/-- A call that is not about the bundle leaves it as it is. -/
theorem bundle_after_of_idle {st : Stage α β σ} (idle : st.call.operation? = none)
    (keeps : st.call.keepsBundle = true) : st.after.bundle = st.before.bundle := by
  obtain ⟨⟨r, bundle⟩, call⟩ := st
  cases call with
  | openBundle => exact absurd keeps (by simp [Call.keepsBundle])
  | dropBundle => exact absurd keeps (by simp [Call.keepsBundle])
  | start => exact absurd idle (by simp [Call.operation?])
  | process record => exact absurd idle (by simp [Call.operation?])
  | finish => exact absurd idle (by simp [Call.operation?])
  | _ => rfl

/-- A call that is not about the bundle is answered with something else than an outcome. -/
theorem outcome?_of_idle {st : Stage α β σ} (idle : st.call.operation? = none) :
    st.reply.outcome? = none := by
  obtain ⟨s, call⟩ := st
  cases call with
  | start => exact absurd idle (by simp [Call.operation?])
  | process record => exact absurd idle (by simp [Call.operation?])
  | finish => exact absurd idle (by simp [Call.operation?])
  | _ => rfl

/-- What a call can do to the bundle that is open: it passes the order check, and lands where its
    outcome says, or it leaves the bundle as it is. -/
theorem accepted_or_same (st : Stage α β σ) {b : Bundle} (opened : st.before.bundle = some b)
    (keeps : st.call.keepsBundle = true) :
    (∃ operation begun outcome, st.accepted? = some operation ∧ st.begun? = some begun ∧
      b.advance operation = some begun ∧ st.reply.outcome? = some outcome ∧
      st.after.phase? = some (begun.landing operation outcome)) ∨
    (st.accepted? = none ∧ st.begun? = none ∧ st.after.bundle = some b) := by
  -- the call is not about the bundle, or refused, or accepted
  cases performs : st.call.operation? with
  | none =>
    have begun : st.begun? = none := by simp [begun?, performs]
    refine Or.inr ⟨by simp [accepted?, begun], begun, ?_⟩
    rw [bundle_after_of_idle performs keeps, opened]
  | some operation =>
    cases advance : b.advance operation with
    | none =>
      have begun : st.begun? = none := by simp [begun?, opened, performs, advance]
      refine Or.inr ⟨by simp [accepted?, begun], begun, ?_⟩
      rw [(st.refused opened performs advance).bundle_after, opened]
    | some begun =>
      have begins : st.begun? = some begun := by simp [begun?, opened, performs, advance]
      obtain ⟨outcome, replied, lands⟩ := st.landing opened performs advance
      exact Or.inl ⟨operation, begun, outcome, by simp [accepted?, begins, performs], begins,
        advance, replied, lands⟩

end Stage

end BundleRunner
