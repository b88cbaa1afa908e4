import BundleRunner.Proofs.Arrivals
import BundleRunner.Proofs.Turns

namespace BundleRunner

/-!
# After a panic

When the callback panics on a record, nothing settles the call, and the bundle stays at
`processingElement`.  Calls after that are meant to be out of order.  Records and the finish are.
A start is not: the edge from `processingElement` to `inBundle`, which is there for the end of an
element, lets it pass.

* `Session.standsAt_of_panicked` — where a panic leaves the bundle;
* `refused_after_panic_iff` — the later calls on the bundle are all refused exactly when none of
  them is a start.
-/

variable {α β σ : Type}

namespace Session

/-- The open bundle is in a phase. -/
def StandsAt (s : Session α β σ) (p : BundlePhase) : Prop := ∃ b, s.bundle = some b ∧ b.phase = p

/-- Each of the calls has a stage. -/
theorem exists_stage_of_mem {s : Session α β σ} {calls : List (Call α)} {call : Call α}
    (h : call ∈ calls) : ∃ st ∈ s.stages calls, st.call = call := by
  induction calls generalizing s with
  | nil => exact absurd h (by simp)
  | cons first calls ih =>
    rcases List.mem_cons.mp h with rfl | later
    · exact ⟨⟨s, call⟩, List.mem_cons_self .., rfl⟩
    · obtain ⟨st, hst, same⟩ := ih (s := (s.perform first).1) later
      exact ⟨st, List.mem_cons_of_mem _ hst, same⟩

/-- A panic on a record leaves the bundle at `processingElement`. -/
theorem standsAt_of_panicked {s : Session α β σ} {record : Record α} {message : String}
    (panicked : (s.perform (.process record)).2 = .moved (.panicked message)) :
    (s.perform (.process record)).1.StandsAt .processingElement := by
  let st : Stage α β σ := ⟨s, .process record⟩
  have replied : st.reply.outcome? = some (.panicked message) := congrArg Reply.outcome? panicked
  cases opened : s.bundle with
  | none =>
    have silent : st.reply = .nothing := by simp [st, Stage.reply, perform, opened]
    rw [silent] at replied
    exact absurd replied (by simp [Reply.outcome?])
  | some b =>
    cases advance : b.advance .process with
    | none =>
      rw [(st.refused opened rfl advance).reply] at replied
      exact absurd replied (by simp)
    | some begun =>
      obtain ⟨outcome, replied', lands⟩ := st.landing opened rfl advance
      obtain rfl := Option.some.inj (replied'.symm.trans replied)
      obtain ⟨b', opened', phase⟩ := Option.map_eq_some_iff.mp lands
      refine ⟨b', opened', ?_⟩
      rw [phase, Bundle.landing, Bundle.phase_of_advance advance, if_pos rfl]

end Session

namespace Bundle

/-- At `processingElement` the order check lets a start pass, and nothing else. -/
theorem advance_eq_none_iff_of_processing {b : Bundle} (stuck : b.phase = .processingElement)
    (operation : Operation) : b.advance operation = none ↔ operation ≠ .start := by
  unfold advance
  rw [stuck]
  cases operation <;> simp [BundlePhase.allows, Operation.goal]

end Bundle

/-- A call that is refused, if it is about the bundle at all. -/
def Stage.Rejected (st : Stage α β σ) : Prop :=
  ∀ operation, st.call.operation? = some operation →
    ∃ b, st.before.bundle = some b ∧ st.Refused b operation

/-- A rejected call leaves the bundle as it is. -/
theorem Stage.Rejected.bundle_after {st : Stage α β σ} (h : st.Rejected)
    (keeps : st.call.keepsBundle = true) : st.after.bundle = st.before.bundle := by
  cases performs : st.call.operation? with
  | none => exact bundle_after_of_idle performs keeps
  | some operation =>
    obtain ⟨b, -, refused⟩ := h operation performs
    exact refused.bundle_after

/-- At `processingElement` a call is rejected exactly when it is not a start. -/
theorem Stage.rejected_iff_of_standsAt {st : Stage α β σ}
    (stuck : st.before.StandsAt .processingElement) : st.Rejected ↔ st.call ≠ .start := by
  obtain ⟨b, opened, phase⟩ := stuck
  constructor
  · intro h start
    obtain ⟨b', opened', refused⟩ := h .start (by rw [start]; rfl)
    have none := refused.advance opened' (by rw [start]; rfl)
    obtain rfl : b = b' := Option.some.inj (opened.symm.trans opened')
    exact (Bundle.advance_eq_none_iff_of_processing phase .start).mp none rfl
  · intro h operation performs
    refine ⟨b, opened, st.refused opened performs ?_⟩
    rw [Bundle.advance_eq_none_iff_of_processing phase]
    rintro rfl
    -- only a start performs the operation of that name
    cases call : st.call with
    | start => exact h call
    | _ =>
      rw [call] at performs
      exact absurd performs (by simp [Call.operation?])

/-- A bundle stays in a phase as long as the calls that it meets in this phase are rejected. -/
theorem Session.standsAt_of_rejected {s : Session α β σ} {p : BundlePhase} {calls : List (Call α)}
    (stands : s.StandsAt p) (keeps : ∀ call ∈ calls, call.keepsBundle = true)
    (rejected : ∀ st ∈ s.stages calls, st.before.StandsAt p → st.Rejected) :
    ∀ st ∈ s.stages calls, st.before.StandsAt p := by
  have stays : ∀ st ∈ s.stages calls, st.before.StandsAt p → st.after.StandsAt p := by
    intro st hst before
    have same := (rejected st hst before).bundle_after (keeps st.call (call_mem_of_mem_stages hst))
    obtain ⟨b, opened, phase⟩ := before
    exact ⟨b, same.trans opened, phase⟩
  intro st hst
  exact (stages_invariant (·.StandsAt p) stays stands st hst).1

/-- **After a panic.** When the callback has panicked on a record, all later calls on the bundle are
    refused exactly when none of them is a start. -/
theorem refused_after_panic_iff (s : Session α β σ) (record : Record α) (message : String)
    (panicked : (s.perform (.process record)).2 = .moved (.panicked message))
    (calls : List (Call α)) (keeps : ∀ call ∈ calls, call.keepsBundle = true) :
    (∀ st ∈ (s.perform (.process record)).1.stages calls, st.Rejected) ↔ .start ∉ calls := by
  have stuck := Session.standsAt_of_panicked panicked
  generalize (s.perform (.process record)).1 = s' at stuck ⊢
  constructor
  · intro rejected start
    have stands := Session.standsAt_of_rejected stuck keeps fun st hst _ => rejected st hst
    obtain ⟨st, hst, call⟩ := Session.exists_stage_of_mem (s := s') start
    -- the start finds the bundle where the panic left it, and passes
    exact (Stage.rejected_iff_of_standsAt (stands st hst)).mp (rejected st hst) call
  · intro noStart
    have other : ∀ st ∈ s'.stages calls, st.call ≠ .start := by
      intro st hst call
      exact noStart (call ▸ Session.call_mem_of_mem_stages hst)
    have rejected : ∀ st ∈ s'.stages calls,
        st.before.StandsAt .processingElement → st.Rejected := by
      intro st hst stands
      exact (Stage.rejected_iff_of_standsAt stands).mpr (other st hst)
    intro st hst
    exact rejected st hst (Session.standsAt_of_rejected stuck keeps rejected st hst)

/-! ### A bundle that starts again

The callback panics on zero and emits every other element.
-/

namespace Restarted

/-- Panics on zero, and emits what is not zero. -/
def callback : Callback Nat Nat Unit :=
  .ofProcess fun view state =>
    if view.element = 0 then .stop state (.panicked "zero")
    else .ask (.output (.emit view.element none)) fun result => .stop state (.ofExcept result)

/-- A record at the epoch, in the whole of time. -/
def record (value : Nat) : Record Nat := ⟨value, .epoch, .single .global⟩

/-- A bundle that is started. -/
def begun : List (Call Nat) := [.openBundle, .start]

end Restarted

/-- After a panic on zero, a record and a finish are refused, in whatever order. -/
theorem refused_after_panic_restarted :
    ∃ r, (Runner.build Restarted.callback () (.ofMain .collecting) .default).outcome = .done r ∧
      ∃ s, s = ((Session.ofRunner r).performAll Restarted.begun).1 ∧
        (s.perform (.process (Restarted.record 0))).2 = .moved (.panicked "zero") ∧
        ∀ st ∈ (s.perform (.process (Restarted.record 0))).1.stages
          [.finish, .process (Restarted.record 1), .finish], st.Rejected := by
  refine ⟨_, rfl, _, rfl, rfl, ?_⟩
  exact (refused_after_panic_iff _ (Restarted.record 0) "zero" rfl _ (by decide)).mpr (by simp)

/-- But the panicked bundle can be started again: the start is not rejected, and the next record is
    processed and delivered. -/
theorem delivered_after_panic :
    ∃ r, (Runner.build Restarted.callback () (.ofMain .collecting) .default).outcome = .done r ∧
      ∃ s, s = ((Session.ofRunner r).performAll Restarted.begun).1 ∧
        (s.perform (.process (Restarted.record 0))).2 = .moved (.panicked "zero") ∧
        ∃ later, later = (s.perform (.process (Restarted.record 0))).1 ∧
          (¬ ∀ st ∈ later.stages [.start, .process (Restarted.record 1)], st.Rejected) ∧
          (later.performAll [.start, .process (Restarted.record 1)]).2 =
            [.moved (.done ()), .moved (.done ())] ∧
          (later.performAll [.start, .process (Restarted.record 1)]).1.runner.run.router.reached
            .main = [(Restarted.record 1).map .inl] := by
  refine ⟨_, rfl, _, rfl, rfl, _, rfl, ?_, rfl, rfl⟩
  intro rejected
  obtain ⟨b, -, refused⟩ := rejected _ (List.mem_cons_self ..) .start rfl
  -- the start was done, and a refusal would have failed
  have replied : some (Outcome.done ()) = some (.failed (.lifecycleViolation _ _)) := refused.reply
  exact absurd replied (by simp)

end BundleRunner
