import Mathlib.Data.List.Chain
import BundleRunner.Proofs.Calm

namespace BundleRunner

/-!
# The life of a bundle

A scheduler may make the calls on a bundle in any order.  This file proves what the order check
makes of them:

* `BundlePhase.Moves` — what a call that passes does to the phase, as long as nothing panics;
* `Session.accepted_prefix` — hence the calls that pass are a start, any number of records, and a
  finish, as far as they go;
* `Session.isChain_trail` — and all phases are linked by edges of the state diagram;
* `lifecycle_in_order` — the life of a bundle, with what becomes of the other calls.

The order check reads one table of edges, and the phase that an operation leaves behind is written
without a look at the table.  The two fit because a bundle never stands at `processingElement`
between calls, unless a callback panicked.
-/

variable {α β σ : Type}

/-! ### From call to call -/

/-- What an operation that passes the order check does to the phase between calls, when the callback
    does not panic: it is done, or it fails. -/
inductive BundlePhase.Moves : BundlePhase → Operation → BundlePhase → Prop where
  | start : Moves .notStarted .start .inBundle
  | process : Moves .inBundle .process .inBundle
  | finish : Moves .inBundle .finish .finished
  | fail {p q : BundlePhase} {operation : Operation} (moves : Moves p operation q) :
    Moves p operation .failed

namespace BundlePhase

/-- An operation that passes the order check moves the phase to the one that the operation leaves
    behind.  This fails at `processingElement`, which lets a start pass. -/
theorem Moves.of_allows {p : BundlePhase} {operation : Operation}
    (edge : p.allows operation.goal = true) (rests : p ≠ .processingElement) :
    p.Moves operation operation.target := by
  cases p with
  | notStarted =>
    cases operation with
    | start => exact .start
    | process => exact absurd edge (by decide)
    | finish => exact absurd edge (by decide)
  | inBundle =>
    cases operation with
    | start => exact absurd edge (by decide)
    | process => exact .process
    | finish => exact .finish
  | processingElement => exact absurd rfl rests
  | finished => exact absurd edge (by cases operation <;> decide)
  | failed => exact absurd edge (by cases operation <;> decide)

theorem Moves.rests {p q : BundlePhase} {operation : Operation} (moves : p.Moves operation q) :
    q ≠ .processingElement := by
  cases moves <;> decide

end BundlePhase

/-- The operations of a bundle in order, with `n` records. -/
def Operation.script (n : Nat) : List Operation :=
  .start :: (List.replicate n .process ++ [.finish])

/-- What is left of the operations of a bundle in a phase, with `n` records still to come. -/
def BundlePhase.left (n : Nat) : BundlePhase → List Operation
  | notStarted => Operation.script n
  | inBundle => List.replicate n .process ++ [.finish]
  | _ => []

/-- An operation that moves the phase comes next in what is left. -/
theorem BundlePhase.Moves.prefix_left {p q : BundlePhase} {operation : Operation}
    (moves : p.Moves operation q) {operations : List Operation} {n : Nat}
    (h : operations <+: q.left n) : ∃ m, operation :: operations <+: p.left m := by
  induction moves generalizing operations n with
  | start => exact ⟨n, List.cons_prefix_cons.mpr ⟨rfl, h⟩⟩
  | process => exact ⟨n + 1, List.cons_prefix_cons.mpr ⟨rfl, h⟩⟩
  | finish =>
    obtain rfl := List.prefix_nil.mp h
    exact ⟨0, List.prefix_refl _⟩
  | fail moves ih =>
    -- nothing passes after a failure, wherever the operation would have moved the phase
    obtain rfl := List.prefix_nil.mp h
    exact ih (n := 0) List.nil_prefix

/-- A bundle is open, and does not stand at `processingElement`. -/
def Session.Rests (s : Session α β σ) : Prop :=
  ∃ b, s.bundle = some b ∧ b.phase ≠ .processingElement

/-- What a call that does not panic can do to the phase of an open bundle. -/
theorem Stage.moves_or_same (st : Stage α β σ) {b : Bundle} (opened : st.before.bundle = some b)
    (rests : b.phase ≠ .processingElement) (keeps : st.call.keepsBundle = true) (calm : st.Calm) :
    (∃ operation q, st.accepted? = some operation ∧ b.phase.Moves operation q ∧
      st.after.phase? = some q) ∨
    (st.accepted? = none ∧ st.after.bundle = some b) := by
  rcases st.accepted_or_same opened keeps with
    ⟨operation, begun, outcome, accepted, -, advance, replied, lands⟩ | ⟨accepted, -, same⟩
  · have moves := BundlePhase.Moves.of_allows (Bundle.allows_of_advance advance) rests
    refine Or.inl ⟨operation, begun.landing operation outcome, accepted, ?_, lands⟩
    cases outcome with
    | done u => exact moves
    | failed fault => exact moves.fail
    | panicked message => exact absurd rfl (calm _ replied message)
  · exact Or.inr ⟨accepted, same⟩

/-- A call that does not panic keeps the bundle away from `processingElement`. -/
theorem Stage.rests_after {st : Stage α β σ} (keeps : st.call.keepsBundle = true)
    (calm : st.Calm) (rests : st.before.Rests) : st.after.Rests := by
  obtain ⟨b, opened, phase⟩ := rests
  rcases st.moves_or_same opened phase keeps calm with ⟨operation, q, -, moves, lands⟩ | ⟨-, same⟩
  · obtain ⟨b', opened', rfl⟩ := Option.map_eq_some_iff.mp lands
    exact ⟨b', opened', moves.rests⟩
  · exact ⟨b, same, phase⟩

/-! ### Whole runs -/

/-- The phases that a call takes the open bundle through: the one in which the callback runs, if the
    call passes the order check, and the one after the call. -/
def Stage.phases (st : Stage α β σ) : List BundlePhase :=
  (st.begun?.map Bundle.phase).toList ++ st.after.phase?.toList

namespace Session

/-- The operations that pass the order check, in order. -/
def accepted (s : Session α β σ) (calls : List (Call α)) : List Operation :=
  (s.stages calls).filterMap Stage.accepted?

/-- Where nothing panics, what passes the order check is the beginning of what was left. -/
theorem accepted_prefix {s : Session α β σ} {b : Bundle} {calls : List (Call α)}
    (opened : s.bundle = some b) (rests : b.phase ≠ .processingElement)
    (keeps : ∀ call ∈ calls, call.keepsBundle = true)
    (calm : ∀ st ∈ s.stages calls, st.Calm) : ∃ n, s.accepted calls <+: b.phase.left n := by
  -- over the calls, from any phase but one: a call that passes leads to a phase with less left
  induction calls generalizing s b with
  | nil => exact ⟨0, List.nil_prefix⟩
  | cons call calls ih =>
    let st : Stage α β σ := ⟨s, call⟩
    have keepsFirst : st.call.keepsBundle = true := keeps call (List.mem_cons_self ..)
    have calmFirst : st.Calm := calm st (List.mem_cons_self ..)
    have keepsRest : ∀ call ∈ calls, call.keepsBundle = true :=
      fun call h => keeps call (List.mem_cons_of_mem _ h)
    have calmRest : ∀ later ∈ st.after.stages calls, later.Calm :=
      fun later h => calm later (List.mem_cons_of_mem _ h)
    rcases st.moves_or_same opened rests keepsFirst calmFirst with
      ⟨operation, q, accepted, moves, lands⟩ | ⟨accepted, same⟩
    · obtain ⟨b', opened', rfl⟩ := Option.map_eq_some_iff.mp lands
      obtain ⟨n, rest⟩ := ih opened' moves.rests keepsRest calmRest
      obtain ⟨m, whole⟩ := moves.prefix_left rest
      refine ⟨m, ?_⟩
      show (st :: st.after.stages calls).filterMap Stage.accepted? <+: _
      rw [List.filterMap_cons_some accepted]
      exact whole
    · obtain ⟨n, rest⟩ := ih same rests keepsRest calmRest
      refine ⟨n, ?_⟩
      show (st :: st.after.stages calls).filterMap Stage.accepted? <+: _
      rw [List.filterMap_cons_none accepted]
      exact rest

/-- A final phase stays. -/
theorem phase?_performAll_of_final {s : Session α β σ} {p : BundlePhase} {calls : List (Call α)}
    (phase : s.phase? = some p) (final : p.isFinal = true)
    (keeps : ∀ call ∈ calls, call.keepsBundle = true) :
    (s.performAll calls).1.phase? = some p := by
  induction calls generalizing s with
  | nil => exact phase
  | cons call calls ih =>
    obtain ⟨b, opened, rfl⟩ := Option.map_eq_some_iff.mp phase
    refine ih ?_ fun call h => keeps call (List.mem_cons_of_mem _ h)
    rcases Stage.accepted_or_same ⟨s, call⟩ opened (keeps call (List.mem_cons_self ..)) with
      ⟨operation, begun, -, -, -, advance, -⟩ | ⟨-, -, same⟩
    · -- no edge leaves a final phase
      have edge := Bundle.allows_of_advance advance
      rw [BundlePhase.isFinal_iff.mp final operation.goal] at edge
      exact absurd edge (by decide)
    · exact congrArg (Option.map Bundle.phase) same

/-- The phases that the open bundle goes through, beginning with the one that it is in. -/
def trail (s : Session α β σ) (calls : List (Call α)) : List BundlePhase :=
  s.phase?.toList ++ (s.stages calls).flatMap Stage.phases

end Session

/-- From one phase to the next along an edge of the state diagram, or not at all. -/
def BundlePhase.Follows (p q : BundlePhase) : Prop := p = q ∨ p.allows q = true

namespace Bundle

/-- The beginning of an operation follows an edge. -/
theorem follows_of_advance {b begun : Bundle} {operation : Operation}
    (advance : b.advance operation = some begun) : b.phase.Follows begun.phase := by
  have edge := allows_of_advance advance
  rw [phase_of_advance advance]
  by_cases h : operation = .process
  · subst h
    exact Or.inr edge
  · rw [if_neg h]
    exact Or.inl rfl

/-- The end of an operation that has begun follows an edge. -/
theorem follows_landing {b begun : Bundle} {operation : Operation}
    (advance : b.advance operation = some begun) (outcome : Outcome Unit) :
    begun.phase.Follows (begun.landing operation outcome) := by
  have edge := allows_of_advance advance
  cases outcome with
  | panicked message => exact Or.inl rfl
  | done u =>
    rw [BundlePhase.Follows, phase_of_advance advance]
    cases operation with
    | start => exact Or.inr edge
    | process => exact Or.inr rfl
    | finish => exact Or.inr edge
  | failed fault =>
    rw [BundlePhase.Follows, phase_of_advance advance]
    -- every phase in which an operation has begun may fail
    cases phase : b.phase with
    | notStarted => cases operation <;> exact Or.inr rfl
    | inBundle => cases operation <;> exact Or.inr rfl
    | processingElement => cases operation <;> exact Or.inr rfl
    | finished => exact absurd edge (by rw [phase]; cases operation <;> decide)
    | failed => exact absurd edge (by rw [phase]; cases operation <;> decide)

end Bundle

/-- The phases that an open bundle goes through are linked by edges of the state diagram. -/
theorem Session.isChain_trail {s : Session α β σ} {b : Bundle} {calls : List (Call α)}
    (opened : s.bundle = some b) (keeps : ∀ call ∈ calls, call.keepsBundle = true) :
    (s.trail calls).IsChain BundlePhase.Follows := by
  induction calls generalizing s b with
  | nil => simp [trail, phase?, opened]
  | cons call calls ih =>
    let st : Stage α β σ := ⟨s, call⟩
    have keepsRest : ∀ call ∈ calls, call.keepsBundle = true :=
      fun call h => keeps call (List.mem_cons_of_mem _ h)
    have first : s.phase? = some b.phase := congrArg (Option.map Bundle.phase) opened
    -- the trail of the later calls begins with the phase after this one
    have split : s.trail (call :: calls) =
        b.phase :: (st.begun?.map Bundle.phase).toList ++ st.after.trail calls := by
      unfold trail
      rw [stages_cons, List.flatMap_cons, first]
      simp only [Stage.phases, Option.toList_some, List.append_assoc, List.cons_append]
      rfl
    rw [split]
    rcases st.accepted_or_same opened (keeps call (List.mem_cons_self ..)) with
      ⟨operation, begun, outcome, -, begins, advance, -, lands⟩ | ⟨-, begins, same⟩
    · obtain ⟨b', opened', phase⟩ := Option.map_eq_some_iff.mp lands
      have rest := ih opened' keepsRest
      have after : st.after.phase? = some b'.phase := congrArg (Option.map Bundle.phase) opened'
      unfold trail at rest ⊢
      rw [after, Option.toList_some, List.singleton_append] at rest ⊢
      rw [begins, Option.map_some, Option.toList_some, List.cons_append, List.singleton_append]
      refine List.isChain_cons_cons.mpr ⟨Bundle.follows_of_advance advance, ?_⟩
      refine List.isChain_cons_cons.mpr ⟨?_, rest⟩
      rw [phase]
      exact Bundle.follows_landing advance outcome
    · have rest := ih same keepsRest
      have after : st.after.phase? = some b.phase := congrArg (Option.map Bundle.phase) same
      unfold trail at rest ⊢
      rw [after, Option.toList_some, List.singleton_append] at rest ⊢
      rw [begins, Option.map_none, Option.toList_none, List.singleton_append]
      exact List.isChain_cons_cons.mpr ⟨Or.inl rfl, rest⟩

/-! ### The life of a bundle -/

/-- **The life of a bundle.** Calls are made on a new bundle in any order, and no callback panics
    (`Session.calm_of_callback`).  Then the calls that pass the order check are a start, any number
    of records, and a finish, as far as they go.  One that passes and fails takes the bundle to
    `failed`, and a bundle that is finished or failed stays so.  All phases follow the edges of the
    state diagram, and between calls the bundle never stands at `processingElement`.  A call that
    does not pass is refused. -/
theorem lifecycle_in_order (s : Session α β σ) (id : Nat) (opened : s.bundle = some (.fresh id))
    (calls : List (Call α)) (keeps : ∀ call ∈ calls, call.keepsBundle = true)
    (calm : ∀ st ∈ s.stages calls, st.Calm) :
    (∃ n, s.accepted calls <+: Operation.script n) ∧
    (∀ st ∈ s.stages calls, ∀ operation, st.accepted? = some operation →
      ∀ fault, st.reply.outcome? = some (.failed fault) → st.after.phase? = some .failed) ∧
    (∀ earlier later, calls = earlier ++ later →
      ∀ p, (s.performAll earlier).1.phase? = some p → p.isFinal = true →
        (s.performAll calls).1.phase? = some p) ∧
    (s.trail calls).IsChain BundlePhase.Follows ∧
    (∀ st ∈ s.stages calls, st.before.phase? ≠ some .processingElement ∧
      st.after.phase? ≠ some .processingElement) ∧
    (∀ st ∈ s.stages calls, ∀ operation, st.call.operation? = some operation →
      st.accepted? = none → ∃ b, st.before.bundle = some b ∧ st.Refused b operation) := by
  have keepsAt : ∀ st ∈ s.stages calls, st.call.keepsBundle = true :=
    fun st hst => keeps st.call (Session.call_mem_of_mem_stages hst)
  -- the invariant of the run, which every call that does not panic keeps
  have rests : ∀ st ∈ s.stages calls, st.before.Rests ∧ st.after.Rests :=
    Session.stages_invariant Session.Rests
      (fun st hst => Stage.rests_after (keepsAt st hst) (calm st hst))
      ⟨.fresh id, opened, by simp [Bundle.fresh]⟩
  have away : ∀ s' : Session α β σ, s'.Rests → s'.phase? ≠ some .processingElement := by
    rintro s' ⟨b, opened', phase⟩ h
    rw [Session.phase?, opened', Option.map_some, Option.some.injEq] at h
    exact phase h
  refine ⟨?_, ?_, ?_, ?_, ?_, ?_⟩
  · exact Session.accepted_prefix opened (by simp [Bundle.fresh]) keeps calm
  · intro st hst operation accepted fault failed
    obtain ⟨b, opened', -⟩ := (rests st hst).1
    rcases st.accepted_or_same opened' (keepsAt st hst) with
      ⟨_, begun, outcome, -, -, -, replied, lands⟩ | ⟨refused, -, -⟩
    · -- the outcome of the call is the one that it lands by
      obtain rfl : outcome = .failed fault := Option.some.inj (replied.symm.trans failed)
      exact lands
    · rw [refused] at accepted
      exact absurd accepted (by simp)
  · intro earlier later split p phase final
    subst split
    rw [Session.performAll_append]
    exact Session.phase?_performAll_of_final phase final
      fun call h => keeps call (List.mem_append_right _ h)
  · exact Session.isChain_trail opened keeps
  · intro st hst
    exact ⟨away _ (rests st hst).1, away _ (rests st hst).2⟩
  · intro st hst operation performs refused
    obtain ⟨b, opened', -⟩ := (rests st hst).1
    refine ⟨b, opened', ?_⟩
    cases advance : b.advance operation with
    | none => exact st.refused opened' performs advance
    | some begun =>
      have accepted : st.accepted? = some operation := by
        simp [Stage.accepted?, Stage.begun?, opened', performs, advance]
      rw [accepted] at refused
      exact absurd refused (by simp)

/-! ### An interrupted bundle

A record is processed while the signal is raised, which fails the bundle.
-/

namespace Interrupted

/-- A record at the epoch, in the whole of time. -/
def record : Record Nat := ⟨1, .epoch, .single .global⟩

/-- A bundle that is interrupted, and called out of order before its start and after its failure. -/
def calls : List (Call Nat) :=
  [.finish, .start, .raise "stop", .process record, .clear, .process record, .start, .finish]

end Interrupted

/-- Only the start and the first record of the interrupted bundle pass the order check. -/
theorem lifecycle_in_order_interrupted :
    ∃ r, (Runner.build .echo () (.ofMain .collecting) .default).outcome = .done r ∧
      ∃ s, s = ((Session.ofRunner r).perform .openBundle).1 ∧
        s.accepted Interrupted.calls = [.start, .process] ∧
        (∃ n, s.accepted Interrupted.calls <+: Operation.script n) ∧
        (s.performAll Interrupted.calls).1.phase? = some .failed := by
  refine ⟨_, rfl, _, rfl, rfl, ?_, rfl⟩
  exact (lifecycle_in_order _ 1 rfl Interrupted.calls (by decide)
    (Session.calm_of_callback Callback.calm_echo)).1

end BundleRunner
