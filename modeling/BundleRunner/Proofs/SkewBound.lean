import BundleRunner.Emission

namespace BundleRunner

/-!
# The bound of the skew

A record that is emitted for an element may lie before the element by the allowed skew, and not by
more.  The earliest timestamp allowed is the element's, moved back by the skew, and two things stop
on the way there.  An instant is never moved by more than the greatest signed 64-bit number, whatever
the span; and a moved instant stops at the infinite past.  The second stop is harmless, since nothing
lies before the infinite past.  The first one is not: from the epoch on, the longest move does not
reach the infinite past, and the instants behind it are out of reach of every skew that has a bound.

* `Skew.Allows` — what the skew says, counted in integers without bounds;
* `Skew.OutOfReach` — the instants that no element is moved back to;
* `Skew.permits_iff_allows` — both together decide;
* `Skew.exact_iff` — which skews are kept to the letter;
* `Scope.placed_iff_allowed` — the same of an emission for an element.
-/

variable {α : Type}

namespace Skew

/-- The candidate lies before the input by no more than the skew, in whole milliseconds. -/
def Allows : Skew → Instant → Instant → Prop
  | .bounded span, input, candidate => input.millis - span.millis ≤ candidate.millis
  | .unbounded, _, _ => True

/-- The skew has a bound, and the candidate lies before the input by more than an instant is ever
    moved. -/
def OutOfReach : Skew → Instant → Instant → Prop
  | .bounded _, input, candidate => candidate.millis < input.millis - Instant.max.millis
  | .unbounded, _, _ => False

instance (skew : Skew) (input candidate : Instant) : Decidable (skew.Allows input candidate) :=
  match skew with
  | .bounded span =>
    inferInstanceAs (Decidable (input.millis - span.millis ≤ candidate.millis))
  | .unbounded => inferInstanceAs (Decidable True)

instance (skew : Skew) (input candidate : Instant) : Decidable (skew.OutOfReach input candidate) :=
  match skew with
  | .bounded _ =>
    inferInstanceAs (Decidable (candidate.millis < input.millis - Instant.max.millis))
  | .unbounded => inferInstanceAs (Decidable False)

variable {skew : Skew} {input candidate : Instant}

/-- A candidate is permitted exactly when the skew allows it and it is not out of reach. -/
theorem permits_iff_allows :
    skew.permits input candidate = true ↔
      skew.Allows input candidate ∧ ¬ skew.OutOfReach input candidate := by
  cases skew with
  | bounded span =>
    have least := candidate.least_le
    rw [permits_bounded, Instant.le_def, Instant.millis_sub, Span.shift]
    simp only [Allows, OutOfReach, Instant.millis_max]
    -- of the two stops, only the one of the span is left: the candidate is no earlier than the other
    omega
  | unbounded => simp [Allows, OutOfReach]

/-- What lies out of reach is allowed only by spans that are longer than every move, and only for
    inputs from the epoch on. -/
theorem not_outOfReach_of_allows
    (short : ∀ span, skew = .bounded span →
      (span.millis : Int) ≤ Instant.max.millis ∨ input < .epoch)
    (allowed : skew.Allows input candidate) : ¬ skew.OutOfReach input candidate := by
  cases skew with
  | bounded span =>
    have least := candidate.least_le
    intro far
    simp only [Allows, OutOfReach] at allowed far
    rcases short span rfl with moves | past
    · omega
    · have before : input.millis < 0 := past
      rw [Instant.millis_max] at far
      omega
  | unbounded => exact id

/-- For an input from the epoch on, there is an instant out of reach that a longer span allows. -/
theorem exists_withheld {span : Span} (long : Instant.max.millis < span.millis)
    (later : .epoch ≤ input) :
    ∃ candidate, (bounded span).Allows input candidate ∧
      (bounded span).OutOfReach input candidate := by
  have nonneg : 0 ≤ input.millis := later
  have last := input.le_greatest
  rw [Instant.millis_max] at long
  -- the millisecond before the longest move back
  have reached : (Instant.clamp (input.millis - 9223372036854775808)).millis =
      input.millis - 9223372036854775808 := Instant.millis_clamp_of_mem (by omega) (by omega)
  refine ⟨.clamp (input.millis - 9223372036854775808), ?_, ?_⟩
  · show input.millis - span.millis ≤ _
    rw [reached]
    omega
  · show _ < input.millis - Instant.max.millis
    rw [reached, Instant.millis_max]
    omega

/-- A skew is kept to the letter unless its span is longer than every move of an instant, and the
    input lies at the epoch or after it. -/
theorem exact_iff :
    (∀ candidate, skew.permits input candidate = true ↔ skew.Allows input candidate) ↔
      ¬ ∃ span, skew = .bounded span ∧ Instant.max.millis < span.millis ∧ .epoch ≤ input := by
  constructor
  · rintro exact ⟨span, rfl, long, later⟩
    obtain ⟨candidate, allowed, far⟩ := exists_withheld long later
    exact (permits_iff_allows.mp ((exact candidate).mpr allowed)).2 far
  · intro short candidate
    rw [permits_iff_allows]
    constructor
    · exact fun ⟨allowed, _⟩ => allowed
    · intro allowed
      refine ⟨allowed, not_outOfReach_of_allows ?_ allowed⟩
      rintro span rfl
      by_cases moves : (span.millis : Int) ≤ Instant.max.millis
      · exact .inl moves
      · refine .inr (Int.not_le.mp fun later => short ⟨span, rfl, Int.not_le.mp moves, later⟩)

end Skew

namespace Scope

/-- An emission with a timestamp of its own, for an element, is placed there if the skew permits
    it. -/
theorem resolve_element_some (t candidate : Instant) (ws : WindowSet) (skew : Skew) :
    (element t ws skew : Scope α).resolve (some candidate) =
      if skew.permits t candidate then .ok ⟨candidate, ws⟩
      else .error (.skewViolation candidate t skew) := rfl

/-- **The bound of the skew.**  An emission with a timestamp of its own, for an element, keeps the
    timestamp and the windows of the element if the skew allows the timestamp and it is not out of
    reach, and is refused with all three if not.  The skew alone decides for every timestamp, unless
    it has a bound that is longer than every move of an instant, and the element lies at the epoch
    or after it. -/
theorem placed_iff_allowed (t : Instant) (ws : WindowSet) (skew : Skew) :
    (∀ candidate, (element t ws skew : Scope α).resolve (some candidate) =
      if skew.Allows t candidate ∧ ¬ skew.OutOfReach t candidate then .ok ⟨candidate, ws⟩
      else .error (.skewViolation candidate t skew)) ∧
    ((∀ candidate, (∃ place, (element t ws skew : Scope α).resolve (some candidate) = .ok place) ↔
        skew.Allows t candidate) ↔
      ¬ ∃ span, skew = .bounded span ∧ Instant.max.millis < span.millis ∧ .epoch ≤ t) := by
  constructor
  · intro candidate
    rw [resolve_element_some]
    simp only [Skew.permits_iff_allows]
  · have placed : ∀ candidate,
        (∃ place, (element t ws skew : Scope α).resolve (some candidate) = .ok place) ↔
          skew.permits t candidate = true := by
      intro candidate
      rw [resolve_element_some]
      by_cases permitted : skew.permits t candidate = true
      · simp [permitted]
      · simp [permitted]
    simp only [placed]
    exact Skew.exact_iff

/-- A skew as long as the way from the epoch back to the infinite past. -/
def longSkew : Skew := .bounded (.ofMillis 9223372036854775808)

/-- For an element at the epoch, this skew allows the infinite past, where no record is placed. -/
theorem infinite_past_withheld :
    longSkew.Allows .epoch .min ∧
      (element .epoch .global longSkew : Scope Unit).resolve (some .min) =
        .error (.skewViolation .min .epoch longSkew) :=
  ⟨by decide, rfl⟩

end Scope

end BundleRunner
