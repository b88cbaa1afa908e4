import BundleRunner.Time.Span

namespace BundleRunner

/-!
# Strides

The length and the period of windows are whole milliseconds, at least one and no more than the
signed 64-bit range holds.
-/

/-- A positive number of milliseconds in the signed 64-bit range. -/
@[ext] structure Stride where
  millis : Int
  pos : 0 < millis
  le_greatest : millis ≤ 9223372036854775807

namespace Stride

/-- The whole milliseconds of a span, when they are a stride. -/
def ofSpan? (d : Span) : Option Stride :=
  if h : 0 < (d.millis : Int) ∧ (d.millis : Int) ≤ 9223372036854775807 then
    some ⟨d.millis, h.1, h.2⟩
  else none

theorem ofSpan?_eq_some_iff {d : Span} {s : Stride} : ofSpan? d = some s ↔ s.millis = d.millis := by
  constructor
  · intro h
    simp only [ofSpan?] at h
    split at h
    · exact (Option.some.inj h) ▸ rfl
    · exact absurd h (by simp)
  · intro h
    have hpos := s.pos
    have hle := s.le_greatest
    have hd : 0 < (d.millis : Int) ∧ (d.millis : Int) ≤ 9223372036854775807 := by omega
    simp only [ofSpan?, hd, and_self, ↓reduceDIte, Option.some.injEq]
    exact Stride.ext h.symm

/-- A span is refused exactly when it is shorter than a millisecond or out of range. -/
theorem ofSpan?_eq_none_iff {d : Span} :
    ofSpan? d = none ↔ d.millis = 0 ∨ 9223372036854775807 < d.millis := by
  simp only [ofSpan?]
  split
  · simp only [reduceCtorEq, false_iff]; omega
  · simp only [true_iff]; omega

end Stride

end BundleRunner
