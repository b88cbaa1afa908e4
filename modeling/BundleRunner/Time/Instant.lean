namespace BundleRunner

/-!
# Instants of event time

An `Instant` is a whole number of milliseconds in the signed 64-bit range.  The two ends of the
range stand for the infinite past and the infinite future, and arithmetic stops there:

* `Instant.clamp` — the instant nearest to an integer;
* `Instant.ofMillis?` — the instant at an integer, when there is one;
* `Instant.text` — the written form, with `-inf` and `+inf` for the ends.
-/

/-- A point of event time in milliseconds, between the ends of the signed 64-bit range. -/
@[ext] structure Instant where
  /-- Milliseconds since the epoch. -/
  millis : Int
  least_le : -9223372036854775808 ≤ millis
  le_greatest : millis ≤ 9223372036854775807
deriving DecidableEq

namespace Instant

/-- The infinite past. -/
protected def min : Instant := ⟨-9223372036854775808, by decide, by decide⟩

/-- The infinite future. -/
protected def max : Instant := ⟨9223372036854775807, by decide, by decide⟩

/-- The epoch. -/
def epoch : Instant := ⟨0, by decide, by decide⟩

/-- The instant nearest to `m`: out of range, the end on that side. -/
def clamp (m : Int) : Instant :=
  ⟨Max.max (-9223372036854775808) (Min.min m 9223372036854775807), by omega, by omega⟩

/-- The instant at `m`, when `m` is in range. -/
def ofMillis? (m : Int) : Option Instant :=
  if h : -9223372036854775808 ≤ m ∧ m ≤ 9223372036854775807 then some ⟨m, h.1, h.2⟩ else none

/-- The instant `s` seconds after the epoch, stopping at the ends of the range. -/
def ofSecs (s : Int) : Instant := clamp (s * 1000)

instance : Inhabited Instant := ⟨epoch⟩

instance : LE Instant := ⟨fun s t => s.millis ≤ t.millis⟩

instance : LT Instant := ⟨fun s t => s.millis < t.millis⟩

theorem le_def {s t : Instant} : s ≤ t ↔ s.millis ≤ t.millis := Iff.rfl

theorem lt_def {s t : Instant} : s < t ↔ s.millis < t.millis := Iff.rfl

instance (s t : Instant) : Decidable (s ≤ t) := inferInstanceAs (Decidable (s.millis ≤ t.millis))

instance (s t : Instant) : Decidable (s < t) := inferInstanceAs (Decidable (s.millis < t.millis))

@[simp] theorem millis_min : Instant.min.millis = -9223372036854775808 := rfl

@[simp] theorem millis_max : Instant.max.millis = 9223372036854775807 := rfl

theorem millis_clamp (m : Int) :
    (clamp m).millis = Max.max (-9223372036854775808) (Min.min m 9223372036854775807) := rfl

/-- Clamping an integer in range changes nothing. -/
theorem millis_clamp_of_mem {m : Int} (lo : -9223372036854775808 ≤ m)
    (hi : m ≤ 9223372036854775807) : (clamp m).millis = m := by
  simp only [millis_clamp]; omega

@[simp] theorem clamp_millis (t : Instant) : clamp t.millis = t :=
  Instant.ext (millis_clamp_of_mem t.least_le t.le_greatest)

@[simp] theorem ofMillis?_millis (t : Instant) : ofMillis? t.millis = some t := by
  simp [ofMillis?, t.least_le, t.le_greatest]

/-- `ofMillis? m` is an instant exactly when `m` is in range, and then it is the one at `m`. -/
theorem ofMillis?_eq_some_iff {m : Int} {t : Instant} : ofMillis? m = some t ↔ t.millis = m := by
  constructor
  · intro h
    simp only [ofMillis?] at h
    split at h
    · exact (Option.some.inj h) ▸ rfl
    · exact absurd h (by simp)
  · rintro rfl
    exact ofMillis?_millis t

/-- Whether the instant is the infinite past. -/
def isMin (t : Instant) : Bool := t.millis == -9223372036854775808

/-- The written form: `-inf` and `+inf` at the ends of the range, else milliseconds. -/
def text (t : Instant) : String :=
  if t.millis = -9223372036854775808 then "-inf"
  else if t.millis = 9223372036854775807 then "+inf"
  else toString t.millis ++ "ms"

end Instant

end BundleRunner
