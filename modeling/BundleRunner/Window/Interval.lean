import BundleRunner.Time.Span

namespace BundleRunner

/-!
# Windows

A `Window` is either the whole of time or a half-open `Interval` of it.  Windows have a total
order, the whole of time first and intervals by start and then by end:

* `Interval.of?` — the interval between two instants, when the first is earlier;
* `Interval.maxTimestamp` — the last instant inside;
* `Window.lt_trichotomy`, `Window.lt_trans`, `Window.lt_irrefl` — the order is strict and total.
-/

/-- A non-empty half-open stretch of time: `start` lies inside, `stop` does not. -/
@[ext] structure Interval where
  start : Instant
  stop : Instant
  start_lt_stop : start < stop
deriving DecidableEq

namespace Interval

/-- The interval from `start` up to `stop`, when it is not empty. -/
def of? (start stop : Instant) : Option Interval :=
  if h : start < stop then some ⟨start, stop, h⟩ else none

theorem of?_eq_some_iff {start stop : Instant} {w : Interval} :
    of? start stop = some w ↔ w.start = start ∧ w.stop = stop := by
  constructor
  · intro h
    simp only [of?] at h
    split at h
    · exact (Option.some.inj h) ▸ ⟨rfl, rfl⟩
    · exact absurd h (by simp)
  · rintro ⟨rfl, rfl⟩
    simp [of?, w.start_lt_stop]

/-- The interval is refused exactly when it would be empty. -/
theorem of?_eq_none_iff {start stop : Instant} : of? start stop = none ↔ stop ≤ start := by
  simp only [of?, Instant.lt_def, Instant.le_def]
  split
  · simp only [reduceCtorEq, false_iff]; omega
  · simp only [true_iff]; omega

/-- The last instant inside the interval, one millisecond before its end. -/
def maxTimestamp (w : Interval) : Instant :=
  ⟨w.stop.millis - 1,
    by have := w.start_lt_stop; have := w.start.least_le; simp only [Instant.lt_def] at *; omega,
    by have := w.stop.le_greatest; omega⟩

/-- Whether an instant lies inside the interval. -/
def contains (w : Interval) (t : Instant) : Bool := decide (w.start ≤ t) && decide (t < w.stop)

theorem contains_iff {w : Interval} {t : Instant} :
    w.contains t = true ↔ w.start ≤ t ∧ t < w.stop := by
  simp [contains]

/-- The instants inside an interval reach from its start to the last one. -/
theorem contains_iff_le_maxTimestamp {w : Interval} {t : Instant} :
    w.contains t = true ↔ w.start ≤ t ∧ t ≤ w.maxTimestamp := by
  rw [contains_iff]
  simp only [Instant.le_def, Instant.lt_def, maxTimestamp]
  omega

/-- The written form, with the bracket of a half-open interval. -/
def text (w : Interval) : String := "[" ++ w.start.text ++ ", " ++ w.stop.text ++ ")"

end Interval

/-- Where in time a record belongs. -/
inductive Window where
  /-- The whole of time. -/
  | global
  /-- A stretch of time. -/
  | interval (stretch : Interval)
deriving DecidableEq

namespace Window

instance : Inhabited Window := ⟨global⟩

/-- The last instant inside a window. -/
def maxTimestamp : Window → Instant
  | global => .max
  | interval w => w.maxTimestamp

/-- The written form of a window. -/
def text : Window → String
  | global => "global"
  | interval w => w.text

/-- The order of windows: the whole of time first, intervals by start and then by end. -/
protected def Lt : Window → Window → Prop
  | global, global => False
  | global, interval _ => True
  | interval _, global => False
  | interval v, interval w => v.start < w.start ∨ v.start = w.start ∧ v.stop < w.stop

instance : LT Window := ⟨Window.Lt⟩

instance (v w : Window) : Decidable (v < w) :=
  match v, w with
  | global, global => inferInstanceAs (Decidable False)
  | global, interval _ => inferInstanceAs (Decidable True)
  | interval _, global => inferInstanceAs (Decidable False)
  | interval v, interval w =>
    inferInstanceAs (Decidable (v.start < w.start ∨ v.start = w.start ∧ v.stop < w.stop))

@[simp] theorem not_global_lt_global : ¬ (global < global) := id

@[simp] theorem global_lt_interval (w : Interval) : global < interval w := trivial

@[simp] theorem not_interval_lt_global (w : Interval) : ¬ (interval w < global) := id

theorem interval_lt_interval {v w : Interval} :
    interval v < interval w ↔ v.start < w.start ∨ v.start = w.start ∧ v.stop < w.stop := Iff.rfl

theorem lt_irrefl (w : Window) : ¬ (w < w) := by
  cases w with
  | global => exact id
  | interval w => simp only [interval_lt_interval, Instant.lt_def]; omega

theorem lt_trans {u v w : Window} (huv : u < v) (hvw : v < w) : u < w := by
  cases u <;> cases v <;> cases w <;>
    simp only [interval_lt_interval, Instant.lt_def, Instant.ext_iff, global_lt_interval,
      not_global_lt_global, not_interval_lt_global] at huv hvw ⊢
  omega

theorem lt_trichotomy (v w : Window) : v < w ∨ v = w ∨ w < v := by
  cases v <;> cases w <;> try simp
  simp only [interval_lt_interval, Instant.lt_def, Interval.ext_iff, Instant.ext_iff]
  omega

end Window

end BundleRunner
