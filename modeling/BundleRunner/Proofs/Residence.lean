import BundleRunner.Proofs.FixedGrid
import BundleRunner.Proofs.SlidingGrid

namespace BundleRunner

/-!
# Records inside their windows

Fixed and sliding windows place a record into stretches of time that reach around its timestamp.  A
stretch that runs past the end of time is cut off there, and no interval contains its own end.  So a
record lies inside its windows, unless it stands at the end of time itself: then its windows end
where it stands, and it lies inside none of them.

* `Interval.Spans.contains_iff_ne_max` — which instants a stretch around them contains;
* `WindowFn.Stretching` — the window functions that assign stretches;
* `WindowFn.Stretching.spans_around` — these reach around the timestamp;
* `WindowFn.Stretching.lies_inside_iff` — a record lies inside its windows exactly when it does not
  stand at the end of time.
-/

variable {α : Type}

/-! ## One stretch -/

namespace Interval

variable {w : Interval} {b size : Int} {t : Instant}

/-- Of the instants in a stretch, the interval contains all but the end of time. -/
theorem Spans.contains_iff_ne_max (h : w.Spans b size) (notAfter : b ≤ t.millis)
    (near : t.millis < b + size) : w.contains t = true ↔ t ≠ .max := by
  have last := t.le_greatest
  rw [h.contains_iff, ne_eq, Instant.ext_iff, Instant.millis_max]
  constructor
  · rintro ⟨-, -, early⟩
    omega
  · intro early
    exact ⟨notAfter, near, by omega⟩

/-- A stretch around the end of time is cut off right there. -/
theorem Spans.stop_of_max (h : w.Spans b size) (near : Instant.max.millis < b + size) :
    w.stop = .max := by
  apply Instant.ext
  rw [h.stop]
  omega

end Interval

/-! ## The stretches of a record -/

namespace WindowFn

/-- The window functions that assign stretches of time. -/
inductive Stretching : WindowFn α → Prop where
  | fixed (f : FixedWindows) : Stretching f.toWindowFn
  | sliding (g : SlidingWindows) : Stretching g.toWindowFn

variable {f : WindowFn α} {context : AssignContext α} {t : Instant} {ws : WindowSet} {v : Window}

/-- What is assigned are stretches around the timestamp. -/
theorem Stretching.spans_around (stretching : f.Stretching) (timed : context.timestamp? = .ok t)
    (placed : f.assign context = .ok ws) (member : v ∈ ws) :
    ∃ (w : Interval) (b size : Int), v = .interval w ∧ w.Spans b size ∧
      b ≤ t.millis ∧ t.millis < b + size := by
  cases stretching with
  | fixed f =>
    obtain ⟨w, spans, rfl⟩ := (FixedWindows.assign_eq_ok_iff timed).mp placed
    obtain ⟨notAfter, near⟩ := f.startAt_mem t
    exact ⟨w, _, _, WindowSet.mem_single.mp member, spans, notAfter, near⟩
  | sliding g =>
    have answer : g.toWindowFn.assign context = g.windowsAt t := WindowRule.run_byTimestamp timed
    rw [answer] at placed
    rcases g.windowsAt_cases t with ⟨ws', placed', members⟩ | ⟨refused, -⟩
    · obtain rfl := Except.ok.inj (placed.symm.trans placed')
      obtain ⟨b, reaches, w, spans, rfl⟩ := (members v).mp member
      -- the bound of the search is no less than the instant less the length
      have near : t.millis - g.size.millis < b := by
        have last := t.le_greatest
        have pos := g.size.pos
        have above := reaches.above
        rw [Instant.millis_clamp] at above
        omega
      exact ⟨w, b, _, rfl, spans, reaches.notAfter, by omega⟩
    · exact absurd (placed.symm.trans refused) (by simp)

/-- **A record lies inside its windows, but not at the end of time.**  What fixed and sliding windows
    assign to a record are intervals that begin no later than its timestamp.  Each of them contains
    the timestamp, and its last instant is no earlier, exactly when the timestamp is not the end of
    time; for a record there, each of them ends at the timestamp. -/
theorem Stretching.lies_inside_iff (stretching : f.Stretching)
    (timed : context.timestamp? = .ok t) (placed : f.assign context = .ok ws) (member : v ∈ ws) :
    ∃ w : Interval, v = .interval w ∧ w.start ≤ t ∧
      (w.contains t = true ↔ t ≠ .max) ∧
      (t ≤ v.maxTimestamp ↔ t ≠ .max) ∧
      (t = .max → w.stop = .max) := by
  obtain ⟨w, b, size, rfl, spans, notAfter, near⟩ := stretching.spans_around timed placed member
  have begun : w.start ≤ t := by
    rw [Instant.le_def, spans.start]
    exact notAfter
  have inside := spans.contains_iff_ne_max notAfter near
  refine ⟨w, rfl, begun, inside, ?_, ?_⟩
  · show t ≤ w.maxTimestamp ↔ t ≠ .max
    rw [← inside, Interval.contains_iff_le_maxTimestamp]
    exact ⟨fun bounded => ⟨begun, bounded⟩, fun ⟨_, bounded⟩ => bounded⟩
  · rintro rfl
    exact spans.stop_of_max near

/-- A record at an instant, emitted outside element processing. -/
def recordAt (t : Instant) : AssignContext Unit := .bundle (some t)

/-- The last window of ten milliseconds, which is cut off at the end of time. -/
def lastOfTens : Interval := ⟨.clamp 9223372036854775800, .max, by decide⟩

/-- A record a millisecond before the end of time lies inside the last window of ten
    milliseconds. -/
theorem lies_inside_iff_lastOfTens :
    FixedWindows.tens.toWindowFn.assign (recordAt (.clamp 9223372036854775806)) =
        .ok (.single (.interval lastOfTens)) ∧
      lastOfTens.contains (.clamp 9223372036854775806) = true := by
  have stretching : Stretching (FixedWindows.tens.toWindowFn : WindowFn Unit) := .fixed _
  have timed : (recordAt (.clamp 9223372036854775806)).timestamp? =
    .ok (.clamp 9223372036854775806) := rfl
  have placed : FixedWindows.tens.toWindowFn.assign (recordAt (.clamp 9223372036854775806)) =
    .ok (.single (.interval lastOfTens)) := rfl
  obtain ⟨w, same, -, inside, -⟩ :=
    stretching.lies_inside_iff timed placed (WindowSet.mem_single.mpr rfl)
  obtain rfl := Window.interval.inj same
  exact ⟨placed, inside.mpr (by decide)⟩

/-- A record at the end of time is placed into this window too, and does not lie inside. -/
theorem end_of_time_outside :
    FixedWindows.of? (.ofMillis 10) = some .tens ∧
      FixedWindows.tens.toWindowFn.assign (recordAt .max) = .ok (.single (.interval lastOfTens)) ∧
      lastOfTens.contains .max = false ∧ ¬ Instant.max ≤ lastOfTens.maxTimestamp :=
  ⟨rfl, rfl, rfl, by decide⟩

end WindowFn

end BundleRunner
