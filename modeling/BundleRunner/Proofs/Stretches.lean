import BundleRunner.Window.Fixed
import BundleRunner.Window.Sliding

namespace BundleRunner

/-!
# Stretches of time

Fixed and sliding windows are stretches of one length, and differ in where these begin.  This file
says once what they have in common: a stretch may run past the end of time, where it is cut off, and
it is no window if it begins before all time, or at the end of it.

* `Interval.Spans` — an interval is the stretch of a length from an integer on;
* `Interval.exists_spans_iff` — which stretches are intervals;
* `Interval.of?_eq_some_iff_spans` — what is made of a start and a length is their stretch;
* `Interval.Spans.apart` — stretches one after the other have no instant in common;
* `WindowRule.run_byTimestamp` — such windows are assigned by the timestamp alone.
-/

variable {α : Type}

namespace Interval

/-- The interval is the stretch of `size` milliseconds from `b` on, which is cut off at the end of
    time. -/
structure Spans (w : Interval) (b size : Int) : Prop where
  start : w.start.millis = b
  stop : w.stop.millis = Min.min (b + size) Instant.max.millis

/-- The intervals have no instant in common. -/
def Apart (v w : Interval) : Prop := ∀ t, ¬ (v.contains t = true ∧ w.contains t = true)

variable {v w : Interval} {b c size : Int}

theorem Apart.symm (h : v.Apart w) : w.Apart v := fun t both => h t both.symm

/-- A start and a length determine the stretch. -/
theorem Spans.unique (hv : v.Spans b size) (hw : w.Spans b size) : v = w := by
  have start : v.start = w.start := Instant.ext (hv.start.trans hw.start.symm)
  have stop : v.stop = w.stop := Instant.ext (hv.stop.trans hw.stop.symm)
  exact Interval.ext start stop

/-- A stretch is an interval exactly when it begins in time, and before the end of it. -/
theorem exists_spans_iff (pos : 0 < size) :
    (∃ w, Spans w b size) ↔ Instant.min.millis ≤ b ∧ b < Instant.max.millis := by
  simp only [Instant.millis_min, Instant.millis_max]
  constructor
  · rintro ⟨w, start, stop⟩
    have least := w.start.least_le
    have nonempty : w.start.millis < w.stop.millis := w.start_lt_stop
    rw [Instant.millis_max] at stop
    omega
  · rintro ⟨least, greatest⟩
    have begins : (Instant.clamp b).millis = b := Instant.millis_clamp_of_mem least (by omega)
    have ends : (Instant.clamp (b + size)).millis = Min.min (b + size) 9223372036854775807 := by
      rw [Instant.millis_clamp]
      omega
    have nonempty : Instant.clamp b < Instant.clamp (b + size) := by
      rw [Instant.lt_def, begins, ends]
      omega
    exact ⟨⟨.clamp b, .clamp (b + size), nonempty⟩, begins, ends⟩

/-- What is made of a start and a length is their stretch. -/
theorem of?_eq_some_iff_spans {start : Instant} {size : Stride} :
    of? start (.clamp (start.millis + size.millis)) = some w ↔
      w.Spans start.millis size.millis := by
  have least := start.least_le
  have pos := size.pos
  have ends : (Instant.clamp (start.millis + size.millis)).millis =
      Min.min (start.millis + size.millis) Instant.max.millis := by
    rw [Instant.millis_clamp, Instant.millis_max]
    omega
  rw [of?_eq_some_iff]
  constructor
  · rintro ⟨rfl, stop⟩
    exact ⟨rfl, by rw [stop, ends]⟩
  · rintro ⟨sameStart, stop⟩
    exact ⟨Instant.ext sameStart, Instant.ext (stop.trans ends.symm)⟩

/-- The instants in a stretch. -/
theorem Spans.contains_iff (h : w.Spans b size) (t : Instant) :
    w.contains t = true ↔
      b ≤ t.millis ∧ t.millis < b + size ∧ t.millis < Instant.max.millis := by
  rw [Interval.contains_iff, Instant.le_def, Instant.lt_def, h.start, h.stop]
  omega

/-- A stretch that begins when another has ended has no instant in common with it. -/
theorem Spans.apart (hv : v.Spans b size) (hw : w.Spans c size) (after : b + size ≤ c) :
    v.Apart w := by
  rintro t ⟨inFirst, inSecond⟩
  have before := ((hv.contains_iff t).mp inFirst).2.1
  have behind := ((hw.contains_iff t).mp inSecond).1
  omega

/-- A stretch that begins inside another has an instant in common with it: its own start. -/
theorem Spans.not_apart (hv : v.Spans b size) (hw : w.Spans c size) (start : b ≤ c)
    (inside : c < b + size) : ¬ v.Apart w := by
  intro apart
  have early : w.start.millis < Instant.max.millis := by
    have nonempty : w.start.millis < w.stop.millis := w.start_lt_stop
    have last := w.stop.le_greatest
    rw [Instant.millis_max]
    omega
  have begins := hw.start
  refine apart w.start ⟨(hv.contains_iff _).mpr ⟨?_, ?_, early⟩, ?_⟩
  · omega
  · omega
  · exact Interval.contains_iff.mpr ⟨Int.le_refl _, w.start_lt_stop⟩

end Interval

/-- A rule that places a record by its timestamp is answered by the place of the timestamp. -/
theorem WindowRule.run_byTimestamp {place : Instant → Except Fault WindowSet}
    {context : AssignContext α} {t : Instant} (timed : context.timestamp? = .ok t) :
    (byTimestamp place).run context = place t := by
  rw [byTimestamp, run_readTimestamp, timed, run_answer]

end BundleRunner
