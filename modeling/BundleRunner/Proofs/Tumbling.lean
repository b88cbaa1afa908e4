import BundleRunner.Proofs.FixedGrid
import BundleRunner.Proofs.SlidingGrid

namespace BundleRunner

/-!
# Windows side by side

Windows that slide by their own length lie side by side, like fixed windows without an offset.  The
two kinds find them by different means.  A fixed window has its start computed; a sliding window is
found by a search, which goes down from the last multiple of the period and ends before the instant
less the length.  Side by side, one start at most is left to find, and it is the computed one.

The bound of the search is left out of it, and stops at the infinite past.  So the search never finds
the window that begins with time itself, and there is such a window when the infinite past is a
multiple of the length.

* `FixedWindows.eq_gridStart_iff` — the start that is computed, without a division;
* `SlidingWindows.reaches_iff_of_side` — the start that is searched for;
* `FixedWindows.windowsAt_cases_of_unmoved`, `SlidingWindows.windowsAt_cases_of_side` — what the two
  kinds make of it;
* `SlidingWindows.tumbles_iff` — they agree on every instant, except those in the first window of all
  time.
-/

variable {α : Type}

/-! ## One start -/

/-- Side by side, there is one start for an instant: the multiple of the length that is not after it,
    and less than the length before. -/
theorem FixedWindows.eq_gridStart_iff {s : Int} (pos : 0 < s) {b t : Int} :
    b = gridStart s 0 t ↔ s ∣ b ∧ b ≤ t ∧ t < b + s := by
  have cut := Int.emod_add_mul_ediv t s
  have least := Int.emod_nonneg t (by omega : s ≠ 0)
  have greatest := Int.emod_lt_of_pos t pos
  rw [gridStart, Int.sub_zero, Int.zero_add]
  constructor
  · rintro rfl
    exact ⟨Int.dvd_mul_right .., by omega, by omega⟩
  · rintro ⟨⟨k, rfl⟩, notAfter, above⟩
    -- the multiple and the computed start lie less than a length apart, so the quotients are equal
    have upper : k ≤ t / s := (Int.le_ediv_iff_mul_le pos).mpr (by rwa [Int.mul_comm])
    have lower : t / s < k + 1 := by
      apply (Int.ediv_lt_iff_lt_mul pos).mpr
      rw [Int.add_mul, Int.one_mul, Int.mul_comm]
      exact above
    have same : k = t / s := by omega
    rw [same]

/-- The window of an instant begins with time itself exactly when the infinite past is a multiple of
    the length, and the instant less than a length away from it. -/
theorem FixedWindows.min_eq_gridStart_iff {s : Int} (pos : 0 < s) (t : Instant) :
    Instant.min.millis = gridStart s 0 t.millis ↔
      s ∣ Instant.min.millis ∧ t.millis < Instant.min.millis + s := by
  have least : Instant.min.millis ≤ t.millis := t.least_le
  rw [eq_gridStart_iff pos]
  exact ⟨fun ⟨multiple, _, near⟩ => ⟨multiple, near⟩, fun ⟨multiple, near⟩ => ⟨multiple, least, near⟩⟩

/-- What is searched for side by side is the one start, unless this is the infinite past. -/
theorem SlidingWindows.reaches_iff_of_side {g : SlidingWindows} (side : g.period = g.size)
    {t : Instant} {b : Int} (inTime : Instant.min.millis ≤ b) :
    g.Reaches t b ↔
      b = FixedWindows.gridStart g.size.millis 0 t.millis ∧ Instant.min.millis < b := by
  have pos := g.size.pos
  have greatest := t.le_greatest
  -- where the search stops: at the instant less the length, but no earlier than time itself
  have bound : (Instant.clamp (t.millis - g.size.millis)).millis =
      Max.max Instant.min.millis (t.millis - g.size.millis) := by
    rw [Instant.millis_clamp, Instant.millis_min]
    omega
  rw [FixedWindows.eq_gridStart_iff pos]
  constructor
  · intro reaches
    have multiple := reaches.multiple
    have notAfter := reaches.notAfter
    have above := reaches.above
    rw [side] at multiple
    rw [bound] at above
    exact ⟨⟨multiple, notAfter, by omega⟩, by omega⟩
  · rintro ⟨⟨multiple, notAfter, near⟩, after⟩
    refine ⟨?_, notAfter, ?_⟩
    · rw [side]
      exact multiple
    · rw [bound]
      omega

/-! ## What is made of it -/

/-- Without an offset, a fixed window is the stretch from the one start on, if this is an
    interval. -/
theorem FixedWindows.windowsAt_cases_of_unmoved {f : FixedWindows} (unmoved : f.offset = 0)
    (t : Instant) :
    (∃ w : Interval, w.Spans (gridStart f.size.millis 0 t.millis) f.size.millis ∧
        f.windowsAt t = .ok (.single (.interval w))) ∨
      (¬ ∃ w : Interval, w.Spans (gridStart f.size.millis 0 t.millis) f.size.millis) ∧
        f.windowsAt t = .error .emptyWindowSet := by
  have least : Instant.min.millis ≤ t.millis := t.least_le
  have begins := startAt_of_inside (f := f) (t := t) (by omega)
  rw [unmoved] at begins
  rw [windowsAt, ← begins]
  rcases f.windowAt_cases t with ⟨w, spans, placed⟩ | ⟨none, refused⟩
  · exact .inl ⟨w, spans, by rw [placed]; rfl⟩
  · exact .inr ⟨none, by rw [refused]; rfl⟩

/-- Side by side, a sliding window is the stretch from the one start on, if this is an interval that
    begins after the infinite past. -/
theorem SlidingWindows.windowsAt_cases_of_side {g : SlidingWindows} (side : g.period = g.size)
    (t : Instant) :
    let b := FixedWindows.gridStart g.size.millis 0 t.millis
    (∃ w : Interval, w.Spans b g.size.millis ∧ Instant.min.millis < b ∧
        g.windowsAt t = .ok (.single (.interval w))) ∨
      (¬ ∃ w : Interval, w.Spans b g.size.millis ∧ Instant.min.millis < b) ∧
        g.windowsAt t = .error .emptyWindowSet := by
  intro b
  have inTime : ∀ {c : Int} {w : Interval}, w.Spans c g.size.millis → Instant.min.millis ≤ c := by
    intro c w spans
    rw [← spans.start]
    exact w.start.least_le
  rcases g.windowsAt_cases t with ⟨ws, placed, members⟩ | ⟨refused, none⟩
  · have found : ∀ v, v ∈ ws ↔
        ∃ w : Interval, w.Spans b g.size.millis ∧ Instant.min.millis < b ∧ v = .interval w := by
      intro v
      rw [members]
      constructor
      · rintro ⟨c, reaches, w, spans, rfl⟩
        obtain ⟨rfl, after⟩ := (reaches_iff_of_side side (inTime spans)).mp reaches
        exact ⟨w, spans, after, rfl⟩
      · rintro ⟨w, spans, after, rfl⟩
        exact ⟨b, (reaches_iff_of_side side (inTime spans)).mpr ⟨rfl, after⟩, w, spans, rfl⟩
    -- a set of windows has a member, and all members are the one stretch
    obtain ⟨v, member⟩ := List.exists_mem_of_ne_nil _ ws.nonempty
    obtain ⟨w, spans, after, rfl⟩ := (found v).mp member
    have only : ws = .single (.interval w) := by
      apply WindowSet.eq_of_mem_iff
      intro v
      rw [found, WindowSet.mem_single]
      constructor
      · rintro ⟨w', spans', -, rfl⟩
        rw [spans'.unique spans]
      · rintro rfl
        exact ⟨w, spans, after, rfl⟩
    exact .inl ⟨w, spans, after, by rw [placed, only]⟩
  · refine .inr ⟨?_, refused⟩
    rintro ⟨w, spans, after⟩
    exact none b ((reaches_iff_of_side side (inTime spans)).mpr ⟨rfl, after⟩) w spans

/-! ## Agreement -/

namespace SlidingWindows

section Agreement

variable {f : FixedWindows} {g : SlidingWindows} {t : Instant}

/-- After the first window of all time, both kinds give the same answer. -/
theorem windowsAt_eq_of_later (unmoved : f.offset = 0) (side : g.period = g.size)
    (length : g.size = f.size)
    (later : Instant.min.millis ≠ FixedWindows.gridStart f.size.millis 0 t.millis) :
    g.windowsAt t = f.windowsAt t := by
  have searched := g.windowsAt_cases_of_side side t
  rw [length] at searched
  rcases f.windowsAt_cases_of_unmoved unmoved t with ⟨w, spans, computed⟩ | ⟨none, refused⟩
  · -- a stretch that is an interval does not begin before time, and this one not with it
    have inTime := w.start.least_le
    have start := spans.start
    have after : Instant.min.millis < FixedWindows.gridStart f.size.millis 0 t.millis := by
      rw [Instant.millis_min] at *
      omega
    rcases searched with ⟨w', spans', -, found⟩ | ⟨missed, -⟩
    · rw [found, computed, spans'.unique spans]
    · exact absurd ⟨w, spans, after⟩ missed
  · rcases searched with ⟨w', spans', -, -⟩ | ⟨-, refused'⟩
    · exact absurd ⟨w', spans'⟩ none
    · rw [refused, refused']

/-- The first window of all time is computed, and not found by the search. -/
theorem windowsAt_of_first (unmoved : f.offset = 0) (side : g.period = g.size)
    (length : g.size = f.size)
    (first : Instant.min.millis = FixedWindows.gridStart f.size.millis 0 t.millis) :
    g.windowsAt t = .error .emptyWindowSet ∧
      ∃ w : Interval, w.Spans Instant.min.millis f.size.millis ∧
        f.windowsAt t = .ok (.single (.interval w)) := by
  have inside : Instant.min.millis < Instant.max.millis := by decide
  constructor
  · rcases g.windowsAt_cases_of_side side t with ⟨-, -, after, -⟩ | ⟨-, refused⟩
    · rw [length, ← first] at after
      exact absurd after (Int.lt_irrefl _)
    · exact refused
  · rcases f.windowsAt_cases_of_unmoved unmoved t with ⟨w, spans, computed⟩ | ⟨none, -⟩
    · rw [← first] at spans
      exact ⟨w, spans, computed⟩
    · rw [← first] at none
      exact absurd ((Interval.exists_spans_iff f.size.pos).mpr ⟨Int.le_refl _, inside⟩) none

end Agreement

theorem side_of_of? {size : Span} {g : SlidingWindows} (built : of? size size = some g) :
    g.period = g.size := by
  obtain ⟨length, spacing⟩ := millis_of_of? built
  exact Stride.ext (spacing.trans length.symm)

/-- **Tumbling windows are sliding windows, but for the first.**  Windows that slide by their length
    and fixed windows of this length without an offset give an instant the same answer, one window
    or none, exactly when its window does not begin with time itself.  Where it does, the fixed
    window is given, and the sliding one refused. -/
theorem tumbles_iff {size : Span} {f : FixedWindows} {g : SlidingWindows}
    {context : AssignContext α} {t : Instant} (fixed : FixedWindows.of? size = some f)
    (sliding : of? size size = some g) (timed : context.timestamp? = .ok t) :
    (g.toWindowFn.assign context = f.toWindowFn.assign context ↔
      ¬ ((size.millis : Int) ∣ Instant.min.millis ∧
        t.millis < Instant.min.millis + size.millis)) ∧
    ((∃ w : Interval, f.toWindowFn.assign context = .ok (.single (.interval w))) ∨
      f.toWindowFn.assign context = .error .emptyWindowSet) ∧
    ((size.millis : Int) ∣ Instant.min.millis ∧ t.millis < Instant.min.millis + size.millis →
      g.toWindowFn.assign context = .error .emptyWindowSet ∧
      ∃ w : Interval, w.Spans Instant.min.millis size.millis ∧
        f.toWindowFn.assign context = .ok (.single (.interval w))) := by
  have unmoved := FixedWindows.offset_of_of? fixed
  have side := side_of_of? sliding
  have millis := FixedWindows.millis_of_of? fixed
  have length : g.size = f.size := Stride.ext ((millis_of_of? sliding).1.trans millis.symm)
  have answer : g.toWindowFn.assign context = g.windowsAt t := WindowRule.run_byTimestamp timed
  have answer' : f.toWindowFn.assign context = f.windowsAt t := WindowRule.run_byTimestamp timed
  rw [answer, answer', ← millis, ← FixedWindows.min_eq_gridStart_iff f.size.pos]
  refine ⟨⟨?_, windowsAt_eq_of_later unmoved side length⟩, ?_,
    windowsAt_of_first unmoved side length⟩
  · intro same first
    obtain ⟨refused, w, -, computed⟩ := windowsAt_of_first unmoved side length first
    rw [refused, computed] at same
    exact absurd same (by simp)
  · rcases f.windowsAt_cases_of_unmoved unmoved t with ⟨w, -, computed⟩ | ⟨-, refused⟩
    · exact .inl ⟨w, computed⟩
    · exact .inr refused

/-- Fixed windows of 1024 ms, a length that divides the infinite past. -/
def fixedPower : FixedWindows := .ofStride ⟨1024, by decide, by decide⟩

open FixedWindows (early)

/-- Windows of 1024 ms, one every 1024 ms. -/
def slidingPower : SlidingWindows := ⟨fixedPower.size, fixedPower.size⟩

/-- From 1024 ms after the infinite past on, windows of 1024 ms agree; a millisecond before, they do
    not. -/
theorem tumbles_iff_power :
    FixedWindows.of? (.ofMillis 1024) = some fixedPower ∧
      of? (.ofMillis 1024) (.ofMillis 1024) = some slidingPower ∧
      slidingPower.toWindowFn.assign (early 1024) =
        fixedPower.toWindowFn.assign (early 1024) ∧
      slidingPower.toWindowFn.assign (early 1023) ≠
        fixedPower.toWindowFn.assign (early 1023) := by
  have fixed : FixedWindows.of? (.ofMillis 1024) = some fixedPower := rfl
  have sliding : of? (.ofMillis 1024) (.ofMillis 1024) = some slidingPower := rfl
  have timedLater : (early 1024).timestamp? = .ok (.clamp (-9223372036854774784)) := rfl
  have timedFirst : (early 1023).timestamp? = .ok (.clamp (-9223372036854774785)) := rfl
  have later := (tumbles_iff fixed sliding timedLater).1
  have first := (tumbles_iff fixed sliding timedFirst).1
  exact ⟨fixed, sliding, later.mpr (by decide), fun same => first.mp same (by decide)⟩

/-- At the infinite past, the fixed window is the first of all time, and there is no sliding one. -/
theorem first_window_not_found :
    FixedWindows.of? (.ofMillis 1024) = some fixedPower ∧
      of? (.ofMillis 1024) (.ofMillis 1024) = some slidingPower ∧
      slidingPower.toWindowFn.assign (early 0) = .error .emptyWindowSet ∧
      ∃ w : Interval, w.start = .min ∧ w.stop.millis = Instant.min.millis + 1024 ∧
        fixedPower.toWindowFn.assign (early 0) = .ok (.single (.interval w)) := by
  have searched : slidingPower.windowsAt .min = .error .emptyWindowSet :=
    (windowsAt_of_first (f := fixedPower) rfl rfl rfl rfl).1
  let w : Interval := ⟨.min, .clamp (-9223372036854774784), by decide⟩
  exact ⟨rfl, rfl, searched, w, rfl, rfl, rfl⟩

end SlidingWindows

end BundleRunner
