import BundleRunner.Proofs.Stretches

namespace BundleRunner

/-!
# The grid of fixed windows

The windows of one length `s` and an offset `o` form a grid: they begin at `o` plus the multiples of
`s`.  The distance of an instant from the last start is measured from the instant less the offset,
and this difference stops at the infinite past; the start itself is measured from the instant, which
does not stop.  So the grid is kept as long as the difference exists.  The instants before that are
*stalled*: all of them are taken to lie equally far from a start.

* `FixedWindows.windowAt_cases` — which window an instant is given, and when there is none;
* `FixedWindows.startAt_of_inside`, `FixedWindows.startAt_of_stalled`, `FixedWindows.startAt_mem` —
  where it begins;
* `FixedWindows.placed_on_grid` — away from the infinite past, the windows are those of the grid;
* `FixedWindows.separated_iff_offset_le` — the windows of stalled instants overlap those of the
  grid, unless the offset is so small that there are no such windows.
-/

variable {α : Type}

namespace FixedWindows

variable {f : FixedWindows} {t : Instant}

/-- The last integer at or before `t` that is `o` more than a multiple of `s`; the quotient is
    rounded down. -/
def gridStart (s o t : Int) : Int := o + s * ((t - o) / s)

/-- Where the stretch begins that is taken for an instant. -/
def startAt (f : FixedWindows) (t : Instant) : Int :=
  t.millis - (Instant.clamp (t.millis - f.offset)).millis % f.size.millis

/-- The windows moved by an offset, if there is one. -/
def moved (f : FixedWindows) : Option Span → FixedWindows
  | none => f
  | some d => f.withOffset d

/-- The whole milliseconds of an offset modulo a length, zero if there is no offset. -/
def drift (size : Span) : Option Span → Int
  | none => 0
  | some d => (d.millis : Int) % size.millis

/-- From the instant `least` on, the window function assigns single stretches of time, and any two
    of them are equal or have no instant in common. -/
def Separates (α : Type) (f : FixedWindows) (least : Int) : Prop :=
  ∀ ⦃first second : AssignContext α⦄ ⦃t u : Instant⦄ ⦃vs ws : WindowSet⦄,
    first.timestamp? = .ok t → second.timestamp? = .ok u →
    least ≤ t.millis → least ≤ u.millis →
    f.toWindowFn.assign first = .ok vs → f.toWindowFn.assign second = .ok ws →
    ∃ v w, vs = .single (.interval v) ∧ ws = .single (.interval w) ∧ (v = w ∨ v.Apart w)

/-! ## Where a window begins -/

theorem millis_of_of? {size : Span} (built : of? size = some f) : f.size.millis = size.millis := by
  simp only [of?, Option.map_eq_some_iff] at built
  obtain ⟨stride, taken, rfl⟩ := built
  exact Stride.ofSpan?_eq_some_iff.mp taken

theorem offset_of_of? {size : Span} (built : of? size = some f) : f.offset = 0 := by
  simp only [of?, Option.map_eq_some_iff] at built
  obtain ⟨stride, -, rfl⟩ := built
  rfl

@[simp] theorem size_moved (f : FixedWindows) (offset : Option Span) :
    (f.moved offset).size = f.size := by
  cases offset <;> rfl

theorem offset_moved {size : Span} (built : of? size = some f) (offset : Option Span) :
    (f.moved offset).offset = drift size offset := by
  cases offset with
  | none => exact offset_of_of? built
  | some d =>
    show (d.millis : Int) % f.size.millis = (d.millis : Int) % size.millis
    rw [millis_of_of? built]

/-- A window begins no later than its instant, and less than its length before. -/
theorem startAt_mem (f : FixedWindows) (t : Instant) :
    f.startAt t ≤ t.millis ∧ t.millis < f.startAt t + f.size.millis := by
  have pos := f.size.pos
  simp only [startAt]
  generalize (Instant.clamp (t.millis - f.offset)).millis = m
  have least := Int.emod_nonneg m (by omega : f.size.millis ≠ 0)
  have greatest := Int.emod_lt_of_pos m pos
  omega

/-- The window of an instant, with its start by name. -/
theorem windowAt_eq (f : FixedWindows) (t : Instant) :
    f.windowAt t =
      match Instant.ofMillis? (f.startAt t) with
      | none => .error .emptyWindowSet
      | some start =>
        match Interval.of? start (.clamp (start.millis + f.size.millis)) with
        | none => .error .emptyWindowSet
        | some stretch => .ok (.interval stretch) := rfl

/-- An instant is given the stretch from its start on; there is no window when this is no
    interval. -/
theorem windowAt_cases (f : FixedWindows) (t : Instant) :
    (∃ w : Interval, w.Spans (f.startAt t) f.size.millis ∧ f.windowAt t = .ok (.interval w)) ∨
      (¬ ∃ w : Interval, w.Spans (f.startAt t) f.size.millis) ∧
        f.windowAt t = .error .emptyWindowSet := by
  rw [windowAt_eq]
  cases begins : Instant.ofMillis? (f.startAt t) with
  | none =>
    refine .inr ⟨?_, rfl⟩
    rintro ⟨w, spans⟩
    have same : Instant.ofMillis? (f.startAt t) = some w.start :=
      Instant.ofMillis?_eq_some_iff.mpr spans.start
    exact absurd (begins.symm.trans same) (by simp)
  | some start =>
    have startEq : start.millis = f.startAt t := Instant.ofMillis?_eq_some_iff.mp begins
    rw [← startEq]
    dsimp only
    cases made : Interval.of? start (.clamp (start.millis + f.size.millis)) with
    | none =>
      refine .inr ⟨?_, rfl⟩
      rintro ⟨w, spans⟩
      have same := Interval.of?_eq_some_iff_spans.mpr spans
      exact absurd (made.symm.trans same) (by simp)
    | some w => exact .inl ⟨w, Interval.of?_eq_some_iff_spans.mp made, rfl⟩

/-- What the window function answers for a timestamp is the window of the timestamp. -/
theorem assign_eq {context : AssignContext α} (timed : context.timestamp? = .ok t) :
    f.toWindowFn.assign context = (f.windowAt t).map .single :=
  WindowRule.run_byTimestamp timed

/-- The function answers with the stretch from the start on. -/
theorem assign_eq_ok_iff {context : AssignContext α} {ws : WindowSet}
    (timed : context.timestamp? = .ok t) :
    f.toWindowFn.assign context = .ok ws ↔
      ∃ w : Interval, w.Spans (f.startAt t) f.size.millis ∧ ws = .single (.interval w) := by
  rw [assign_eq timed]
  rcases f.windowAt_cases t with ⟨w, spans, placed⟩ | ⟨none, refused⟩
  · rw [placed, Except.map, Except.ok.injEq]
    constructor
    · rintro rfl
      exact ⟨w, spans, rfl⟩
    · rintro ⟨w', spans', rfl⟩
      rw [spans.unique spans']
  · rw [refused]
    constructor
    · intro answered
      exact absurd answered (by simp [Except.map])
    · rintro ⟨w, spans, -⟩
      exact absurd ⟨w, spans⟩ none

/-- As long as the instant less the offset is an instant, its window begins on the grid. -/
theorem startAt_of_inside (inside : Instant.min.millis ≤ t.millis - f.offset) :
    f.startAt t = gridStart f.size.millis f.offset t.millis := by
  have last := t.le_greatest
  have forward := f.offset_nonneg
  -- an offset is never negative, so the difference cannot leave the range at its upper end
  have kept : (Instant.clamp (t.millis - f.offset)).millis = t.millis - f.offset :=
    Instant.millis_clamp_of_mem inside (by omega)
  have cut := Int.emod_add_mul_ediv (t.millis - f.offset) f.size.millis
  rw [startAt, kept, gridStart]
  omega

/-- The window of a stalled instant begins as far before it as the infinite past lies behind a
    multiple of the length; so does that of the first instant after them. -/
theorem startAt_of_stalled (stalled : t.millis - f.offset ≤ Instant.min.millis) :
    f.startAt t = t.millis - Instant.min.millis % f.size.millis := by
  have stopped : (Instant.clamp (t.millis - f.offset)).millis = Instant.min.millis := by
    rw [Instant.millis_clamp, Instant.millis_min] at *
    omega
  rw [startAt, stopped]

/-! ## Away from the infinite past -/

/-- Two offsets that differ by a multiple of the length move the windows equally far. -/
theorem withOffset_eq_of_dvd {d e : Span} (differ : f.size.millis ∣ (d.millis : Int) - e.millis) :
    f.withOffset d = f.withOffset e := by
  have same : (d.millis : Int) % f.size.millis = (e.millis : Int) % f.size.millis :=
    Int.emod_eq_emod_iff_emod_sub_eq_zero.mpr (Int.emod_eq_zero_of_dvd differ)
  simp only [withOffset, same]

/-- **The windows are those of the grid**: an instant that is no less than the offset away from the
    infinite past is given the one stretch from the last start of the grid on, cut off at the end of
    time, and there is no window exactly when this start lies before all time or at the end of it.
    Two offsets that differ by a multiple of the length place every record alike. -/
theorem placed_on_grid {size : Span} {context : AssignContext α} (built : of? size = some f)
    (timed : context.timestamp? = .ok t) :
    (∀ offset : Option Span, Instant.min.millis ≤ t.millis - drift size offset →
      let b := gridStart size.millis (drift size offset) t.millis
      (Instant.min.millis ≤ b ∧ b < Instant.max.millis →
        ∃ w : Interval, w.start.millis = b ∧
          w.stop.millis = Min.min (b + size.millis) Instant.max.millis ∧
          (f.moved offset).toWindowFn.assign context = .ok (.single (.interval w))) ∧
      (¬ (Instant.min.millis ≤ b ∧ b < Instant.max.millis) →
        (f.moved offset).toWindowFn.assign context = .error .emptyWindowSet)) ∧
    ∀ d e : Span, (size.millis : Int) ∣ (d.millis : Int) - e.millis →
      (f.withOffset d).toWindowFn.assign context =
        (f.withOffset e).toWindowFn.assign context := by
  have length := millis_of_of? built
  constructor
  · intro offset inside
    have moves := offset_moved built offset
    have begins := startAt_of_inside (f := f.moved offset) (moves ▸ inside)
    have pos : 0 < (size.millis : Int) := length ▸ f.size.pos
    rw [size_moved, length, moves] at begins
    rw [← begins, assign_eq timed]
    have placed := (f.moved offset).windowAt_cases t
    rw [size_moved, length] at placed
    constructor
    · intro inTime
      rcases placed with ⟨w, spans, answer⟩ | ⟨none, -⟩
      · exact ⟨w, spans.start, spans.stop, by rw [answer]; rfl⟩
      · exact absurd ((Interval.exists_spans_iff pos).mpr inTime) none
    · intro outside
      rcases placed with ⟨w, spans, -⟩ | ⟨-, answer⟩
      · exact absurd ((Interval.exists_spans_iff pos).mp ⟨w, spans⟩) outside
      · rw [answer]
        rfl
  · intro d e differ
    rw [withOffset_eq_of_dvd (length.symm ▸ differ)]

/-- Windows of ten milliseconds. -/
def tens : FixedWindows := .ofStride ⟨10, by decide, by decide⟩

/-- A record just before the epoch, emitted outside element processing. -/
def beforeEpoch : AssignContext Unit := .bundle (some (.clamp (-1)))

/-- A record `n` milliseconds after the infinite past. -/
def early (n : Nat) : AssignContext Unit := .bundle (some (.clamp (-9223372036854775808 + n)))

/-- Moved by 3 ms, the window of the last millisecond before the epoch reaches from -7 to 3. -/
theorem placed_on_grid_beforeEpoch :
    of? (.ofMillis 10) = some tens ∧ beforeEpoch.timestamp? = .ok (.clamp (-1)) ∧
      ∃ w : Interval, w.start.millis = -7 ∧ w.stop.millis = 3 ∧
        (tens.moved (some (.ofMillis 3))).toWindowFn.assign beforeEpoch =
          .ok (.single (.interval w)) := by
  have built : of? (.ofMillis 10) = some tens := rfl
  have timed : beforeEpoch.timestamp? = .ok (.clamp (-1)) := rfl
  have placed := (placed_on_grid built timed).1 (some (.ofMillis 3)) (by decide)
  exact ⟨built, timed, placed.1 (by decide)⟩

/-! ## Next to the infinite past -/

/-- Two starts on one grid are equal, or a length lies between them. -/
theorem gridStart_cases {s : Int} (pos : 0 < s) (o t u : Int) :
    gridStart s o t = gridStart s o u ∨ gridStart s o t + s ≤ gridStart s o u ∨
      gridStart s o u + s ≤ gridStart s o t := by
  have later : ∀ j k : Int, j < k → s * j + s ≤ s * k := by
    intro j k before
    calc s * j + s = s * (j + 1) := by rw [Int.mul_add, Int.mul_one]
      _ ≤ s * k := Int.mul_le_mul_of_nonneg_left (by omega) (by omega)
  simp only [gridStart]
  rcases Int.lt_trichotomy ((t - o) / s) ((u - o) / s) with before | same | behind
  · have apart := later _ _ before
    omega
  · rw [same]
    omega
  · have apart := later _ _ behind
    omega

/-- Away from the infinite past, two windows are equal or have no instant in common. -/
theorem separates_inside (f : FixedWindows) :
    f.Separates α (Instant.min.millis + f.offset) := by
  intro first second t u vs ws timedFirst timedSecond insideFirst insideSecond answered again
  obtain ⟨v, spansFirst, rfl⟩ := (assign_eq_ok_iff timedFirst).mp answered
  obtain ⟨w, spansSecond, rfl⟩ := (assign_eq_ok_iff timedSecond).mp again
  refine ⟨v, w, rfl, rfl, ?_⟩
  have startFirst := startAt_of_inside (f := f) (t := t) (by omega)
  have startSecond := startAt_of_inside (f := f) (t := u) (by omega)
  rcases gridStart_cases f.size.pos f.offset t.millis u.millis with same | before | behind
  · rw [startFirst, same, ← startSecond] at spansFirst
    exact .inl (spansFirst.unique spansSecond)
  · rw [← startFirst, ← startSecond] at before
    exact .inr (spansFirst.apart spansSecond before)
  · rw [← startFirst, ← startSecond] at behind
    exact .inr (spansSecond.apart spansFirst behind).symm

/-- Up to the distance of the infinite past from a multiple of the length, an offset leaves no
    window to the stalled instants. -/
theorem separates_of_offset_le (small : f.offset ≤ Instant.min.millis % f.size.millis) :
    f.Separates α Instant.min.millis := by
  intro first second t u vs ws timedFirst timedSecond _ _ answered again
  -- the stretch of a stalled instant begins before all time, so that what is placed is not stalled
  have inside : ∀ {context : AssignContext α} {t : Instant} {ws : WindowSet},
      context.timestamp? = .ok t → f.toWindowFn.assign context = .ok ws →
        Instant.min.millis + f.offset ≤ t.millis := by
    intro context t ws timed answered
    obtain ⟨w, spans, -⟩ := (assign_eq_ok_iff timed).mp answered
    by_cases stalled : t.millis - f.offset ≤ Instant.min.millis
    · have start := spans.start
      rw [startAt_of_stalled stalled] at start
      have least := w.start.least_le
      rw [Instant.millis_min] at *
      omega
    · omega
  exact f.separates_inside timedFirst timedSecond (inside timedFirst answered)
    (inside timedSecond again) answered again

/-- Up to the offset after the infinite past, the stretch of an instant moves with the instant. -/
theorem exists_startAt (f : FixedWindows) {d : Int} (least : 0 ≤ d) (greatest : d ≤ f.offset) :
    ∃ t : Instant, t.millis = Instant.min.millis + d ∧
      f.startAt t = Instant.min.millis + (d - Instant.min.millis % f.size.millis) := by
  have short := f.offset_lt
  have bounded := f.size.le_greatest
  have reached : (Instant.clamp (Instant.min.millis + d)).millis = Instant.min.millis + d := by
    rw [Instant.millis_min]
    exact Instant.millis_clamp_of_mem (by omega) (by omega)
  refine ⟨.clamp (Instant.min.millis + d), reached, ?_⟩
  rw [startAt_of_stalled (by rw [reached]; omega), reached]
  omega

/-- Where the windows of all instants are separate, so are any two stretches taken for them. -/
theorem Separates.equal_or_apart (separates : f.Separates α Instant.min.millis) {t u : Instant}
    {v w : Interval} (spansFirst : v.Spans (f.startAt t) f.size.millis)
    (spansSecond : w.Spans (f.startAt u) f.size.millis) : v = w ∨ v.Apart w := by
  have answered : f.toWindowFn.assign (.bundle (some t) : AssignContext α) =
      .ok (.single (.interval v)) := (assign_eq_ok_iff rfl).mpr ⟨v, spansFirst, rfl⟩
  have again : f.toWindowFn.assign (.bundle (some u) : AssignContext α) =
      .ok (.single (.interval w)) := (assign_eq_ok_iff rfl).mpr ⟨w, spansSecond, rfl⟩
  obtain ⟨v', w', sameFirst, sameSecond, cases⟩ :=
    separates rfl rfl t.least_le u.least_le answered again
  simp only [WindowSet.ext_iff, WindowSet.windows_single, List.cons.injEq, Window.interval.injEq,
    and_true] at sameFirst sameSecond
  rw [sameFirst, sameSecond]
  exact cases

/-- With a greater offset, the window of the first stalled instant that has one reaches into the
    window of the first instant that is not stalled. -/
theorem not_separates_of_lt_offset (great : Instant.min.millis % f.size.millis < f.offset) :
    ¬ f.Separates α Instant.min.millis := by
  intro separates
  have pos := f.size.pos
  have short := f.offset_lt
  have bounded := f.size.le_greatest
  have rest := Int.emod_nonneg Instant.min.millis (by omega : f.size.millis ≠ 0)
  -- the first window begins at the infinite past itself, the second one less than a length later
  obtain ⟨t, -, stalled⟩ := f.exists_startAt rest (by omega)
  obtain ⟨u, -, inside⟩ := f.exists_startAt f.offset_nonneg (Int.le_refl _)
  obtain ⟨v, spansFirst⟩ : ∃ v : Interval, v.Spans (f.startAt t) f.size.millis := by
    rw [Interval.exists_spans_iff pos, stalled, Instant.millis_min, Instant.millis_max]
    omega
  obtain ⟨w, spansSecond⟩ : ∃ w : Interval, w.Spans (f.startAt u) f.size.millis := by
    rw [Interval.exists_spans_iff pos, inside, Instant.millis_min, Instant.millis_max]
    rw [Instant.millis_min] at *
    omega
  rcases separates.equal_or_apart spansFirst spansSecond with rfl | apart
  · have begins := spansFirst.start.symm.trans spansSecond.start
    omega
  · exact spansFirst.not_apart spansSecond (by omega) (by omega) apart

/-- **Windows overlap only next to the infinite past**: from the offset after the infinite past on,
    two windows that are assigned are equal or have no instant in common.  This holds of all
    instants exactly when the offset is no more than the infinite past lies behind a multiple of the
    length. -/
theorem separated_iff_offset_le {size : Span} (built : of? size = some f)
    (offset : Option Span) :
    (f.moved offset).Separates α (Instant.min.millis + drift size offset) ∧
      ((f.moved offset).Separates α Instant.min.millis ↔
        drift size offset ≤ Instant.min.millis % size.millis) := by
  rw [← offset_moved built offset, ← millis_of_of? built, ← size_moved f offset]
  refine ⟨separates_inside _, fun separates => ?_, separates_of_offset_le⟩
  exact Int.not_lt.mp fun great => not_separates_of_lt_offset great separates

/-- Ten-millisecond windows moved by 2 ms never overlap; moved by 7 ms, they do. -/
theorem separated_iff_offset_le_tens :
    of? (.ofMillis 10) = some tens ∧
      (tens.moved (some (.ofMillis 2))).Separates Unit Instant.min.millis ∧
      ¬ (tens.moved (some (.ofMillis 7))).Separates Unit Instant.min.millis := by
  have built : of? (.ofMillis 10) = some tens := rfl
  have small := (separated_iff_offset_le (α := Unit) built (some (.ofMillis 2))).2
  have great := (separated_iff_offset_le (α := Unit) built (some (.ofMillis 7))).2
  exact ⟨built, small.mpr (by decide), fun separates => absurd (great.mp separates) (by decide)⟩

/-- Moved by 7 ms, the instants 2 ms and 3 ms after the infinite past are given different windows,
    and both hold the later one. -/
theorem stalled_windows_overlap :
    of? (.ofMillis 10) = some tens ∧
      ∃ v w : Interval,
        (tens.moved (some (.ofMillis 7))).toWindowFn.assign (early 2) =
          .ok (.single (.interval v)) ∧
        (tens.moved (some (.ofMillis 7))).toWindowFn.assign (early 3) =
          .ok (.single (.interval w)) ∧
        v ≠ w ∧ ¬ v.Apart w := by
  let v : Interval := ⟨.min, .clamp (-9223372036854775798), by decide⟩
  let w : Interval := ⟨.clamp (-9223372036854775807), .clamp (-9223372036854775797), by decide⟩
  refine ⟨rfl, v, w, rfl, rfl, by decide, ?_⟩
  intro apart
  exact apart (.clamp (-9223372036854775805)) ⟨by decide, by decide⟩

end FixedWindows

end BundleRunner
