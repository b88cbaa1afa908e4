import BundleRunner.Proofs.Stretches

namespace BundleRunner

/-!
# The windows around an instant

Sliding windows of the length `s` begin at every multiple of a period `p`.  Those around an instant
`t` are found by a search, downwards from the last multiple that is not after `t`, to the first that
is no more than `t - s`.  The bound stops at the infinite past, and the search ends early where the
next multiple would lie before all time.

* `SlidingWindows.Searches` — the course of the search, step by step;
* `SlidingWindows.searches_startsAbove` — every search comes to an end;
* `SlidingWindows.Searches.mem_iff` — what it finds;
* `SlidingWindows.windowsAt_cases` — which windows an instant is given, and when there are none;
* `SlidingWindows.placed_in_windows_around` — away from the infinite past, these are all windows
  around the instant.
-/

variable {α : Type}

namespace SlidingWindows

variable {f : SlidingWindows} {lower : Int} {s start : Instant} {t : Instant}

/-- The search from `start` downwards has the given starts as its result. -/
inductive Searches (f : SlidingWindows) (lower : Int) : Instant → List Instant → Prop where
  /-- The start is not above the bound. -/
  | reached {start : Instant} (low : start.millis ≤ lower) : Searches f lower start []
  /-- The start is above the bound, and no instant lies a period before it. -/
  | lowest {start : Instant} (high : lower < start.millis)
      (ends : Instant.ofMillis? (start.millis - f.period.millis) = none) :
      Searches f lower start [start]
  /-- The start is above the bound, and the search goes on a period before it. -/
  | further {start before : Instant} {starts : List Instant} (high : lower < start.millis)
      (goes : Instant.ofMillis? (start.millis - f.period.millis) = some before)
      (rest : Searches f lower before starts) : Searches f lower start (start :: starts)

/-- A stretch from `b` on is looked for at the instant `t`: `b` is a multiple of the period, not
    after `t`, and above the bound of the search. -/
structure Reaches (f : SlidingWindows) (t : Instant) (b : Int) : Prop where
  multiple : f.period.millis ∣ b
  notAfter : b ≤ t.millis
  above : (Instant.clamp (t.millis - f.size.millis)).millis < b

/-- The window from the multiple `k` of the period `p` on holds `t`, and begins before the end of
    time. -/
def Holds (s p t k : Int) : Prop := k * p ≤ t ∧ t < k * p + s ∧ k * p < Instant.max.millis

/-! ## The search -/

/-- The search from every start comes to an end. -/
theorem searches_startsAbove (f : SlidingWindows) (lower : Int) (start : Instant) :
    f.Searches lower start (f.startsAbove lower start) := by
  fun_induction f.startsAbove lower start with
  | case1 start high before goes ih => exact .further high goes ih
  | case2 start high ends => exact .lowest high ends
  | case3 start low => exact .reached (by omega)

/-- A multiple of the period is not after an instant exactly when it is some periods before the
    last such multiple. -/
theorem le_iff_exists_periods {p b t : Int} (pos : 0 < p) (multiple : p ∣ b) :
    b ≤ t ↔ ∃ n : Nat, b + n * p = t - t % p := by
  obtain ⟨k, rfl⟩ := multiple
  -- the last multiple is that of the quotient, which counts the periods in between
  have cut := Int.emod_add_mul_ediv t p
  have rest := Int.emod_nonneg t (by omega : p ≠ 0)
  constructor
  · intro notAfter
    have counted : k ≤ t / p := (Int.le_ediv_iff_mul_le pos).mpr (by rwa [Int.mul_comm])
    refine ⟨(t / p - k).toNat, ?_⟩
    rw [Int.toNat_of_nonneg (by omega), Int.sub_mul, Int.mul_comm k p, Int.mul_comm (t / p) p]
    omega
  · rintro ⟨n, same⟩
    have back : 0 ≤ (n : Int) * p := Int.mul_nonneg (by omega) (by omega)
    omega

/-- What a search finds: the instants above the bound that are some periods before the start. -/
theorem Searches.mem_iff {starts : List Instant} (search : f.Searches lower start starts) :
    s ∈ starts ↔ lower < s.millis ∧ ∃ n : Nat, s.millis + n * f.period.millis = start.millis := by
  have pos := f.period.pos
  have back : ∀ n : Nat, 0 ≤ (n : Int) * f.period.millis := fun n =>
    Int.mul_nonneg (by omega) (by omega)
  have once : ∀ n : Nat, ((n + 1 : Nat) : Int) * f.period.millis =
      n * f.period.millis + f.period.millis := fun n => by
    rw [Int.natCast_add, Int.add_mul, Int.natCast_one, Int.one_mul]
  -- by the course of the search: each step accounts for its start, the rest for one period less
  induction search with
  | reached low =>
    simp only [List.not_mem_nil, false_iff]
    rintro ⟨high, n, same⟩
    have steps := back n
    omega
  | @lowest start high ends =>
    rw [List.mem_singleton]
    constructor
    · rintro rfl
      exact ⟨high, 0, by omega⟩
    · rintro ⟨-, n, same⟩
      cases n with
      | zero => exact Instant.ext (by omega)
      | succ n =>
        -- one period before the start is no instant, much less further on
        have before : Instant.ofMillis? (start.millis - f.period.millis) ≠ none := by
          have steps := back n
          have least := s.least_le
          have greatest := start.le_greatest
          rw [once] at same
          simp only [Instant.ofMillis?]
          rw [dif_pos (by omega)]
          simp
        exact absurd ends before
  | @further start before starts high goes rest ih =>
    have begins := Instant.ofMillis?_eq_some_iff.mp goes
    constructor
    · intro found
      rcases List.mem_cons.mp found with rfl | later
      · exact ⟨high, 0, by omega⟩
      · obtain ⟨above, n, same⟩ := ih.mp later
        exact ⟨above, n + 1, by rw [once]; omega⟩
    · rintro ⟨above, n, same⟩
      cases n with
      | zero => exact List.mem_cons.mpr (.inl (Instant.ext (by omega)))
      | succ n => exact List.mem_cons_of_mem _ (ih.mpr ⟨above, n, by rw [once] at same; omega⟩)

/-- The window from a start is its stretch. -/
theorem windowFrom?_eq_some_iff {w : Window} :
    f.windowFrom? start = some w ↔
      ∃ stretch : Interval, stretch.Spans start.millis f.size.millis ∧ w = .interval stretch := by
  simp only [windowFrom?, Option.map_eq_some_iff, Interval.of?_eq_some_iff_spans]
  constructor
  · rintro ⟨stretch, spans, rfl⟩
    exact ⟨stretch, spans, rfl⟩
  · rintro ⟨stretch, spans, rfl⟩
    exact ⟨stretch, spans, rfl⟩

/-! ## The windows of an instant -/

/-- A search from the last multiple of the period that is not after an instant finds the windows
    that are looked for at the instant. -/
theorem mem_found_iff {v : Window}
    (begins : Instant.ofMillis? (t.millis - t.millis % f.period.millis) = some start) :
    v ∈ ((f.startsAbove (Instant.clamp (t.millis - f.size.millis)).millis start).reverse.filterMap
        f.windowFrom?) ↔
      ∃ b, f.Reaches t b ∧ ∃ w : Interval, w.Spans b f.size.millis ∧ v = .interval w := by
  have pos := f.period.pos
  have startEq := Instant.ofMillis?_eq_some_iff.mp begins
  have found := fun s : Instant => (f.searches_startsAbove
    (Instant.clamp (t.millis - f.size.millis)).millis start).mem_iff (s := s)
  simp only [List.mem_filterMap, List.mem_reverse, windowFrom?_eq_some_iff]
  constructor
  · rintro ⟨s, visited, w, spans, rfl⟩
    obtain ⟨above, n, same⟩ := (found s).mp visited
    -- the search begins at a multiple of the period, and a step of it leads to the next
    have multiple : f.period.millis ∣ s.millis := by
      have whole : f.period.millis ∣ s.millis + n * f.period.millis := by
        rw [same, startEq]
        exact Int.dvd_self_sub_emod
      exact (Int.dvd_add_left (Int.dvd_mul_left ..)).mp whole
    have notAfter := (le_iff_exists_periods pos multiple).mpr ⟨n, same.trans startEq⟩
    exact ⟨s.millis, ⟨multiple, notAfter, above⟩, w, spans, rfl⟩
  · rintro ⟨b, reaches, w, spans, rfl⟩
    obtain ⟨n, same⟩ := (le_iff_exists_periods pos reaches.multiple).mp reaches.notAfter
    have atStart := spans.start
    subst atStart
    exact ⟨w.start, (found w.start).mpr ⟨reaches.above, n, same.trans startEq.symm⟩, w, spans, rfl⟩

/-- When the last multiple of the period that is not after an instant lies before all time, no
    window is looked for. -/
theorem not_spans_of_reaches {b : Int} {w : Interval} (reaches : f.Reaches t b)
    (outside : Instant.ofMillis? (t.millis - t.millis % f.period.millis) = none) :
    ¬ w.Spans b f.size.millis := by
  intro spans
  have pos := f.period.pos
  obtain ⟨n, same⟩ := (le_iff_exists_periods pos reaches.multiple).mp reaches.notAfter
  have back : 0 ≤ (n : Int) * f.period.millis := Int.mul_nonneg (by omega) (by omega)
  have rest := Int.emod_nonneg t.millis (by omega : f.period.millis ≠ 0)
  have least := w.start.least_le
  have greatest := t.le_greatest
  have start := spans.start
  simp only [Instant.ofMillis?] at outside
  rw [dif_pos (by omega)] at outside
  exact absurd outside (by simp)

/-- An instant is given the windows that are looked for; there are none when there is no such
    window. -/
theorem windowsAt_cases (f : SlidingWindows) (t : Instant) :
    (∃ ws, f.windowsAt t = .ok ws ∧ ∀ v, v ∈ ws ↔
      ∃ b, f.Reaches t b ∧ ∃ w : Interval, w.Spans b f.size.millis ∧ v = .interval w) ∨
    f.windowsAt t = .error .emptyWindowSet ∧
      ∀ b, f.Reaches t b → ∀ w : Interval, ¬ w.Spans b f.size.millis := by
  cases begins : Instant.ofMillis? (t.millis - t.millis % f.period.millis) with
  | none =>
    refine .inr ⟨?_, fun b reaches w => not_spans_of_reaches reaches begins⟩
    rw [windowsAt, begins]
  | some last =>
    have found := fun v => mem_found_iff (v := v) begins
    simp only [windowsAt, begins]
    generalize (f.startsAbove _ last).reverse.filterMap f.windowFrom? = windows at found
    rcases WindowSet.ofList_cases windows with ⟨ws, answer, members⟩ | ⟨rfl, refused⟩
    · exact .inl ⟨ws, answer, fun v => (members v).trans (found v)⟩
    · refine .inr ⟨refused, fun b reaches w spans => ?_⟩
      have member := (found (.interval w)).mpr ⟨b, reaches, w, spans, rfl⟩
      exact absurd member (by simp)

/-! ## Away from the infinite past -/

theorem millis_of_of? {size period : Span} (built : of? size period = some f) :
    f.size.millis = size.millis ∧ f.period.millis = period.millis := by
  simp only [of?] at built
  split at built
  · rename_i takenSize takenPeriod
    cases built
    exact ⟨Stride.ofSpan?_eq_some_iff.mp takenSize, Stride.ofSpan?_eq_some_iff.mp takenPeriod⟩
  · exact absurd built (by simp)

/-- The instant less the length is where the search stops. -/
theorem millis_lower (inside : Instant.min.millis ≤ t.millis - f.size.millis) :
    (Instant.clamp (t.millis - f.size.millis)).millis = t.millis - f.size.millis := by
  have pos := f.size.pos
  have greatest := t.le_greatest
  exact Instant.millis_clamp_of_mem inside (by omega)

/-- The windows that are looked for are those that hold the instant. -/
theorem reaches_spans_iff (inside : Instant.min.millis ≤ t.millis - f.size.millis) {b : Int} :
    (f.Reaches t b ∧ ∃ w : Interval, w.Spans b f.size.millis) ↔
      ∃ k, Holds f.size.millis f.period.millis t.millis k ∧ b = k * f.period.millis := by
  have lower := millis_lower inside
  rw [Interval.exists_spans_iff f.size.pos]
  constructor
  · rintro ⟨reaches, -, early⟩
    obtain ⟨k, rfl⟩ := reaches.multiple
    have notAfter := reaches.notAfter
    have above := reaches.above
    rw [Int.mul_comm] at early notAfter above
    exact ⟨k, ⟨notAfter, by omega, early⟩, Int.mul_comm ..⟩
  · rintro ⟨k, ⟨notAfter, above, early⟩, rfl⟩
    exact ⟨⟨Int.dvd_mul_left .., notAfter, by omega⟩, by omega, early⟩

/-- There is no window exactly when none holds the instant. -/
theorem windowsAt_eq_error_iff (inside : Instant.min.millis ≤ t.millis - f.size.millis) :
    f.windowsAt t = .error .emptyWindowSet ↔
      ¬ ∃ k, Holds f.size.millis f.period.millis t.millis k := by
  rcases f.windowsAt_cases t with ⟨ws, placed, members⟩ | ⟨refused, none⟩
  · -- a set of windows has a member, which stems from a multiple of the period
    obtain ⟨v, member⟩ := List.exists_mem_of_ne_nil _ ws.nonempty
    obtain ⟨b, reaches, w, spans, -⟩ := (members v).mp member
    obtain ⟨k, holds, -⟩ := (reaches_spans_iff inside).mp ⟨reaches, w, spans⟩
    constructor
    · intro refused
      exact absurd (placed.symm.trans refused) (by simp)
    · intro noMultiple
      exact absurd ⟨k, holds⟩ noMultiple
  · refine ⟨fun _ => ?_, fun _ => refused⟩
    rintro ⟨k, holds⟩
    obtain ⟨reaches, w, spans⟩ := (reaches_spans_iff inside).mpr ⟨k, holds, rfl⟩
    exact none _ reaches w spans

/-- Where the last multiple of the period lies a length or more before the instant, no window holds
    it. -/
theorem not_holds_of_gap {s p t k : Int} (pos : 0 < p) (gap : s ≤ t % p) : ¬ Holds s p t k := by
  rintro ⟨notAfter, above, -⟩
  obtain ⟨n, same⟩ := (le_iff_exists_periods pos (Int.dvd_mul_left ..)).mp notAfter
  have back : 0 ≤ (n : Int) * p := Int.mul_nonneg (by omega) (by omega)
  omega

/-- **The windows are all those around the instant**: when the instant less the length `s` is an
    instant too, the search ends, and the record is placed into exactly the stretches from the
    multiples `k * p` of the period on that hold its timestamp and begin before the end of time.
    There is no window exactly when there is no such multiple, as in the gaps that a period longer
    than the length leaves. -/
theorem placed_in_windows_around {size period : Span} {context : AssignContext α}
    (built : of? size period = some f) (timed : context.timestamp? = .ok t)
    (inside : Instant.min.millis ≤ t.millis - size.millis) :
    (∀ last, Instant.ofMillis? (t.millis - t.millis % period.millis) = some last →
      ∃ starts, f.Searches (t.millis - size.millis) last starts ∧
        f.toWindowFn.assign context =
          WindowSet.ofList (starts.reverse.filterMap f.windowFrom?)) ∧
    ((∃ ws, f.toWindowFn.assign context = .ok ws ∧
        (∀ k, Holds size.millis period.millis t.millis k →
          ∃ w : Interval, w.Spans (k * period.millis) size.millis ∧ .interval w ∈ ws) ∧
        ∀ v ∈ ws, ∃ k, Holds size.millis period.millis t.millis k ∧
          ∃ w : Interval, w.Spans (k * period.millis) size.millis ∧ v = .interval w) ∨
      f.toWindowFn.assign context = .error .emptyWindowSet) ∧
    (f.toWindowFn.assign context = .error .emptyWindowSet ↔
      ¬ ∃ k, Holds size.millis period.millis t.millis k) ∧
    ((size.millis : Int) ≤ t.millis % period.millis →
      f.toWindowFn.assign context = .error .emptyWindowSet) := by
  obtain ⟨length, spacing⟩ := millis_of_of? built
  have answer : f.toWindowFn.assign context = f.windowsAt t := WindowRule.run_byTimestamp timed
  have pos := f.period.pos
  simp only [answer, ← length, ← spacing] at inside ⊢
  refine ⟨?_, ?_, windowsAt_eq_error_iff inside, ?_⟩
  · intro last begins
    rw [← millis_lower inside]
    exact ⟨_, f.searches_startsAbove _ last, by rw [windowsAt, begins]⟩
  · rcases f.windowsAt_cases t with ⟨ws, placed, members⟩ | ⟨refused, -⟩
    · refine .inl ⟨ws, placed, ?_, ?_⟩
      · intro k holds
        obtain ⟨reaches, w, spans⟩ := (reaches_spans_iff inside).mpr ⟨k, holds, rfl⟩
        exact ⟨w, spans, (members _).mpr ⟨_, reaches, w, spans, rfl⟩⟩
      · intro v member
        obtain ⟨b, reaches, w, spans, rfl⟩ := (members v).mp member
        obtain ⟨k, holds, rfl⟩ := (reaches_spans_iff inside).mp ⟨reaches, w, spans⟩
        exact ⟨k, holds, w, spans, rfl⟩
    · exact .inr refused
  · intro gap
    exact (windowsAt_eq_error_iff inside).mpr fun ⟨k, holds⟩ => not_holds_of_gap pos gap holds

/-- Windows of eleven milliseconds, one every four. -/
def elevensByFour : SlidingWindows := ⟨⟨11, by decide, by decide⟩, ⟨4, by decide, by decide⟩⟩

/-- A record three milliseconds before the epoch, emitted outside element processing. -/
def beforeEpoch : AssignContext Unit := .bundle (some (.clamp (-3)))

/-- Three milliseconds before the epoch, the windows from -12, -8 and -4 hold a record. -/
theorem placed_in_windows_around_beforeEpoch :
    of? (.ofMillis 11) (.ofMillis 4) = some elevensByFour ∧
      beforeEpoch.timestamp? = .ok (.clamp (-3)) ∧
      ∃ ws, elevensByFour.toWindowFn.assign beforeEpoch = .ok ws ∧
        ∀ k, -3 ≤ k ∧ k ≤ -1 → ∃ w : Interval, w.Spans (k * 4) 11 ∧ .interval w ∈ ws := by
  have built : of? (.ofMillis 11) (.ofMillis 4) = some elevensByFour := rfl
  have timed : beforeEpoch.timestamp? = .ok (.clamp (-3)) := rfl
  have holds : ∀ k : Int, -3 ≤ k ∧ k ≤ -1 → Holds 11 4 (-3) k := by
    intro k near
    exact ⟨by omega, by omega, by rw [Instant.millis_max]; omega⟩
  obtain ⟨-, placed, error_iff, -⟩ := placed_in_windows_around built timed (by decide)
  rcases placed with ⟨ws, answer, complete, -⟩ | refused
  · exact ⟨built, timed, ws, answer, fun k near => complete k (holds k near)⟩
  · exact absurd ⟨-1, holds (-1) (by decide)⟩ (error_iff.mp refused)

end SlidingWindows

end BundleRunner
