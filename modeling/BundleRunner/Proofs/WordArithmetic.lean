import BundleRunner.Proofs.CanonicalSets
import BundleRunner.Proofs.FixedGrid
import BundleRunner.Proofs.SlidingGrid

namespace BundleRunner

/-!
# The arithmetic of windows on words

The library calculates with integers.  A machine has words of 64 bits, and of 128 bits for the whole
milliseconds of a span.  There, a difference can leave the range of the words, and a remainder by zero
is nothing at all; where neither is looked out for, the calculation breaks off.  This file tells the
arithmetic of windows in steps on words, on data that nothing is known of, and proves that it never
breaks off: what the steps rely on is established where the data is made.

* `Words.keep?`, `Words.sub?`, `Words.rem?` — steps that may have no result;
* `Words.Stretch`, `Words.Fixed`, `Words.Sliding` — intervals and window functions as bare words;
* `Words.Fixed.built_eq`, `Words.Sliding.of?_eq` — what is made of spans are the words of the
  library's window functions;
* `Words.Sliding.search_ends` — the search for sliding windows comes to an end;
* `Words.Fixed.follows`, `Words.Sliding.follows` — what is assigned on words is what the library
  assigns;
* `Words.sound_of_interval` — the last instant of an interval exists, and lies inside;
* `Words.window_arithmetic_never_breaks` — all of it, for any spans and any instants.

A result of `none` stands for a calculation that breaks off, or for a search that has not ended
within a number of steps.
-/

namespace Words

/-! ### Steps -/

/-- The numbers that a signed word holds. -/
def Fits (n : Int) : Prop := -9223372036854775808 ≤ n ∧ n ≤ 9223372036854775807

instance (n : Int) : Decidable (Fits n) := inferInstanceAs (Decidable (_ ∧ _))

/-- A number as a signed word, if it fits. -/
def keep? (n : Int) : Option Int := if Fits n then some n else none

/-- A number as an unsigned word of twice the length, if it fits. -/
def keepWide? (n : Nat) : Option Nat :=
  if n ≤ 340282366920938463463374607431768211455 then some n else none

/-- A difference, if it fits. -/
def sub? (a b : Int) : Option Int := keep? (a - b)

/-- The remainder that is not negative.  There is none by zero, nor of the least word by -1, whose
    quotient does not fit. -/
def rem? (a b : Int) : Option Int :=
  if b = 0 ∨ a = -9223372036854775808 ∧ b = -1 then none else some (a % b)

/-- The remainder of unsigned words. -/
def remWide? (a b : Nat) : Option Nat := if b = 0 then none else some (a % b)

/-- A sum that stops at the ends of the range. -/
def addUpTo (a b : Int) : Int :=
  Max.max (-9223372036854775808) (Min.min (a + b) 9223372036854775807)

/-- A difference that stops at the ends of the range. -/
def subDownTo (a b : Int) : Int := addUpTo a (-b)

theorem keep?_of_fits {n : Int} (fits : Fits n) : keep? n = some n := if_pos fits

theorem keep?_of_not_fits {n : Int} (big : ¬ Fits n) : keep? n = none := if_neg big

theorem fits_millis (t : Instant) : Fits t.millis := ⟨t.least_le, t.le_greatest⟩

/-- The numbers that fit are those of the instants. -/
theorem fits_iff {n : Int} : Fits n ↔ ∃ t, Instant.ofMillis? n = some t := by
  constructor
  · intro fits
    exact ⟨_, dif_pos fits⟩
  · rintro ⟨t, made⟩
    rw [← Instant.ofMillis?_eq_some_iff.mp made]
    exact fits_millis t

theorem keep?_eq (n : Int) : keep? n = (Instant.ofMillis? n).map Instant.millis := by
  by_cases fits : Fits n
  · obtain ⟨t, made⟩ := fits_iff.mp fits
    rw [keep?_of_fits fits, made, Option.map_some, Instant.ofMillis?_eq_some_iff.mp made]
  · have none : Instant.ofMillis? n = none := dif_neg fits
    rw [keep?_of_not_fits fits, none]
    rfl

theorem rem?_of_pos {a b : Int} (pos : 0 < b) : rem? a b = some (a % b) := by
  unfold rem?
  rw [if_neg (by omega)]

theorem addUpTo_eq (a b : Int) : addUpTo a b = (Instant.clamp (a + b)).millis := rfl

theorem subDownTo_eq (a b : Int) : subDownTo a b = (Instant.clamp (a - b)).millis := by
  rw [subDownTo, addUpTo_eq, Int.sub_eq_add_neg]

/-! ### Spans -/

/-- A span as it is kept: seconds in a word without a sign, and nanoseconds. -/
structure Duration where
  secs : Nat
  nanos : Nat
  secs_le : secs ≤ 18446744073709551615
  nanos_le : nanos ≤ 999999999

namespace Duration

/-- The span of a duration. -/
def span (d : Duration) : Span := .ofParts d.secs d.nanos

/-- The whole milliseconds of a duration. -/
def millis? (d : Duration) : Option Nat := do
  let whole ← keepWide? (d.secs * 1000)
  keepWide? (whole + d.nanos / 1000000)

/-- The milliseconds as a signed word, if they fit and are not zero. -/
def positive? (d : Duration) : Option (Option Int) := do
  let total ← d.millis?
  return (keep? total).filter fun n => 0 < n

theorem millis?_eq (d : Duration) : d.millis? = some d.span.millis := by
  have secs := d.secs_le
  have nanos := d.nanos_le
  have total : d.span.millis = d.secs * 1000 + d.nanos / 1000000 := by
    show (d.secs * 1000000000 + d.nanos) / 1000000 = _
    omega
  have whole : keepWide? (d.secs * 1000) = some (d.secs * 1000) := if_pos (by omega)
  rw [millis?, whole, Option.bind_eq_bind, Option.bind_some, total]
  exact if_pos (by omega)

theorem positive?_eq (d : Duration) :
    d.positive? = some ((Stride.ofSpan? d.span).map Stride.millis) := by
  rw [positive?, millis?_eq]
  show some ((keep? d.span.millis).filter fun n => 0 < n) = _
  -- a length is taken when the milliseconds are a positive word
  by_cases taken : 0 < (d.span.millis : Int) ∧ (d.span.millis : Int) ≤ 9223372036854775807
  · have fits : Fits (d.span.millis : Int) := ⟨by omega, taken.2⟩
    have stride : Stride.ofSpan? d.span = some ⟨d.span.millis, taken.1, taken.2⟩ := dif_pos taken
    rw [keep?_of_fits fits, stride, Option.filter_some, if_pos (decide_eq_true taken.1)]
    rfl
  · have none : Stride.ofSpan? d.span = none := dif_neg taken
    rw [none]
    by_cases fits : Fits (d.span.millis : Int)
    · -- a number that fits and is refused is zero
      have zero : ¬ 0 < (d.span.millis : Int) := fun pos => taken ⟨pos, fits.2⟩
      rw [keep?_of_fits fits, Option.filter_some, if_neg (by rwa [decide_eq_true_iff])]
      rfl
    · rw [keep?_of_not_fits fits]
      rfl

end Duration

/-! ### Intervals -/

/-- An interval as two words. -/
structure Stretch where
  start : Int
  stop : Int

namespace Stretch

/-- The interval between two words, if it is not empty. -/
def between? (start stop : Int) : Option Stretch :=
  if start < stop then some ⟨start, stop⟩ else none

/-- The last instant inside: nothing looks out for a difference that does not fit. -/
def last? (w : Stretch) : Option Int := sub? w.stop 1

/-- Whether a word lies inside. -/
def contains (w : Stretch) (t : Int) : Bool := decide (w.start ≤ t) && decide (t < w.stop)

/-- What is relied on: the interval is not empty, its last instant exists and lies inside, and what
    lies inside reaches from the start to it. -/
structure Sound (w : Stretch) : Prop where
  nonempty : w.start < w.stop
  last : ∃ last, w.last? = some last ∧ w.start ≤ last ∧ last < w.stop ∧
    ∀ t : Int, w.contains t = true ↔ w.start ≤ t ∧ t ≤ last

end Stretch

end Words

/-- The words of an interval. -/
def Interval.words (w : Interval) : Words.Stretch := ⟨w.start.millis, w.stop.millis⟩

namespace Words

theorem Stretch.between?_eq (start stop : Instant) :
    between? start.millis stop.millis = (Interval.of? start stop).map Interval.words := by
  unfold between? Interval.of?
  by_cases before : start < stop
  · rw [if_pos (Instant.lt_def.mp before), dif_pos before]
    rfl
  · rw [if_neg (fun less => before (Instant.lt_def.mpr less)), dif_neg before]
    rfl

/-- The last instant of an interval is one, and no word too small. -/
theorem Stretch.last?_words (w : Interval) : w.words.last? = some w.maxTimestamp.millis :=
  keep?_of_fits (fits_millis w.maxTimestamp)

theorem Stretch.contains_words (w : Interval) (t : Instant) :
    w.words.contains t.millis = w.contains t := rfl

/-- An interval of the library has what is relied on. -/
theorem sound_of_interval (w : Interval) : w.words.Sound := by
  have nonempty : w.start.millis < w.stop.millis := w.start_lt_stop
  have before : w.maxTimestamp.millis = w.stop.millis - 1 := rfl
  refine ⟨nonempty, w.maxTimestamp.millis, Stretch.last?_words w, ?_, ?_, ?_⟩
  · show w.start.millis ≤ _
    omega
  · show _ < w.stop.millis
    omega
  · intro t
    show (decide (w.start.millis ≤ t) && decide (t < w.stop.millis)) = true ↔ w.start.millis ≤ t ∧ _
    rw [Bool.and_eq_true, decide_eq_true_iff, decide_eq_true_iff]
    omega

/-- Words of intervals tell an answer: it is the set of the intervals, or a refusal if there are
    none. -/
def Tell (found : List Stretch) (answer : Except Fault WindowSet) : Prop :=
  ∃ ws : List Interval, found = ws.map Interval.words ∧
    answer = WindowSet.ofList (ws.map .interval)

/-- What intervals of the library are told by is sound. -/
theorem Tell.sound {found : List Stretch} {answer : Except Fault WindowSet}
    (told : Tell found answer) : ∀ w ∈ found, w.Sound := by
  obtain ⟨ws, rfl, -⟩ := told
  intro w member
  obtain ⟨v, -, rfl⟩ := List.mem_map.mp member
  exact sound_of_interval v

/-- A calculation on words follows the library when at every instant it gives one result, which
    tells the library's answer. -/
def Follows (Gives : Int → List Stretch → Prop) (windowsAt : Instant → Except Fault WindowSet) :
    Prop :=
  ∀ t : Instant, ∃ found, (∀ result, Gives t.millis result ↔ result = found) ∧
    Tell found (windowsAt t)

/-- All that is found by a calculation that follows the library is sound. -/
theorem Follows.sound {Gives : Int → List Stretch → Prop}
    {windowsAt : Instant → Except Fault WindowSet} (follows : Follows Gives windowsAt) (t : Instant)
    (result : List Stretch) (given : Gives t.millis result) : ∀ w ∈ result, w.Sound := by
  obtain ⟨found, only, told⟩ := follows t
  rw [(only result).mp given]
  exact told.sound

/-! ### Fixed windows -/

/-- Fixed windows as two words. -/
structure Fixed where
  size : Int
  offset : Int

namespace Fixed

/-- Windows of a length, from the epoch on; refused when the length is no positive word. -/
def of? (size : Duration) : Option (Option Fixed) := do
  let taken ← size.positive?
  return taken.map fun size => ⟨size, 0⟩

/-- The windows moved by an offset.  The remainder is turned into a signed word, or into `fallback`
    when it does not fit. -/
def withOffset (fallback : Int) (f : Fixed) (offset : Duration) : Option Fixed := do
  let total ← offset.millis?
  let rest ← remWide? total f.size.natAbs
  return { f with offset := (keep? rest).getD fallback }

/-- Windows of a length, moved by one offset after the other. -/
def built (fallback : Int) (size : Duration) (offsets : List Duration) : Option (Option Fixed) := do
  match ← of? size with
  | none => return none
  | some f => some <$> offsets.foldlM (withOffset fallback) f

/-- The window that is found for a word, if there is one. -/
def assign (f : Fixed) (t : Int) : Option (List Stretch) := do
  let past ← rem? (subDownTo t f.offset) f.size
  match sub? t past with
  | none => return []
  | some start => return (Stretch.between? start (addUpTo start f.size)).toList

/-- What is found for a word, if the calculation does not break off. -/
def Gives (f : Fixed) (t : Int) (found : List Stretch) : Prop := f.assign t = some found

end Fixed

end Words

/-- The words of fixed windows. -/
def FixedWindows.words (f : FixedWindows) : Words.Fixed := ⟨f.size.millis, f.offset⟩

namespace Words.Fixed

theorem of?_eq (size : Duration) :
    of? size = some ((FixedWindows.of? size.span).map FixedWindows.words) := by
  rw [of?, Duration.positive?_eq]
  show some (((Stride.ofSpan? size.span).map Stride.millis).map _) =
    some (((Stride.ofSpan? size.span).map FixedWindows.ofStride).map FixedWindows.words)
  rw [Option.map_map, Option.map_map]
  rfl

/-- The remainder is less than the length, and so it fits: the fallback is never used. -/
theorem withOffset_eq (fallback : Int) (f : FixedWindows) (offset : Duration) :
    withOffset fallback f.words offset = some (f.withOffset offset.span).words := by
  have pos := f.size.pos
  have greatest := f.size.le_greatest
  have least : 0 ≤ (offset.span.millis : Int) % f.size.millis := Int.emod_nonneg _ (by omega)
  have less : (offset.span.millis : Int) % f.size.millis < f.size.millis := Int.emod_lt_of_pos _ pos
  -- the words divide without a sign, the library with one: for a positive divisor it is the same
  have divisor : (f.size.millis.natAbs : Int) = f.size.millis := Int.natAbs_of_nonneg (by omega)
  have rest : remWide? offset.span.millis f.words.size.natAbs =
      some (offset.span.millis % f.size.millis.natAbs) :=
    if_neg (show ¬ f.size.millis.natAbs = 0 by omega)
  have kept : keep? ((offset.span.millis % f.size.millis.natAbs : Nat) : Int) =
      some ((offset.span.millis : Int) % f.size.millis) := by
    rw [Int.natCast_emod, divisor]
    exact keep?_of_fits ⟨by omega, by omega⟩
  rw [withOffset, Duration.millis?_eq, Option.bind_eq_bind, Option.bind_some, rest,
    Option.bind_some, kept]
  rfl

/-- Only the last offset counts. -/
theorem foldl_withOffset (f : FixedWindows) (offsets : List Span) :
    offsets.foldl FixedWindows.withOffset f = f.moved offsets.getLast? := by
  induction offsets generalizing f with
  | nil => rfl
  | cons d offsets ih =>
    rw [List.foldl_cons, ih]
    -- as soon as another offset follows, the one of this step is forgotten
    cases offsets with
    | nil => rfl
    | cons e offsets => rfl

theorem foldlM_withOffset (fallback : Int) (f : FixedWindows) (offsets : List Duration) :
    offsets.foldlM (withOffset fallback) f.words =
      some (f.moved (offsets.getLast?.map Duration.span)).words := by
  -- for all windows at once, since every step moves them
  have steps : ∀ g : FixedWindows, offsets.foldlM (withOffset fallback) g.words =
      some ((offsets.map Duration.span).foldl FixedWindows.withOffset g).words := by
    induction offsets with
    | nil => exact fun g => rfl
    | cons d offsets ih =>
      intro g
      rw [List.foldlM_cons, withOffset_eq]
      exact ih (g.withOffset d.span)
  rw [steps, foldl_withOffset, List.getLast?_map]

/-- **Fixed windows on words** are those of the library, moved by the last offset only. -/
theorem built_eq (fallback : Int) (size : Duration) (offsets : List Duration) :
    built fallback size offsets =
      some (((FixedWindows.of? size.span).map
        (·.moved (offsets.getLast?.map Duration.span))).map FixedWindows.words) := by
  rw [built, of?_eq]
  cases FixedWindows.of? size.span with
  | none => rfl
  | some f =>
    show some <$> offsets.foldlM (withOffset fallback) f.words = _
    rw [foldlM_withOffset]
    rfl

/-- **What fixed windows assign** on words is what they assign in the library. -/
theorem follows (f : FixedWindows) : Follows f.words.Gives f.windowsAt := by
  intro t
  -- a calculation without a search has one result at most
  suffices told : ∃ found, f.words.assign t.millis = some found ∧ Tell found (f.windowsAt t) by
    obtain ⟨found, assigned, told⟩ := told
    refine ⟨found, fun result => ?_, told⟩
    show f.words.assign t.millis = some result ↔ _
    rw [assigned, Option.some.injEq, eq_comm]
  have begins : rem? (subDownTo t.millis f.offset) f.size.millis =
      some ((Instant.clamp (t.millis - f.offset)).millis % f.size.millis) := by
    rw [rem?_of_pos f.size.pos, subDownTo_eq]
  have steps : f.words.assign t.millis =
      match sub? t.millis ((Instant.clamp (t.millis - f.offset)).millis % f.size.millis) with
      | none => some []
      | some start => some (Stretch.between? start (addUpTo start f.size.millis)).toList := by
    show (rem? (subDownTo t.millis f.offset) f.size.millis >>= _) = _
    rw [begins]
    rfl
  rw [steps, sub?, keep?_eq, FixedWindows.windowsAt, FixedWindows.windowAt]
  -- a start that is no word, and a window that is empty, are refused by both
  cases Instant.ofMillis?
      (t.millis - (Instant.clamp (t.millis - f.offset)).millis % f.size.millis) with
  | none => exact ⟨[], rfl, [], rfl, rfl⟩
  | some start =>
    simp only [Option.map_some, addUpTo_eq]
    rw [Stretch.between?_eq]
    cases Interval.of? start (.clamp (start.millis + f.size.millis)) with
    | none => exact ⟨[], rfl, [], rfl, rfl⟩
    | some w => exact ⟨[w.words], rfl, [w], rfl, rfl⟩

end Words.Fixed

namespace Words

/-! ### Sliding windows -/

/-- Sliding windows as two words. -/
structure Sliding where
  size : Int
  period : Int

namespace Sliding

/-- Windows of a length and a period; refused when either is no positive word. -/
def of? (size period : Duration) : Option (Option Sliding) := do
  match ← size.positive? with
  | none => return none
  | some size => return (← period.positive?).map fun period => ⟨size, period⟩

/-- The windows from a start and from the starts before it that are above a bound, if the search
    ends within a number of steps.  Nothing says that it ends. -/
def search (f : Sliding) (lower : Int) : Nat → Int → Option (List Stretch)
  | 0, _ => none
  | steps + 1, start =>
    if lower < start then
      let here := (Stretch.between? start (addUpTo start f.size)).toList
      match sub? start f.period with
      | none => some here
      | some before => do return here ++ (← f.search lower steps before)
    else some []

/-- The windows that are found for a word within a number of steps. -/
def assign (f : Sliding) (steps : Nat) (t : Int) : Option (List Stretch) := do
  let past ← rem? t f.period
  match sub? t past with
  | none => return []
  | some start => f.search (subDownTo t f.size) steps start

/-- What is found for a word, if the calculation neither breaks off nor goes on for ever. -/
def Gives (f : Sliding) (t : Int) (found : List Stretch) : Prop :=
  ∃ steps, f.assign steps t = some found

end Sliding

end Words

/-- The words of sliding windows. -/
def SlidingWindows.words (f : SlidingWindows) : Words.Sliding := ⟨f.size.millis, f.period.millis⟩

/-- The interval from a start, if it is not empty. -/
def SlidingWindows.stretchFrom? (f : SlidingWindows) (start : Instant) : Option Interval :=
  Interval.of? start (.clamp (start.millis + f.size.millis))

namespace Words.Sliding

/-- **Sliding windows on words** are those of the library. -/
theorem of?_eq (size period : Duration) :
    of? size period =
      some ((SlidingWindows.of? size.span period.span).map SlidingWindows.words) := by
  rw [of?, Duration.positive?_eq, Duration.positive?_eq, SlidingWindows.of?]
  cases Stride.ofSpan? size.span with
  | none => rfl
  | some size =>
    cases Stride.ofSpan? period.span with
    | none => rfl
    | some period => rfl

/-- The window from a start, as words. -/
theorem between?_start (f : SlidingWindows) (start : Instant) :
    (Stretch.between? start.millis (addUpTo start.millis f.words.size)).toList =
      ((f.stretchFrom? start).map Interval.words).toList := by
  show (Stretch.between? start.millis (Instant.clamp (start.millis + f.size.millis)).millis).toList =
    _
  rw [Stretch.between?_eq]
  rfl

/-- A search that goes on adds the window from its start to what it finds. -/
theorem filterMap_cons_toList (f : SlidingWindows) (start : Instant) (starts : List Instant) :
    ((start :: starts).filterMap f.stretchFrom?).map Interval.words =
      ((f.stretchFrom? start).map Interval.words).toList ++
        (starts.filterMap f.stretchFrom?).map Interval.words := by
  rw [List.filterMap_cons]
  cases f.stretchFrom? start with
  | none => rfl
  | some w => rfl

/-- A search that ends takes a step. -/
theorem exists_search_iff {f : Sliding} {lower start : Int} {result : List Stretch} :
    (∃ steps, f.search lower steps start = some result) ↔
      ∃ steps, f.search lower (steps + 1) start = some result := by
  constructor
  · rintro ⟨steps, found⟩
    cases steps with
    | zero => exact absurd found (by simp [search])
    | succ steps => exact ⟨steps, found⟩
  · rintro ⟨steps, found⟩
    exact ⟨steps + 1, found⟩

/-- **The search on words** comes to an end, and finds what is found in the library. -/
theorem search_ends (f : SlidingWindows) (lower : Int) (start : Instant) (result : List Stretch) :
    (∃ steps, f.words.search lower steps start.millis = some result) ↔
      result = ((f.startsAbove lower start).filterMap f.stretchFrom?).map Interval.words := by
  rw [exists_search_iff]
  -- by the course of the search in the library, which comes to an end
  fun_induction f.startsAbove lower start generalizing result with
  | case1 start high before goes ih =>
    -- first the window from here, and then what is found from the start before it
    have step : sub? start.millis f.words.period = some before.millis := by
      show keep? (start.millis - f.period.millis) = _
      rw [keep?_eq, goes]
      rfl
    have further : ∀ steps, f.words.search lower (steps + 1) start.millis =
        (f.words.search lower steps before.millis).map
          (((f.stretchFrom? start).map Interval.words).toList ++ ·) := by
      intro steps
      rw [search, if_pos high, step, between?_start]
      exact Option.map_eq_bind.symm
    simp only [further, Option.map_eq_some_iff]
    rw [filterMap_cons_toList]
    constructor
    · rintro ⟨steps, rest, found, rfl⟩
      rw [(ih rest).mp (exists_search_iff.mp ⟨steps, found⟩)]
    · rintro rfl
      obtain ⟨steps, found⟩ := (ih _).mpr rfl
      exact ⟨steps + 1, _, found, rfl⟩
  | case2 start high ends =>
    -- the start before is no word: the window from here is the last one
    have step : sub? start.millis f.words.period = none := by
      show keep? (start.millis - f.period.millis) = _
      rw [keep?_eq, ends]
      rfl
    have lowest : ∀ steps, f.words.search lower (steps + 1) start.millis =
        some ((f.stretchFrom? start).map Interval.words).toList := by
      intro steps
      rw [search, if_pos high, step, between?_start]
    simp only [lowest, filterMap_cons_toList, exists_const, Option.some.injEq]
    rw [List.filterMap_nil, List.map_nil, List.append_nil, eq_comm]
  | case3 start low =>
    have reached : ∀ steps, f.words.search lower (steps + 1) start.millis = some [] := by
      intro steps
      rw [search, if_neg low]
    simp only [reached, exists_const, Option.some.injEq]
    rw [List.filterMap_nil, List.map_nil, eq_comm]

/-- **What sliding windows assign** on words is what they assign in the library. -/
theorem follows (f : SlidingWindows) : Follows f.words.Gives f.windowsAt := by
  intro t
  have begun : ∀ steps, f.words.assign steps t.millis =
      match sub? t.millis (t.millis % f.period.millis) with
      | none => some []
      | some start => f.words.search (subDownTo t.millis f.size.millis) steps start := by
    intro steps
    show (rem? t.millis f.period.millis >>= _) = _
    rw [rem?_of_pos f.period.pos]
    rfl
  unfold Sliding.Gives
  simp only [begun, sub?, keep?_eq, SlidingWindows.windowsAt]
  cases Instant.ofMillis? (t.millis - t.millis % f.period.millis) with
  | none => exact ⟨[], fun result => by simp [eq_comm], [], rfl, rfl⟩
  | some last =>
    simp only [Option.map_some, subDownTo_eq]
    refine ⟨_, search_ends f _ last, _, rfl, ?_⟩
    -- the library lists the starts from the first one on, which makes the same set
    rw [WindowSet.ofList_eq_iff, List.map_filterMap]
    intro w
    rw [List.mem_filterMap, List.mem_filterMap]
    simp only [List.mem_reverse]
    rfl

end Words.Sliding

namespace Words

/-! ### All of it -/

/-- The library's fixed windows of a length, moved by the last of some offsets. -/
def fixedOf (size : Duration) (offsets : List Duration) : Option FixedWindows :=
  (FixedWindows.of? size.span).map (·.moved (offsets.getLast?.map Duration.span))

/-- **The arithmetic of windows never breaks off.** Fixed windows can be made of any span, and moved
    by any spans one after the other: whatever is kept for a remainder that does not fit, it is never
    used, the last offset alone counts, and it is less than the length.  Sliding windows can be made
    of any two spans, and their length and their period are positive words.  At every instant both
    find the intervals that the library assigns, by a search that ends.  The intervals that they
    find, and those that are made of two instants, are sound: they are not empty, and their last
    instant exists, lies inside, and bounds what lies inside. -/
theorem window_arithmetic_never_breaks :
    (∀ fallback (size : Duration) (offsets : List Duration),
      Fixed.built fallback size offsets =
        some ((fixedOf size offsets).map FixedWindows.words) ∧
      ∀ f, Fixed.built fallback size offsets = some (some f) →
        0 ≤ f.offset ∧ f.offset < f.size ∧ f.size ≤ 9223372036854775807 ∧
        (∃ g, fixedOf size offsets = some g ∧ Follows f.Gives g.windowsAt) ∧
        ∀ (t : Instant) found, f.Gives t.millis found → ∀ w ∈ found, w.Sound) ∧
    (∀ size period : Duration,
      Sliding.of? size period =
        some ((SlidingWindows.of? size.span period.span).map SlidingWindows.words) ∧
      ∀ f, Sliding.of? size period = some (some f) →
        1 ≤ f.size ∧ f.size ≤ 9223372036854775807 ∧
        1 ≤ f.period ∧ f.period ≤ 9223372036854775807 ∧
        (∃ g, SlidingWindows.of? size.span period.span = some g ∧
          Follows f.Gives g.windowsAt) ∧
        ∀ (t : Instant) found, f.Gives t.millis found → ∀ w ∈ found, w.Sound) ∧
    ∀ (start stop : Instant) w, Stretch.between? start.millis stop.millis = some w →
      w.Sound ∧ ∃ v, Interval.of? start stop = some v ∧
        w.last? = some v.maxTimestamp.millis ∧
        ∀ t : Instant, w.contains t.millis = v.contains t := by
  refine ⟨fun fallback size offsets => ⟨Fixed.built_eq fallback size offsets, ?_⟩,
    fun size period => ⟨Sliding.of?_eq size period, ?_⟩, ?_⟩
  · intro f built
    obtain ⟨g, made, rfl⟩ :=
      Option.map_eq_some_iff.mp (Option.some.inj ((Fixed.built_eq ..).symm.trans built))
    have follows := Fixed.follows g
    exact ⟨g.offset_nonneg, g.offset_lt, g.size.le_greatest, ⟨g, made, follows⟩, follows.sound⟩
  · intro f built
    obtain ⟨g, made, rfl⟩ :=
      Option.map_eq_some_iff.mp (Option.some.inj ((Sliding.of?_eq ..).symm.trans built))
    have follows := Sliding.follows g
    exact ⟨g.size.pos, g.size.le_greatest, g.period.pos, g.period.le_greatest, ⟨g, made, follows⟩,
      follows.sound⟩
  · intro start stop w made
    obtain ⟨v, same, rfl⟩ :=
      Option.map_eq_some_iff.mp ((Stretch.between?_eq start stop).symm.trans made)
    exact ⟨sound_of_interval v, v, same, Stretch.last?_words v, Stretch.contains_words v⟩

/-- The longest span. -/
def longest : Duration := ⟨18446744073709551615, 999999999, Nat.le_refl _, Nat.le_refl _⟩

/-- A span of ten seconds. -/
def tenSeconds : Duration := ⟨10, 0, by decide, by decide⟩

/-- The longest span that makes windows: a nanosecond more is a millisecond more. -/
def mostMillis : Duration := ⟨9223372036854775, 807999999, by decide, by decide⟩

/-- Windows of ten seconds that are moved by ten seconds and then by the longest span start 5.999 s
    after a multiple of ten seconds.  Neither these at the infinite future, nor the longest windows
    at the infinite past, nor the interval from the one to the other, break off. -/
theorem window_arithmetic_never_breaks_longest :
    (∃ f found, Fixed.built 0 tenSeconds [tenSeconds, longest] = some (some f) ∧ f.offset = 5999 ∧
      f.Gives Instant.max.millis found ∧ ∀ w ∈ found, w.Sound) ∧
    (∃ f found, Sliding.of? mostMillis tenSeconds = some (some f) ∧
      f.Gives Instant.min.millis found ∧ ∀ w ∈ found, w.Sound) ∧
    ∃ w, Stretch.between? Instant.min.millis Instant.max.millis = some w ∧ w.Sound := by
  obtain ⟨fixed, sliding, interval⟩ := window_arithmetic_never_breaks
  refine ⟨?_, ?_, ?_⟩
  · have built : Fixed.built 0 tenSeconds [tenSeconds, longest] = some (some ⟨10000, 5999⟩) :=
      (Fixed.built_eq ..).trans rfl
    obtain ⟨-, -, -, ⟨g, -, follows⟩, sound⟩ := (fixed 0 _ _).2 _ built
    obtain ⟨found, only, -⟩ := follows .max
    have given := (only found).mpr rfl
    exact ⟨_, found, built, rfl, given, sound _ _ given⟩
  · have built : Sliding.of? mostMillis tenSeconds =
        some (some ⟨9223372036854775807, 10000⟩) := (Sliding.of?_eq ..).trans rfl
    obtain ⟨-, -, -, -, ⟨g, -, follows⟩, sound⟩ := (sliding _ _).2 _ built
    obtain ⟨found, only, -⟩ := follows .min
    have given := (only found).mpr rfl
    exact ⟨_, found, built, given, sound _ _ given⟩
  · have made : Stretch.between? Instant.min.millis Instant.max.millis =
        some ⟨Instant.min.millis, Instant.max.millis⟩ := rfl
    exact ⟨_, made, (interval .min .max _ made).1⟩

end Words

end BundleRunner
