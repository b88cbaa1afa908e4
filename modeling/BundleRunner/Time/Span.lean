import BundleRunner.Time.Instant

namespace BundleRunner

/-!
# Spans of time

A `Span` counts nanoseconds.  Event time has millisecond precision, so arithmetic on instants
uses the whole milliseconds of a span only, and never more than the signed 64-bit range holds:

* `Span.millis` — the whole milliseconds;
* `Span.shift` — the milliseconds by which the span moves an instant;
* `Instant.add`, `Instant.sub` — an instant moved by a span, stopping at the ends of time.
-/

/-- A length of time in nanoseconds. -/
@[ext] structure Span where
  nanos : Nat
deriving DecidableEq

namespace Span

/-- The empty span. -/
def zero : Span := ⟨0⟩

/-- A span of `n` milliseconds. -/
def ofMillis (n : Nat) : Span := ⟨n * 1000000⟩

/-- A span of `secs` seconds and `nanos` nanoseconds. -/
def ofParts (secs nanos : Nat) : Span := ⟨secs * 1000000000 + nanos⟩

/-- The whole milliseconds of a span. -/
def millis (d : Span) : Nat := d.nanos / 1000000

@[simp] theorem millis_ofMillis (n : Nat) : (ofMillis n).millis = n := by
  simp [millis, ofMillis]

@[simp] theorem millis_zero : zero.millis = 0 := rfl

/-- The milliseconds by which a span moves an instant: its whole milliseconds, or the greatest
    signed 64-bit number when it has more. -/
def shift (d : Span) : Int := Min.min (d.millis : Int) 9223372036854775807

theorem shift_nonneg (d : Span) : 0 ≤ d.shift := by
  simp only [shift]; omega

theorem shift_le_millis (d : Span) : d.shift ≤ d.millis := by
  simp only [shift]; omega

/-- A decimal number with the fraction `rest / 10 ^ places`, without trailing zeros. -/
def decimalText (whole rest places : Nat) : String :=
  let digits := Nat.toDigits 10 rest
  let padded := List.replicate (places - digits.length) '0' ++ digits
  let kept := (padded.reverse.dropWhile (· == '0')).reverse
  if kept.isEmpty then toString whole else toString whole ++ "." ++ String.ofList kept

/-- The written form in the largest of the units s, ms, µs and ns that the span fills, with a
    decimal fraction where it does not fill a whole number of them. -/
def text (d : Span) : String :=
  if 1000000000 ≤ d.nanos then decimalText (d.nanos / 1000000000) (d.nanos % 1000000000) 9 ++ "s"
  else if 1000000 ≤ d.nanos then decimalText (d.nanos / 1000000) (d.nanos % 1000000) 6 ++ "ms"
  else if 1000 ≤ d.nanos then decimalText (d.nanos / 1000) (d.nanos % 1000) 3 ++ "µs"
  else toString d.nanos ++ "ns"

end Span

namespace Instant

/-- The instant `d` later, stopping at the infinite future. -/
def add (t : Instant) (d : Span) : Instant := clamp (t.millis + d.shift)

/-- The instant `d` earlier, stopping at the infinite past. -/
def sub (t : Instant) (d : Span) : Instant := clamp (t.millis - d.shift)

theorem millis_add (t : Instant) (d : Span) :
    (t.add d).millis = Min.min (t.millis + d.shift) 9223372036854775807 := by
  have := t.least_le
  have := d.shift_nonneg
  simp only [add, millis_clamp]; omega

theorem millis_sub (t : Instant) (d : Span) :
    (t.sub d).millis = Max.max (t.millis - d.shift) (-9223372036854775808) := by
  have := t.le_greatest
  have := d.shift_nonneg
  simp only [sub, millis_clamp]; omega

end Instant

end BundleRunner
