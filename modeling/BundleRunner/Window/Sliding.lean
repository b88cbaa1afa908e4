import BundleRunner.Window.Function
import BundleRunner.Window.Stride

namespace BundleRunner

/-!
# Sliding windows

Stretches of one length that start at every multiple of a period, so that they overlap when the
period is shorter than the length, and leave gaps when it is longer.
-/

/-- Stretches of the length `size`, one from every multiple of `period`. -/
structure SlidingWindows where
  size : Stride
  period : Stride

namespace SlidingWindows

/-- Windows of the given length and period; refused when either is no stride. -/
def of? (size period : Span) : Option SlidingWindows :=
  match Stride.ofSpan? size, Stride.ofSpan? period with
  | some size, some period => some ⟨size, period⟩
  | _, _ => none

/-- The starts from `start` downwards, a period apart, that lie above `lower`; the list ends early
    where the next start would leave the range of instants. -/
def startsAbove (f : SlidingWindows) (lower : Int) (start : Instant) : List Instant :=
  if _h : lower < start.millis then
    match _hn : Instant.ofMillis? (start.millis - f.period.millis) with
    | some next => start :: f.startsAbove lower next
    | none => [start]
  else []
termination_by (start.millis - lower).toNat
decreasing_by
  have := f.period.pos
  have := Instant.ofMillis?_eq_some_iff.mp _hn
  omega

/-- The window from a start, if it is not empty. -/
def windowFrom? (f : SlidingWindows) (start : Instant) : Option Window :=
  (Interval.of? start (.clamp (start.millis + f.size.millis))).map .interval

/-- The windows that hold an instant: those with a start no later than the instant and above the
    instant less the length, stopped at the infinite past. -/
def windowsAt (f : SlidingWindows) (t : Instant) : Except Fault WindowSet :=
  match Instant.ofMillis? (t.millis - t.millis % f.period.millis) with
  | none => .error .emptyWindowSet
  | some last =>
    let lower := (Instant.clamp (t.millis - f.size.millis)).millis
    WindowSet.ofList ((f.startsAbove lower last).reverse.filterMap f.windowFrom?)

/-- Sliding windows as a window function. -/
def toWindowFn {α : Type} (f : SlidingWindows) : WindowFn α :=
  ⟨"sliding-windows", .byTimestamp f.windowsAt⟩

end SlidingWindows

end BundleRunner
