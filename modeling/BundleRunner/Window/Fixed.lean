import BundleRunner.Window.Function
import BundleRunner.Window.Stride

namespace BundleRunner

/-!
# Fixed windows

Time cut into stretches of one length.  The stretches start at the offset and at every multiple of
the length from there; the stretch that begins before the least instant does not exist, and the one
that runs past the greatest instant ends there.
-/

/-- Stretches of one length, of which one starts `offset` milliseconds after the epoch. -/
structure FixedWindows where
  size : Stride
  offset : Int
  offset_nonneg : 0 ≤ offset
  offset_lt : offset < size.millis

namespace FixedWindows

/-- Windows of the given length, from the epoch on. -/
def ofStride (size : Stride) : FixedWindows := ⟨size, 0, by omega, size.pos⟩

/-- Windows of the given length, from the epoch on; refused when the length is no stride. -/
def of? (size : Span) : Option FixedWindows := (Stride.ofSpan? size).map ofStride

/-- The same windows moved by `offset`, taken modulo their length. -/
def withOffset (f : FixedWindows) (offset : Span) : FixedWindows where
  size := f.size
  offset := (offset.millis : Int) % f.size.millis
  offset_nonneg := Int.emod_nonneg _ (by have := f.size.pos; omega)
  offset_lt := Int.emod_lt_of_pos _ f.size.pos

@[simp] theorem size_withOffset (f : FixedWindows) (d : Span) : (f.withOffset d).size = f.size :=
  rfl

@[simp] theorem offset_withOffset (f : FixedWindows) (d : Span) :
    (f.withOffset d).offset = (d.millis : Int) % f.size.millis := rfl

/-- The window of an instant.  The distance from the last start is measured from the instant less
    the offset, stopped at the infinite past. -/
def windowAt (f : FixedWindows) (t : Instant) : Except Fault Window :=
  let past := (Instant.clamp (t.millis - f.offset)).millis % f.size.millis
  match Instant.ofMillis? (t.millis - past) with
  | none => .error .emptyWindowSet
  | some start =>
    match Interval.of? start (.clamp (start.millis + f.size.millis)) with
    | none => .error .emptyWindowSet
    | some stretch => .ok (.interval stretch)

/-- The one-member set of the window of an instant. -/
def windowsAt (f : FixedWindows) (t : Instant) : Except Fault WindowSet :=
  (f.windowAt t).map .single

/-- Fixed windows as a window function. -/
def toWindowFn {α : Type} (f : FixedWindows) : WindowFn α :=
  ⟨"fixed-windows", .byTimestamp f.windowsAt⟩

end FixedWindows

end BundleRunner
