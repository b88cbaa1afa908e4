namespace BundleRunner

/-!
# Combiners

A combiner folds inputs into an accumulator, merges accumulators, and reads a result off one.

* `Combiner.fold` — the accumulator of a list of inputs;
* `Combiner.sum`, `Combiner.count`, `Combiner.max`, `Combiner.min` — combiners whose accumulator is
  the result itself;
* `Combiner.reducing` — the combiner made from a function that reduces a list of values to one;
  it keeps a buffer of values and reduces it whenever it grows past `bufferSize`.
-/

/-- A way to combine inputs of type `ι` into a result of type `ω`. -/
structure Combiner (ι ω : Type) : Type 1 where
  /-- What is kept of the inputs. -/
  Acc : Type
  /-- The accumulator of no input. -/
  create : Acc
  /-- Take one more input in. -/
  add : Acc → ι → Acc
  /-- One accumulator for what several have taken in. -/
  merge : List Acc → Acc
  /-- The result so far. -/
  output : Acc → ω

namespace Combiner

variable {ι ω τ : Type}

/-- The accumulator of a list of inputs, taken in one by one. -/
def fold (c : Combiner ι ω) (inputs : List ι) : c.Acc := inputs.foldl c.add c.create

@[simp] theorem fold_nil (c : Combiner ι ω) : c.fold [] = c.create := rfl

theorem fold_append_singleton (c : Combiner ι ω) (inputs : List ι) (x : ι) :
    c.fold (inputs ++ [x]) = c.add (c.fold inputs) x := by
  simp [fold]

/-- The sum of the inputs. -/
@[reducible] def sum [Add τ] [OfNat τ 0] : Combiner τ τ where
  Acc := τ
  create := 0
  add acc x := acc + x
  merge accs := accs.foldl (· + ·) 0
  output acc := acc

/-- The number of inputs. -/
@[reducible] def count : Combiner ι Nat where
  Acc := Nat
  create := 0
  add acc _ := acc + 1
  merge accs := accs.foldl (· + ·) 0
  output acc := acc

/-- The combiner that keeps one of its inputs, chosen pairwise; without inputs there is none. -/
@[reducible] def choosing (choose : τ → τ → τ) : Combiner τ (Option τ) where
  Acc := Option τ
  create := none
  add
    | none, x => some x
    | some current, x => some (choose current x)
  merge accs :=
    match accs.filterMap id with
    | [] => none
    | x :: xs => some (xs.foldl choose x)
  output acc := acc

/-- The greatest input. -/
@[reducible] def max [Max τ] : Combiner τ (Option τ) := choosing Max.max

/-- The least input. -/
@[reducible] def min [Min τ] : Combiner τ (Option τ) := choosing Min.min

/-- The greatest number of values that a buffer holds without being reduced. -/
def bufferSize : Nat := 20

/-- A buffer as it is kept: reduced to one value if it has grown past its size. -/
def compact (reduce : List τ → τ) (buffer : List τ) : List τ :=
  if bufferSize < buffer.length then [reduce buffer] else buffer

theorem compact_of_le {reduce : List τ → τ} {buffer : List τ} (h : buffer.length ≤ bufferSize) :
    compact reduce buffer = buffer := by
  simp [compact, Nat.not_lt.mpr h]

theorem compact_of_lt {reduce : List τ → τ} {buffer : List τ} (h : bufferSize < buffer.length) :
    compact reduce buffer = [reduce buffer] := by
  simp [compact, h]

/-- The combiner that buffers values and reduces them. -/
@[reducible] def reducing (reduce : List τ → τ) : Combiner τ τ where
  Acc := List τ
  create := []
  add buffer x := compact reduce (buffer ++ [x])
  merge buffers := compact reduce buffers.flatten
  output := reduce

end Combiner

end BundleRunner
