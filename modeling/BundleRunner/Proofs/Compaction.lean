import BundleRunner.Proofs.Sharding

namespace BundleRunner

/-!
# Compacted buffers

The combiner made from a reducing function keeps a buffer, and replaces the buffer by its reduction
whenever it grows past its size.  So a buffer holds values next to reductions of earlier values,
and a merge of buffers may hold several reductions, in the middle of what it holds.  This file
proves that none of this can be told from the result, if the function can reduce a list in parts.

* `Combiner.ReducesInParts` — a part of a list can be reduced before the list is;
* `Combiner.Interchangeable` — two lists can stand for each other inside any list to be reduced;
* `Combiner.compact_interchangeable` — a compacted buffer can stand for the buffer;
* `Combiner.fold_interchangeable`, `Combiner.gather_interchangeable` — hence a buffer can stand for
  all the values that went into it, and so can what a plan comes to;
* `Combiner.compaction_invisible` — the result is the reduction of all values, in order.

The invariant is not that the buffer reduces to the right value: that would not survive the next
value.  It is that the buffer can be replaced by the values inside any list.
-/

namespace Combiner

variable {τ : Type} {reduce : List τ → τ}

/-- A part of a list, unless it is empty, can be replaced by its reduction. -/
def ReducesInParts (reduce : List τ → τ) : Prop :=
  ∀ pre xs post, xs ≠ [] → reduce (pre ++ [reduce xs] ++ post) = reduce (pre ++ xs ++ post)

/-- Two lists come to the same inside any list. -/
def Interchangeable (reduce : List τ → τ) (xs ys : List τ) : Prop :=
  ∀ pre post, reduce (pre ++ xs ++ post) = reduce (pre ++ ys ++ post)

namespace Interchangeable

variable {xs ys zs xs' ys' : List τ}

theorem refl (xs : List τ) : Interchangeable reduce xs xs := fun _ _ => rfl

theorem trans (h : Interchangeable reduce xs ys) (h' : Interchangeable reduce ys zs) :
    Interchangeable reduce xs zs :=
  fun pre post => (h pre post).trans (h' pre post)

/-- On their own, such lists reduce to the same value. -/
theorem reduce_eq (h : Interchangeable reduce xs ys) : reduce xs = reduce ys := by
  simpa using h [] []

/-- Two lists can be replaced next to each other. -/
theorem append (h : Interchangeable reduce xs ys) (h' : Interchangeable reduce xs' ys') :
    Interchangeable reduce (xs ++ xs') (ys ++ ys') := by
  intro pre post
  calc reduce (pre ++ (xs ++ xs') ++ post)
      = reduce (pre ++ xs ++ (xs' ++ post)) := by simp only [List.append_assoc]
    _ = reduce (pre ++ ys ++ (xs' ++ post)) := h pre (xs' ++ post)
    _ = reduce ((pre ++ ys) ++ xs' ++ post) := by simp only [List.append_assoc]
    _ = reduce ((pre ++ ys) ++ ys' ++ post) := h' (pre ++ ys) post
    _ = reduce (pre ++ (ys ++ ys') ++ post) := by simp only [List.append_assoc]

/-- Any number of lists can be replaced next to each other. -/
theorem flatMap {ι : Type} {f g : ι → List τ} {parts : List ι}
    (h : ∀ part ∈ parts, Interchangeable reduce (f part) (g part)) :
    Interchangeable reduce (parts.flatMap f) (parts.flatMap g) := by
  induction parts with
  | nil => exact refl []
  | cons part parts ih =>
    obtain ⟨first, rest⟩ := List.forall_mem_cons.mp h
    rw [List.flatMap_cons, List.flatMap_cons]
    exact first.append (ih rest)

end Interchangeable

/-! ### The buffer stands for the values -/

/-- A compacted buffer can stand for the buffer.  What is reduced is never empty, because it has
    grown past the size of a buffer. -/
theorem compact_interchangeable (lawful : ReducesInParts reduce) (buffer : List τ) :
    Interchangeable reduce (compact reduce buffer) buffer := by
  by_cases large : bufferSize < buffer.length
  · have filled : buffer ≠ [] := by
      intro empty
      rw [empty] at large
      exact absurd large (Nat.not_lt_zero _)
    rw [compact_of_lt large]
    exact fun pre post => lawful pre buffer post filled
  · rw [compact_of_le (Nat.not_lt.mp large)]
    exact .refl buffer

/-- One more value keeps that a buffer can stand for what it has seen. -/
theorem add_interchangeable (lawful : ReducesInParts reduce) {buffer seen : List τ}
    (stands : Interchangeable reduce buffer seen) (x : τ) :
    Interchangeable reduce ((reducing reduce).add buffer x) (seen ++ [x]) :=
  (compact_interchangeable lawful (buffer ++ [x])).trans (stands.append (.refl [x]))

/-- A buffer can stand for the values that went into it. -/
theorem fold_interchangeable (lawful : ReducesInParts reduce) (inputs : List τ) :
    Interchangeable reduce ((reducing reduce).fold inputs) inputs := by
  -- by induction on the inputs: wherever the buffer came from, it stands for what it has seen
  have run : ∀ (inputs buffer seen : List τ), Interchangeable reduce buffer seen →
      Interchangeable reduce (inputs.foldl (reducing reduce).add buffer) (seen ++ inputs) := by
    intro inputs
    induction inputs with
    | nil =>
      intro buffer seen stands
      rw [List.append_nil]
      exact stands
    | cons x xs ih =>
      intro buffer seen stands
      have next := ih _ _ (add_interchangeable lawful stands x)
      rw [List.append_assoc] at next
      exact next
  exact run inputs [] [] (.refl [])

/-- What a plan comes to can stand for the values of its shards, in order. -/
theorem gather_interchangeable (lawful : ReducesInParts reduce) (plan : Merging τ) :
    Interchangeable reduce ((reducing reduce).gather plan) plan.shards.flatten := by
  induction plan with
  | shard inputs =>
    have values : (Merging.shard inputs).shards.flatten = inputs := by simp [Merging.shards]
    rw [gather_shard, values]
    exact fold_interchangeable lawful inputs
  | merge parts ih =>
    have merged : Interchangeable reduce (parts.flatMap (reducing reduce).gather)
        (parts.flatMap fun part => part.shards.flatten) :=
      .flatMap ih
    rw [gather_merge, Merging.flatten_shards_merge]
    rw [List.flatMap_def] at merged
    exact (compact_interchangeable lawful _).trans merged

/-! ### No trace of compaction -/

/-- **Compaction cannot be told.** If a function can reduce a list in parts, its combiner comes to
    the reduction of all values in order, through any shards and any merges that keep their order,
    and however often a buffer was reduced on the way. -/
theorem compaction_invisible (reduce : List τ → τ) (lawful : ReducesInParts reduce) :
    (∀ plan : Merging τ,
      (reducing reduce).output ((reducing reduce).gather plan) = reduce plan.shards.flatten) ∧
    ∀ inputs : List τ,
      (reducing reduce).output ((reducing reduce).fold inputs) = reduce inputs :=
  ⟨fun plan => (gather_interchangeable lawful plan).reduce_eq,
    fun inputs => (fold_interchangeable lawful inputs).reduce_eq⟩

/-- Lists are reduced to one list by joining them, which minds their order.  The buffer is reduced
    on the way of thirty lists, and is merged with an empty one and with one more list. -/
theorem compaction_invisible_flatten :
    ((reducing List.flatten).fold ((List.range 30).map fun n => [n])).length = 10 ∧
    (reducing List.flatten).output ((reducing List.flatten).gather
      (.merge [.shard ((List.range 30).map fun n => [n]), .shard [], .shard [[30]]])) =
      List.range 31 := by
  have lawful : ReducesInParts (List.flatten : List (List Nat) → List Nat) := by
    intro pre xs post _
    simp
  refine ⟨by decide +kernel, ((compaction_invisible List.flatten lawful).1 _).trans ?_⟩
  decide +kernel

end Combiner

end BundleRunner
