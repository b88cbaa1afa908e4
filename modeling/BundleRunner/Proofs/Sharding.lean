import Mathlib.Order.MinMax
import BundleRunner.Aggregator.Combiner

namespace BundleRunner

/-!
# Inputs in shards

Inputs need not go into one accumulator.  They can be dealt out to several, which are merged
afterwards, and what is merged can be merged again.  This file proves that nobody can tell, as long
as the accumulators of a combiner add up: an accumulator then is the sum of the weights of its
inputs, and neither the order of the inputs nor the places where they are cut change a sum.

* `Merging` — which inputs are in a shard, and how the accumulators of shards are merged;
* `Combiner.gather` — the accumulator that a combiner comes to by such a plan;
* `Combiner.AddsUp` — the accumulators of a combiner add up;
* `Combiner.AddsUp.gather_eq` — the plan comes to the accumulator of all inputs in a row;
* `sharding_invisible` — the sums, the count, the greatest and the least input, however the inputs
  are permuted, cut and merged.

A shard without inputs weighs nothing, which is why it does no harm.
-/

/-- A plan to gather inputs: shards of them, and merges of what was gathered. -/
inductive Merging (ι : Type) where
  /-- An accumulator that takes inputs in, one by one. -/
  | shard (inputs : List ι)
  /-- A merge of accumulators, in order. -/
  | merge (parts : List (Merging ι))

namespace Merging

variable {ι : Type} {τ : Type}

mutual

/-- What a plan comes to, when it is known what shards and merges come to. -/
def eval (shard : List ι → τ) (merge : List τ → τ) : Merging ι → τ
  | .shard inputs => shard inputs
  | .merge parts => merge (evalAll shard merge parts)

/-- What several plans come to. -/
def evalAll (shard : List ι → τ) (merge : List τ → τ) : List (Merging ι) → List τ
  | [] => []
  | part :: parts => part.eval shard merge :: evalAll shard merge parts

end

/-- The shards of a plan, in order. -/
def shards (plan : Merging ι) : List (List ι) := plan.eval (fun inputs => [inputs]) List.flatten

theorem evalAll_eq (shard : List ι → τ) (merge : List τ → τ) (parts : List (Merging ι)) :
    evalAll shard merge parts = parts.map (eval shard merge) := by
  induction parts with
  | nil => simp only [evalAll, List.map_nil]
  | cons part parts ih => simp only [evalAll, ih, List.map_cons]

@[simp] theorem eval_shard (shard : List ι → τ) (merge : List τ → τ) (inputs : List ι) :
    (Merging.shard inputs).eval shard merge = shard inputs := by
  simp only [eval]

@[simp] theorem eval_merge (shard : List ι → τ) (merge : List τ → τ) (parts : List (Merging ι)) :
    (Merging.merge parts).eval shard merge = merge (parts.map (eval shard merge)) := by
  simp only [eval, evalAll_eq]

/-- What holds of shards, and of a merge when it holds of all its parts, holds of every plan. -/
@[elab_as_elim, induction_eliminator]
theorem induct {motive : Merging ι → Prop} (shard : ∀ inputs, motive (.shard inputs))
    (merge : ∀ parts, (∀ part ∈ parts, motive part) → motive (.merge parts)) (plan : Merging ι) :
    motive plan := by
  refine Merging.rec (motive_1 := motive) (motive_2 := fun parts => ∀ part ∈ parts, motive part)
    shard merge (by simp) ?_ plan
  intro first others head tail part member
  rcases List.mem_cons.mp member with rfl | later
  · exact head
  · exact tail part later

/-- The inputs of a merge are those of its parts, in order. -/
theorem flatten_shards_merge (parts : List (Merging ι)) :
    (merge parts).shards.flatten = parts.flatMap fun part => part.shards.flatten := by
  unfold shards
  rw [eval_merge, List.flatten_flatten, List.map_map, List.flatMap_def]
  rfl

end Merging

namespace Combiner

variable {ι ω τ : Type}

/-- The accumulator that a plan comes to. -/
def gather (c : Combiner ι ω) (plan : Merging ι) : c.Acc := plan.eval c.fold c.merge

@[simp] theorem gather_shard (c : Combiner ι ω) (inputs : List ι) :
    c.gather (.shard inputs) = c.fold inputs :=
  Merging.eval_shard ..

@[simp] theorem gather_merge (c : Combiner ι ω) (parts : List (Merging ι)) :
    c.gather (.merge parts) = c.merge (parts.map c.gather) :=
  Merging.eval_merge ..

/-! ### Accumulators that add up -/

/-- The accumulators of a combiner add up: there is an addition for which the accumulator of no
    input is neutral, an input is taken in by adding its weight, and a merge is a sum. -/
structure AddsUp (c : Combiner ι ω) (plus : c.Acc → c.Acc → c.Acc) (weight : ι → c.Acc) :
    Prop where
  comm : ∀ x y, plus x y = plus y x
  assoc : ∀ x y z, plus (plus x y) z = plus x (plus y z)
  neutral : ∀ x, plus x c.create = x
  add : ∀ acc input, c.add acc input = plus acc (weight input)
  merge : ∀ accs, c.merge accs = accs.foldl plus c.create

namespace AddsUp

variable {c : Combiner ι ω} {plus : c.Acc → c.Acc → c.Acc} {weight : ι → c.Acc}

/-- To take inputs in is to add what they come to on their own. -/
theorem foldl_add (h : c.AddsUp plus weight) (acc : c.Acc) (inputs : List ι) :
    inputs.foldl c.add acc = plus acc (c.fold inputs) := by
  induction inputs generalizing acc with
  | nil => exact (h.neutral acc).symm
  | cons x xs ih =>
    have own : c.fold (x :: xs) = plus (weight x) (c.fold xs) := by
      show xs.foldl c.add (c.add c.create x) = _
      rw [ih, h.add, h.comm c.create, h.neutral]
    calc (x :: xs).foldl c.add acc
        = plus (plus acc (weight x)) (c.fold xs) := by rw [List.foldl_cons, ih, h.add]
      _ = plus acc (c.fold (x :: xs)) := by rw [h.assoc, own]

/-- Inputs in two parts come to the sum of what the parts come to. -/
theorem fold_append (h : c.AddsUp plus weight) (xs ys : List ι) :
    c.fold (xs ++ ys) = plus (c.fold xs) (c.fold ys) := by
  have split : c.fold (xs ++ ys) = ys.foldl c.add (c.fold xs) := List.foldl_append
  rw [split, h.foldl_add]

/-- A merge of accumulators comes to what their inputs come to in a row. -/
theorem merge_fold (h : c.AddsUp plus weight) (parts : List (List ι)) :
    c.merge (parts.map c.fold) = c.fold parts.flatten := by
  -- by induction on the parts, whatever inputs were merged before
  have sum : ∀ xs : List ι, (parts.map c.fold).foldl plus (c.fold xs) =
      c.fold (xs ++ parts.flatten) := by
    induction parts with
    | nil => intro xs; simp
    | cons part parts ih =>
      intro xs
      rw [List.map_cons, List.foldl_cons, ← h.fold_append, ih, List.flatten_cons,
        List.append_assoc]
  rw [h.merge]
  exact sum []

/-- **Gathering.** A plan comes to the accumulator that takes all its inputs in, in a row. -/
theorem gather_eq (h : c.AddsUp plus weight) (plan : Merging ι) :
    c.gather plan = c.fold plan.shards.flatten := by
  induction plan with
  | shard inputs => simp [Merging.shards]
  | merge parts ih =>
    have each : parts.map c.gather = (parts.map fun part => part.shards.flatten).map c.fold := by
      rw [List.map_map]
      exact List.map_congr_left ih
    rw [gather_merge, each, h.merge_fold, Merging.flatten_shards_merge, List.flatMap_def]

/-- Inputs in another order come to the same. -/
theorem fold_perm (h : c.AddsUp plus weight) {xs ys : List ι} (same : xs.Perm ys) :
    c.fold xs = c.fold ys := by
  have swap : ∀ (acc : c.Acc) (x y : ι), c.add (c.add acc x) y = c.add (c.add acc y) x := by
    intro acc x y
    simp only [h.add]
    rw [h.assoc, h.comm (weight x), ← h.assoc]
  exact same.foldl_eq' (fun x _ y _ acc => swap acc x y) _

end AddsUp

/-- The sum of numbers adds up. -/
theorem addsUp_sum_int : (sum : Combiner Int Int).AddsUp (· + ·) id where
  comm := Int.add_comm
  assoc := Int.add_assoc
  neutral := Int.add_zero
  add _ _ := rfl
  merge _ := rfl

/-- The sum of numbers that are not negative adds up. -/
theorem addsUp_sum_nat : (sum : Combiner Nat Nat).AddsUp (· + ·) id where
  comm := Nat.add_comm
  assoc := Nat.add_assoc
  neutral := Nat.add_zero
  add _ _ := rfl
  merge _ := rfl

/-- The count adds up: every input weighs one. -/
theorem addsUp_count : (count : Combiner ι Nat).AddsUp (· + ·) (fun _ => 1) where
  comm := Nat.add_comm
  assoc := Nat.add_assoc
  neutral := Nat.add_zero
  add _ _ := rfl
  merge _ := rfl

/-! ### The greatest and the least input -/

/-- Of two choices the one chosen; where there is only one, there is nothing to choose. -/
def choice (choose : τ → τ → τ) : Option τ → Option τ → Option τ
  | none, y => y
  | x, none => x
  | some x, some y => some (choose x y)

/-- A merge of choices is a choice from all of them. -/
theorem merge_choosing (choose : τ → τ → τ) (accs : List (Option τ)) :
    (choosing choose).merge accs = accs.foldl (choice choose) none := by
  -- once there is a value, there is always one, and empty accumulators are passed over
  have chosen : ∀ (accs : List (Option τ)) (x : τ), accs.foldl (choice choose) (some x) =
      some ((accs.filterMap id).foldl choose x) := by
    intro accs
    induction accs with
    | nil => intro x; rfl
    | cons acc accs ih =>
      intro x
      cases acc with
      | none => exact ih x
      | some y => exact ih (choose x y)
  induction accs with
  | nil => rfl
  | cons acc accs ih =>
    cases acc with
    | none => exact ih
    | some y => exact (chosen accs y).symm

/-- A choice that does not mind the order of what it chooses from adds up. -/
theorem addsUp_choosing {choose : τ → τ → τ} (comm : ∀ x y, choose x y = choose y x)
    (assoc : ∀ x y z, choose (choose x y) z = choose x (choose y z)) :
    (choosing choose).AddsUp (choice choose) some where
  comm x y := by cases x <;> cases y <;> simp [choice, comm]
  assoc x y z := by cases x <;> cases y <;> cases z <;> simp [choice, assoc]
  neutral x := by cases x <;> rfl
  add acc input := by cases acc <;> rfl
  merge := merge_choosing choose

/-- Inputs in a row come to the one that is chosen from them. -/
theorem fold_choosing_cons (choose : τ → τ → τ) (x : τ) (xs : List τ) :
    (choosing choose).fold (x :: xs) = some (xs.foldl choose x) := by
  show xs.foldl (choosing choose).add (some x) = _
  induction xs generalizing x with
  | nil => rfl
  | cons y ys ih => exact ih (choose x y)

theorem fold_max [LinearOrder τ] (inputs : List τ) :
    (max : Combiner τ (Option τ)).fold inputs = inputs.max? := by
  cases inputs with
  | nil => rfl
  | cons x xs => rw [fold_choosing_cons, List.max?_cons']

theorem fold_min [LinearOrder τ] (inputs : List τ) :
    (min : Combiner τ (Option τ)).fold inputs = inputs.min? := by
  cases inputs with
  | nil => rfl
  | cons x xs => rw [fold_choosing_cons, List.min?_cons']

/-! ### No trace of the shards -/

/-- What a combiner gathers from shards of its inputs, in any order, by any plan, is what it has
    taken in when the inputs come one by one. -/
def Shardable (c : Combiner ι ω) : Prop :=
  ∀ (inputs : List ι) (plan : Merging ι), plan.shards.flatten.Perm inputs →
    c.output (c.gather plan) = c.output (c.fold inputs)

theorem AddsUp.shardable {c : Combiner ι ω} {plus : c.Acc → c.Acc → c.Acc} {weight : ι → c.Acc}
    (h : c.AddsUp plus weight) : c.Shardable := by
  intro inputs plan same
  rw [h.gather_eq, h.fold_perm same]

/-- **Shards cannot be told.** The sum, the count, the greatest and the least of inputs are the
    same when the inputs are permuted, cut into shards of which some may be empty, and merged in any
    way.  There is no greatest input and no least one exactly when there is no input at all. -/
theorem sharding_invisible :
    (sum : Combiner Int Int).Shardable ∧ (sum : Combiner Nat Nat).Shardable ∧
    (∀ ι : Type, (count : Combiner ι Nat).Shardable) ∧
    ∀ (τ : Type) [LinearOrder τ],
      (max : Combiner τ (Option τ)).Shardable ∧ (min : Combiner τ (Option τ)).Shardable ∧
      ∀ inputs : List τ,
        (max.output (max.fold inputs) = none ↔ inputs = []) ∧
        (min.output (min.fold inputs) = none ↔ inputs = []) ∧
        (∀ m, max.output (max.fold inputs) = some m ↔ m ∈ inputs ∧ ∀ x ∈ inputs, x ≤ m) ∧
        ∀ m, min.output (min.fold inputs) = some m ↔ m ∈ inputs ∧ ∀ x ∈ inputs, m ≤ x := by
  refine ⟨addsUp_sum_int.shardable, addsUp_sum_nat.shardable, fun ι => addsUp_count.shardable, ?_⟩
  intro τ order
  -- what the library knows of the greatest and the least of a list rests on these two classes
  have greatest : Std.LawfulOrderMax τ :=
    { max_le_iff := fun _ _ _ => max_le_iff, max_eq_or := max_choice }
  have least : Std.LawfulOrderMin τ :=
    { le_min_iff := fun _ _ _ => le_min_iff, min_eq_or := min_choice }
  refine ⟨(addsUp_choosing max_comm max_assoc).shardable,
    (addsUp_choosing min_comm min_assoc).shardable, fun inputs => ?_⟩
  show (max.fold inputs = none ↔ _) ∧ (min.fold inputs = none ↔ _) ∧
    (∀ m, max.fold inputs = some m ↔ _) ∧ ∀ m, min.fold inputs = some m ↔ _
  rw [fold_max, fold_min]
  exact ⟨List.max?_eq_none_iff, List.min?_eq_none_iff, fun m => List.max?_eq_some_iff,
    fun m => List.min?_eq_some_iff⟩

/-- Three numbers out of order, in shards that are merged with an empty one, by two merges. -/
theorem sharding_invisible_three :
    (max : Combiner Nat (Option Nat)).gather
      (.merge [.shard [], .merge [.shard [9], .shard [4, 7]]]) = some 9 ∧
    (min : Combiner Nat (Option Nat)).gather
      (.merge [.shard [], .merge [.shard [9], .shard [4, 7]]]) = some 4 := by
  have order : (Merging.merge
      [.shard [], .merge [.shard [9], .shard [4, 7]]]).shards.flatten.Perm [4, 7, 9] := by decide
  obtain ⟨greatest, least, -⟩ := sharding_invisible.2.2.2 Nat
  exact ⟨greatest [4, 7, 9] _ order, least [4, 7, 9] _ order⟩

end Combiner

end BundleRunner
