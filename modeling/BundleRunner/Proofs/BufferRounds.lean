import BundleRunner.Aggregator.Combiner
import Mathlib.Data.List.Induction

namespace BundleRunner

/-!
# Rounds of a buffer

The combiner made from a reducing function fills a buffer and reduces it in rounds.  The buffer is
reduced when it has grown past its size, so it is one longer than its size then, and what it comes to
takes one place in the next round.  The first round therefore takes 21 inputs, and every later one
takes 20.  Functions that mind the order of what they reduce, or its length, can see all of this.

* `Combiner.foldM` — the inputs taken in by a function that has effects when it is called;
* `Combiner.reductions` — the lists that the function is called with, noted down by itself;
* `Combiner.carried`, `Combiner.round` — what every round begins with, and what it reduces;
* `Combiner.NotesRounds.add` — one more input keeps that the rounds so far were noted, and that the
  buffer holds what the last of them came to, and the inputs since;
* `Combiner.notesRounds_foldM` — hence this holds after any inputs;
* `Combiner.buffer_fills_in_rounds` — the length of the buffer, the number of rounds and their
  lengths, and what is in the buffer, for any function and any inputs.

No law of the function is used: it may be anything.
-/

namespace Combiner

variable {τ : Type} {m : Type → Type} [Monad m]

/-! ### A function that is seen when it is called -/

/-- A buffer as it is kept, by a function with effects. -/
def compactM (reduce : List τ → m τ) (buffer : List τ) : m (List τ) :=
  if bufferSize < buffer.length then (fun x => [x]) <$> reduce buffer else pure buffer

/-- One more input for a buffer, by a function with effects. -/
def addM (reduce : List τ → m τ) (buffer : List τ) (x : τ) : m (List τ) :=
  compactM reduce (buffer ++ [x])

/-- The buffer of a list of inputs, by a function with effects. -/
def foldM (reduce : List τ → m τ) (inputs : List τ) : m (List τ) :=
  inputs.foldlM (addM reduce) []

/-- The function that notes down what it is called with. -/
def noting (reduce : List τ → τ) (xs : List τ) : StateM (List (List τ)) τ := do
  modify (· ++ [xs])
  return reduce xs

/-- The lists that are reduced while inputs are taken in, in order. -/
def reductions (reduce : List τ → τ) (inputs : List τ) : List (List τ) :=
  ((foldM (noting reduce) inputs).run []).2

variable {reduce : List τ → τ}

/-- A buffer that has grown past its size is noted down. -/
theorem addM_noting (buffer : List τ) (x : τ) (notes : List (List τ)) :
    (addM (noting reduce) buffer x).run notes =
      ((reducing reduce).add buffer x,
        if bufferSize < (buffer ++ [x]).length then notes ++ [buffer ++ [x]] else notes) := by
  show (compactM (noting reduce) (buffer ++ [x])).run notes =
    (compact reduce (buffer ++ [x]), _)
  unfold compactM compact
  by_cases large : bufferSize < (buffer ++ [x]).length
  · rw [if_pos large, if_pos large, if_pos large]
    rfl
  · rw [if_neg large, if_neg large, if_neg large]
    rfl

/-- The inputs in two steps: all but the last, and the last. -/
theorem foldM_noting_append (inputs : List τ) (x : τ) :
    (foldM (noting reduce) (inputs ++ [x])).run [] =
      (addM (noting reduce) ((foldM (noting reduce) inputs).run []).1 x).run
        ((foldM (noting reduce) inputs).run []).2 := by
  unfold foldM
  rw [List.foldlM_append]
  rfl

/-- To note down what is reduced changes nothing of the buffer. -/
theorem foldM_noting_fst (inputs : List τ) :
    ((foldM (noting reduce) inputs).run []).1 = (reducing reduce).fold inputs := by
  induction inputs using List.reverseRecOn with
  | nil => rfl
  | append_singleton inputs x ih =>
    have folded := (reducing reduce).fold_append_singleton inputs x
    rw [foldM_noting_append, addM_noting, ih, folded]

/-! ### Rounds -/

/-- What the buffer begins with after `k` rounds: the first input, or what the last round came to.
    The inputs after the first are `xs`. -/
def carried (reduce : List τ → τ) (x : τ) (xs : List τ) : Nat → τ
  | 0 => x
  | k + 1 => reduce (carried reduce x xs k :: (xs.drop (bufferSize * k)).take bufferSize)

/-- What is reduced in the round `k`: what the buffer begins with, and as many inputs as the buffer
    has places. -/
def round (reduce : List τ → τ) (x : τ) (xs : List τ) (k : Nat) : List τ :=
  carried reduce x xs k :: (xs.drop (bufferSize * k)).take bufferSize

variable {x y : τ} {xs : List τ} {k : Nat}

theorem carried_succ : carried reduce x xs (k + 1) = reduce (round reduce x xs k) := rfl

/-- What a round begins with does not depend on the inputs that come after it. -/
theorem carried_append (early : bufferSize * k ≤ xs.length) (ys : List τ) :
    carried reduce x (xs ++ ys) k = carried reduce x xs k := by
  induction k with
  | zero => rfl
  | succ k ih =>
    rw [Nat.mul_succ] at early
    have begins := ih (by omega)
    have sameInputs : ((xs ++ ys).drop (bufferSize * k)).take bufferSize =
        (xs.drop (bufferSize * k)).take bufferSize := by
      rw [List.drop_append_of_le_length (by omega), List.take_append_of_le_length]
      rw [List.length_drop]
      omega
    rw [carried, begins, sameInputs]
    rfl

/-- A round is complete before the inputs that come after it. -/
theorem round_append (complete : bufferSize * (k + 1) ≤ xs.length) (ys : List τ) :
    round reduce x (xs ++ ys) k = round reduce x xs k := by
  rw [Nat.mul_succ] at complete
  rw [round, carried_append (by omega), List.drop_append_of_le_length (by omega),
    List.take_append_of_le_length]
  · rfl
  · rw [List.length_drop]
    omega

/-- A round that is complete reduces one value more than the size of the buffer. -/
theorem length_round (complete : bufferSize * (k + 1) ≤ xs.length) :
    (round reduce x xs k).length = bufferSize + 1 := by
  rw [Nat.mul_succ] at complete
  rw [round, List.length_cons, List.length_take, List.length_drop]
  omega

/-- The rounds so far were noted, and the buffer holds what the last of them came to, with the
    inputs since. -/
structure NotesRounds (reduce : List τ → τ) (x : τ) (xs buffer : List τ)
    (notes : List (List τ)) : Prop where
  noted : notes = (List.range (xs.length / bufferSize)).map (round reduce x xs)
  holds : buffer = carried reduce x xs (xs.length / bufferSize) ::
    xs.drop (bufferSize * (xs.length / bufferSize))

/-- The first input fills the first place, before any round. -/
theorem notesRounds_first (x : τ) : NotesRounds reduce x [] [x] [] where
  noted := by rw [List.length_nil, Nat.zero_div]; rfl
  holds := by rw [List.length_nil, Nat.zero_div]; rfl

/-- **One more input** completes the round, and the buffer is reduced, or it joins the inputs since
    the last. -/
theorem NotesRounds.add {buffer : List τ} {notes : List (List τ)}
    (h : NotesRounds reduce x xs buffer notes) (y : τ) :
    NotesRounds reduce x (xs ++ [y]) ((addM (noting reduce) buffer y).run notes).1
      ((addM (noting reduce) buffer y).run notes).2 := by
  obtain ⟨noted, holds⟩ := h
  have count : (xs ++ [y]).length = xs.length + 1 := by simp
  -- the inputs in complete rounds, and those since
  have cut : bufferSize * (xs.length / bufferSize) + xs.length % bufferSize = xs.length :=
    Nat.div_add_mod ..
  have begins : bufferSize * (xs.length / bufferSize) ≤ xs.length := by omega
  have since : xs.length % bufferSize < bufferSize := Nat.mod_lt _ (by decide)
  -- the buffer with the input, as it stands before it is reduced
  have grown : buffer ++ [y] = carried reduce x (xs ++ [y]) (xs.length / bufferSize) ::
      (xs ++ [y]).drop (bufferSize * (xs.length / bufferSize)) := by
    rw [holds, carried_append begins, List.drop_append_of_le_length begins, List.cons_append]
  have length : (buffer ++ [y]).length = xs.length % bufferSize + 2 := by
    rw [grown, List.length_cons, List.length_drop, count]
    omega
  -- the rounds before are complete, and the input does not change them
  have earlier : (List.range (xs.length / bufferSize)).map (round reduce x xs) =
      (List.range (xs.length / bufferSize)).map (round reduce x (xs ++ [y])) := by
    apply List.map_congr_left
    intro k member
    have before := List.mem_range.mp member
    have complete : bufferSize * (k + 1) ≤ xs.length :=
      Nat.le_trans (Nat.mul_le_mul_left _ before) begins
    exact (round_append complete [y]).symm
  rw [addM_noting]
  show NotesRounds reduce x (xs ++ [y]) (compact reduce (buffer ++ [y])) _
  by_cases full : xs.length % bufferSize + 1 = bufferSize
  · -- the input completes a round
    have large : bufferSize < (buffer ++ [y]).length := by omega
    have next : (xs ++ [y]).length / bufferSize = xs.length / bufferSize + 1 := by
      rw [count]
      unfold bufferSize at full ⊢
      omega
    have all : (xs ++ [y]).drop (bufferSize * (xs.length / bufferSize)) =
        ((xs ++ [y]).drop (bufferSize * (xs.length / bufferSize))).take bufferSize := by
      rw [List.take_of_length_le]
      rw [List.length_drop, count]
      omega
    have reduced : buffer ++ [y] = round reduce x (xs ++ [y]) (xs.length / bufferSize) := by
      rw [grown, round, ← all]
    rw [if_pos large, compact_of_lt large]
    constructor
    · rw [next, List.range_succ, List.map_append, ← earlier, ← noted, reduced]
      rfl
    · rw [next, carried_succ, ← reduced, List.drop_of_length_le]
      rw [count, Nat.mul_succ]
      omega
  · -- the round goes on
    have small : (buffer ++ [y]).length ≤ bufferSize := by omega
    have same : (xs ++ [y]).length / bufferSize = xs.length / bufferSize := by
      rw [count]
      unfold bufferSize at full since ⊢
      omega
    rw [if_neg (Nat.not_lt.mpr small), compact_of_le small]
    constructor
    · rw [same, ← earlier, noted]
    · rw [same, grown]

/-- **All inputs.** Whatever the function is, the rounds are noted and the buffer holds the rest. -/
theorem notesRounds_foldM (reduce : List τ → τ) (x : τ) (xs : List τ) :
    NotesRounds reduce x xs ((reducing reduce).fold (x :: xs)) (reductions reduce (x :: xs)) := by
  rw [← foldM_noting_fst, reductions]
  induction xs using List.reverseRecOn with
  | nil => exact notesRounds_first x
  | append_singleton xs y ih =>
    rw [← List.cons_append, foldM_noting_append]
    exact ih.add y

/-! ### Buffers of any inputs -/

/-- Every list that is reduced is one longer than the size of the buffer. -/
theorem length_of_mem_reductions {args : List τ} (member : args ∈ reductions reduce (x :: xs)) :
    args.length = bufferSize + 1 := by
  rw [(notesRounds_foldM reduce x xs).noted] at member
  obtain ⟨k, listed, rfl⟩ := List.mem_map.mp member
  have before := List.mem_range.mp listed
  have complete : bufferSize * (k + 1) ≤ xs.length :=
    Nat.le_trans (Nat.mul_le_mul_left _ before) (Nat.mul_div_le ..)
  exact length_round complete

/-- The buffer begins with what the last reduction came to, or with the first input if there was
    none. -/
theorem carried_eq_last :
    carried reduce x xs (xs.length / bufferSize) =
      (reductions reduce (x :: xs)).getLast?.elim x reduce := by
  rw [(notesRounds_foldM reduce x xs).noted]
  cases xs.length / bufferSize with
  | zero => rfl
  | succ k =>
    rw [List.range_succ, List.map_append, List.map_singleton, List.getLast?_concat]
    rfl

/-- A merge of buffers is kept like a buffer. -/
theorem length_compact_le (reduce : List τ → τ) (buffer : List τ) :
    (compact reduce buffer).length ≤ bufferSize := by
  by_cases large : bufferSize < buffer.length
  · rw [compact_of_lt large]
    show 1 ≤ bufferSize
    decide
  · rw [compact_of_le (Nat.not_lt.mp large)]
    exact Nat.not_lt.mp large

/-- **Rounds of a buffer.** Whatever the function is, and whatever the inputs are: after `n` of them,
    at least one, the buffer has `(n - 1) % 20 + 1` values, the function was called `(n - 1) / 20`
    times, each time with 21 values, and the buffer is what the last call came to, if there was one,
    followed by the inputs since.  A merge of any buffers has at most 20 values, and is these buffers
    in a row when they have no more. -/
theorem buffer_fills_in_rounds (reduce : List τ → τ) :
    (∀ inputs : List τ, 1 ≤ inputs.length →
      ((foldM (noting reduce) inputs).run []).1 = (reducing reduce).fold inputs ∧
      ((reducing reduce).fold inputs).length = (inputs.length - 1) % 20 + 1 ∧
      (reductions reduce inputs).length = (inputs.length - 1) / 20 ∧
      (∀ args ∈ reductions reduce inputs, args.length = 21) ∧
      (reducing reduce).fold inputs =
        (reductions reduce inputs).getLast?.elim inputs fun args =>
          reduce args :: inputs.drop (20 * (reductions reduce inputs).length + 1)) ∧
    ∀ buffers : List (List τ),
      ((reducing reduce).merge buffers).length ≤ 20 ∧
      (buffers.flatten.length ≤ 20 → (reducing reduce).merge buffers = buffers.flatten) := by
  constructor
  · intro inputs filled
    obtain ⟨x, xs, rfl⟩ := List.exists_cons_of_length_pos filled
    obtain ⟨noted, holds⟩ := notesRounds_foldM reduce x xs
    have count : (reductions reduce (x :: xs)).length = xs.length / bufferSize := by
      rw [noted, List.length_map, List.length_range]
    refine ⟨foldM_noting_fst (x :: xs), ?_, count, fun args => length_of_mem_reductions, ?_⟩
    · have cut : bufferSize * (xs.length / bufferSize) + xs.length % bufferSize = xs.length :=
        Nat.div_add_mod ..
      rw [holds, List.length_cons, List.length_drop]
      show _ = xs.length % bufferSize + 1
      omega
    · rw [holds, carried_eq_last, count]
      cases last : (reductions reduce (x :: xs)).getLast? with
      | none =>
        -- without a reduction, all inputs are still there
        have none := List.getLast?_eq_none_iff.mp last
        rw [none] at count
        rw [← count]
        rfl
      | some args => rfl
  · intro buffers
    exact ⟨length_compact_le reduce buffers.flatten, compact_of_le⟩

/-- A function that minds the first value and the number of values. -/
def headAndLength (xs : List Nat) : Nat := 100 * xs.headD 0 + xs.length

/-- Forty-five inputs are reduced twice, and the last four of them are kept as they are. -/
theorem buffer_fills_in_rounds_fortyFive :
    1 ≤ (List.range 45).length ∧
      ((reducing headAndLength).fold (List.range 45)).length = 5 ∧
      (reductions headAndLength (List.range 45)).length = 2 ∧
      (reducing headAndLength).fold (List.range 45) = [2121, 41, 42, 43, 44] ∧
      [[1, 2], [], [3]].flatten.length ≤ 20 ∧
      (reducing headAndLength).merge [[1, 2], [], [3]] = [1, 2, 3] := by
  have filled : 1 ≤ (List.range 45).length := by decide
  have few : [[1, 2], [], [3]].flatten.length ≤ 20 := by decide
  obtain ⟨-, length, calls, -, -⟩ := (buffer_fills_in_rounds headAndLength).1 _ filled
  exact ⟨filled, length, calls, by decide +kernel, few,
    ((buffer_fills_in_rounds headAndLength).2 [[1, 2], [], [3]]).2 few⟩

end Combiner

end BundleRunner
