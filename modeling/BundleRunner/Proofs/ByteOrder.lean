import Mathlib.Data.String.Basic

namespace BundleRunner.Text

/-!
# Texts by their bytes

Names are sorted by their characters.  In UTF-8 this is the order of their bytes as well, for texts
of any characters:

* `Text.utf8` — the bytes of a text;
* `Text.Below` — two codes differ at some place, so that what follows them does not matter;
* `Text.Ascends.continued` — a code that keeps the order keeps it with one more byte for six more
  bits;
* `Text.below_encode` — the code of a character stands below that of a later one;
* `Text.lt_iff_utf8_lt` — texts are in order exactly when their bytes are.
-/

/-- The bytes of a text in UTF-8. -/
def utf8 (s : String) : List UInt8 := s.toByteArray.data.toList

theorem utf8_eq (s : String) : utf8 s = s.toList.flatMap String.utf8EncodeChar := by
  have whole : utf8 (String.ofList s.toList) = s.toList.flatMap String.utf8EncodeChar := by
    show (String.ofList s.toList).toByteArray.data.toList = _
    rw [String.toByteArray_ofList, List.utf8Encode, List.toList_data_toByteArray]
  rwa [String.ofList_toList] at whole

/-! ### Codes that differ -/

/-- Whatever follows the two lists, the first comes before the second. -/
def Below (xs ys : List UInt8) : Prop := ∀ us vs, xs ++ us < ys ++ vs

variable {x y : UInt8} {xs ys : List UInt8}

theorem below_of_lt (h : x < y) (xs ys : List UInt8) : Below (x :: xs) (y :: ys) := by
  intro us vs
  show x :: (xs ++ us) < y :: (ys ++ vs)
  exact List.cons_lt_cons_iff.mpr (.inl h)

theorem Below.append (h : Below xs ys) (us vs : List UInt8) : Below (xs ++ us) (ys ++ vs) := by
  intro us' vs'
  rw [List.append_assoc, List.append_assoc]
  exact h (us ++ us') (vs ++ vs')

theorem Below.prepend (h : Below xs ys) (us : List UInt8) : Below (us ++ xs) (us ++ ys) := by
  intro us' vs'
  induction us with
  | nil => exact h us' vs'
  | cons u us ih => exact List.cons_lt_cons_iff.mpr (.inr ⟨rfl, ih⟩)

/-- Bytes are in the order of the numbers that they are made of. -/
theorem ofNat_lt_ofNat {v w : Nat} (h : v < w) (fits : w < 256) : UInt8.ofNat v < UInt8.ofNat w := by
  rw [UInt8.lt_iff_toNat_lt, UInt8.toNat_ofNat', UInt8.toNat_ofNat']
  omega

/-! ### Codes that keep the order -/

/-- The codes of the numbers below `bound` are in the order of the numbers. -/
def Ascends (bound : Nat) (code : Nat → List UInt8) : Prop :=
  ∀ ⦃v w⦄, v < w → w < bound → Below (code v) (code w)

/-- A first byte, marked by the number that its values begin from. -/
def leading (mark v : Nat) : List UInt8 := [UInt8.ofNat (v + mark)]

/-- A code for all but the last six bits, and one more byte for these. -/
def continued (code : Nat → List UInt8) (v : Nat) : List UInt8 :=
  code (v / 64) ++ [UInt8.ofNat (v % 64 + 128)]

theorem ascends_leading {mark bound : Nat} (fits : mark + bound ≤ 256) :
    Ascends bound (leading mark) := by
  intro v w less within
  exact below_of_lt (ofNat_lt_ofNat (by omega) (by omega)) [] []

theorem Ascends.continued {bound : Nat} {code : Nat → List UInt8} (h : Ascends bound code) :
    Ascends (64 * bound) (continued code) := by
  intro v w less within
  by_cases same : v / 64 = w / 64
  · -- the numbers differ in the last six bits only
    have last : Below [UInt8.ofNat (v % 64 + 128)] [UInt8.ofNat (w % 64 + 128)] :=
      below_of_lt (ofNat_lt_ofNat (by omega) (by omega)) [] []
    show Below (code (v / 64) ++ _) (code (w / 64) ++ _)
    rw [same]
    exact last.prepend _
  · have before : Below (code (v / 64)) (code (w / 64)) := h (by omega) (by omega)
    exact before.append _ _

/-! ### Characters -/

/-- The code of a character, by its number. -/
def encodeNumber (v : Nat) : List UInt8 :=
  if v ≤ 0x7f then leading 0 v
  else if v ≤ 0x7ff then continued (leading 0xc0) v
  else if v ≤ 0xffff then continued (continued (leading 0xe0)) v
  else continued (continued (continued (leading 0xf0))) v

theorem toNat_lt (c : Char) : c.toNat < 0x110000 := by
  rcases c.valid with low | high
  · exact Nat.lt_trans low (by decide)
  · exact high.2

theorem utf8EncodeChar_eq (c : Char) : String.utf8EncodeChar c = encodeNumber c.toNat := by
  have last := toNat_lt c
  have number : c.val.toNat = c.toNat := rfl
  simp only [String.utf8EncodeChar, number, encodeNumber, leading, continued, List.cons_append,
    List.nil_append, Nat.div_div_eq_div_mul, Nat.add_zero]
  -- a first byte has room for all the bits that are left to it
  split_ifs with one two three
  · rfl
  · rw [Nat.mod_eq_of_lt (by omega : c.toNat / 64 < 32)]
  · rw [Nat.mod_eq_of_lt (by omega : c.toNat / 4096 < 16)]
  · rw [Nat.mod_eq_of_lt (by omega : c.toNat / 262144 < 8)]

theorem ascends_encodeNumber : Ascends 0x110000 encodeNumber := by
  have one : Ascends 0x80 (leading 0) := ascends_leading (by decide)
  have leadsTwo : Ascends 0x20 (leading 0xc0) := ascends_leading (by decide)
  have two : Ascends 0x800 (continued (leading 0xc0)) := leadsTwo.continued
  have leadsThree : Ascends 0x10 (leading 0xe0) := ascends_leading (by decide)
  have three : Ascends 0x10000 (continued (continued (leading 0xe0))) :=
    leadsThree.continued.continued
  have leadsFour : Ascends 0x8 (leading 0xf0) := ascends_leading (by decide)
  have four : Ascends 0x200000 (continued (continued (continued (leading 0xf0)))) :=
    leadsFour.continued.continued.continued
  intro v w less within
  -- a longer code has a greater first byte; codes of one length keep the order
  have longer : ∀ {m n : Nat} (xs ys : List UInt8), m < n → n < 256 →
      Below (UInt8.ofNat m :: xs) (UInt8.ofNat n :: ys) := fun xs ys before fits =>
    below_of_lt (ofNat_lt_ofNat before fits) xs ys
  unfold encodeNumber
  by_cases v₁ : v ≤ 0x7f
  · rw [if_pos v₁]
    split_ifs with w₁ w₂ w₃
    · exact one less (by omega)
    · exact longer _ _ (by omega) (by omega)
    · exact longer _ _ (by omega) (by omega)
    · exact longer _ _ (by omega) (by omega)
  rw [if_neg v₁, if_neg (by omega : ¬ w ≤ 0x7f)]
  by_cases v₂ : v ≤ 0x7ff
  · rw [if_pos v₂]
    split_ifs with w₂ w₃
    · exact two less (by omega)
    · exact longer _ _ (by omega) (by omega)
    · exact longer _ _ (by omega) (by omega)
  rw [if_neg v₂, if_neg (by omega : ¬ w ≤ 0x7ff)]
  by_cases v₃ : v ≤ 0xffff
  · rw [if_pos v₃]
    split_ifs with w₃
    · exact three less (by omega)
    · exact longer _ _ (by omega) (by omega)
  · rw [if_neg v₃, if_neg (by omega : ¬ w ≤ 0xffff)]
    exact four less (by omega)

/-- The code of a character comes before that of a later character, whatever follows. -/
theorem below_encode {c d : Char} (h : c < d) :
    Below (String.utf8EncodeChar c) (String.utf8EncodeChar d) := by
  rw [utf8EncodeChar_eq, utf8EncodeChar_eq]
  exact ascends_encodeNumber h (toNat_lt d)

/-! ### Texts -/

theorem flatMap_encode_lt {cs ds : List Char} (h : cs < ds) :
    cs.flatMap String.utf8EncodeChar < ds.flatMap String.utf8EncodeChar := by
  induction cs generalizing ds with
  | nil =>
    cases ds with
    | nil => exact absurd h (List.lt_irrefl [])
    | cons d ds =>
      have filled : String.utf8EncodeChar d ≠ [] := String.utf8EncodeChar_ne_nil
      obtain ⟨x, xs, code⟩ := List.exists_cons_of_ne_nil filled
      rw [List.flatMap_nil, List.flatMap_cons, code]
      exact List.nil_lt_cons _ _
  | cons c cs ih =>
    cases ds with
    | nil => exact absurd h (List.not_lt_nil _)
    | cons d ds =>
      rw [List.flatMap_cons, List.flatMap_cons]
      rcases List.cons_lt_cons_iff.mp h with less | ⟨rfl, rest⟩
      · exact below_encode less _ _
      · exact List.append_left_lt (ih rest)

/-- **Texts by their bytes.** A text comes before another exactly when its bytes do. -/
theorem lt_iff_utf8_lt {s t : String} : s < t ↔ utf8 s < utf8 t := by
  have keeps : ∀ {s t : String}, s < t → utf8 s < utf8 t := by
    intro s t h
    rw [utf8_eq, utf8_eq]
    exact flatMap_encode_lt (String.lt_iff_toList_lt.mp h)
  constructor
  · exact keeps
  · intro h
    rcases lt_trichotomy s t with less | rfl | greater
    · exact less
    · exact absurd h (List.lt_irrefl _)
    · exact absurd (List.lt_trans h (keeps greater)) (List.lt_irrefl _)

end BundleRunner.Text
