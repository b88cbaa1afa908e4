import BundleRunner.Window.Interval
import BundleRunner.Fault

namespace BundleRunner

/-!
# Sets of windows

A record lies in one window or more.  A `WindowSet` keeps its windows in strictly increasing order
and is never empty, so two sets with the same members are equal:

* `WindowSet.ofList` — the set of the members of a list, whatever their order and repetition;
* `WindowSet.only?` — the single member, when there is just one.
-/

/-- A non-empty set of windows, listed in strictly increasing order. -/
@[ext] structure WindowSet where
  windows : List Window
  sorted : windows.Pairwise (· < ·)
  nonempty : windows ≠ []
deriving DecidableEq

namespace WindowSet

/-- Put a window into its place in an increasing list, unless it is there already. -/
def place (w : Window) : List Window → List Window
  | [] => [w]
  | v :: vs => if w < v then w :: v :: vs else if w = v then v :: vs else v :: place w vs

@[simp] theorem mem_place {u w : Window} {vs : List Window} :
    u ∈ place w vs ↔ u = w ∨ u ∈ vs := by
  induction vs with
  | nil => simp [place]
  | cons v vs ih =>
    simp only [place]
    split
    · simp
    · split
      · rename_i h
        subst h
        simp
      · simp only [List.mem_cons, ih]
        exact ⟨fun h => by rcases h with h | h | h <;> simp [h],
          fun h => by rcases h with h | h | h <;> simp [h]⟩

theorem place_ne_nil (w : Window) (vs : List Window) : place w vs ≠ [] := by
  cases vs with
  | nil => simp [place]
  | cons v vs =>
    simp only [place]
    split
    · simp
    · split <;> simp

theorem pairwise_place {w : Window} {vs : List Window} (h : vs.Pairwise (· < ·)) :
    (place w vs).Pairwise (· < ·) := by
  induction vs with
  | nil => simp [place]
  | cons v vs ih =>
    have hv := (List.pairwise_cons.mp h).1
    have hvs := (List.pairwise_cons.mp h).2
    simp only [place]
    split
    · rename_i hwv
      refine List.pairwise_cons.mpr ⟨?_, h⟩
      intro u hu
      rcases List.mem_cons.mp hu with rfl | hu
      · exact hwv
      · exact Window.lt_trans hwv (hv u hu)
    · split
      · exact h
      · rename_i hlt hne
        refine List.pairwise_cons.mpr ⟨?_, ih hvs⟩
        intro u hu
        rcases mem_place.mp hu with rfl | hu
        · rcases Window.lt_trichotomy u v with h' | h' | h'
          · exact absurd h' hlt
          · exact absurd h' hne
          · exact h'
        · exact hv u hu

/-- The members of a list of windows in strictly increasing order. -/
def arrange (ws : List Window) : List Window := ws.foldr place []

@[simp] theorem mem_arrange {w : Window} {ws : List Window} : w ∈ arrange ws ↔ w ∈ ws := by
  induction ws with
  | nil => simp [arrange]
  | cons v vs ih =>
    have ih' : w ∈ List.foldr place [] vs ↔ w ∈ vs := ih
    simp [arrange, ih']

theorem pairwise_arrange (ws : List Window) : (arrange ws).Pairwise (· < ·) := by
  induction ws with
  | nil => simp [arrange]
  | cons v vs ih => exact pairwise_place ih

theorem arrange_ne_nil {ws : List Window} (h : ws ≠ []) : arrange ws ≠ [] := by
  cases ws with
  | nil => exact absurd rfl h
  | cons v vs => exact place_ne_nil v _

/-- The set that holds one window. -/
def single (w : Window) : WindowSet := ⟨[w], by simp, by simp⟩

@[simp] theorem windows_single (w : Window) : (single w).windows = [w] := rfl

/-- The set that holds the whole of time. -/
def global : WindowSet := single .global

instance : Inhabited WindowSet := ⟨global⟩

/-- The set of the members of a list; an empty list has none. -/
def ofList (ws : List Window) : Except Fault WindowSet :=
  if h : ws = [] then .error .emptyWindowSet
  else .ok ⟨arrange ws, pairwise_arrange ws, arrange_ne_nil h⟩

instance : Membership Window WindowSet := ⟨fun s w => w ∈ s.windows⟩

theorem mem_def {w : Window} {s : WindowSet} : w ∈ s ↔ w ∈ s.windows := Iff.rfl

/-- The set that holds one window has it as its only member. -/
@[simp] theorem mem_single {v w : Window} : v ∈ single w ↔ v = w := List.mem_singleton

/-- A set lists every member once. -/
theorem nodup_windows (s : WindowSet) : s.windows.Nodup := by
  apply s.sorted.imp
  rintro v w before rfl
  exact Window.lt_irrefl v before

/-- Two sets with the same members are equal: the order leaves no choice of the list. -/
theorem eq_of_mem_iff {s t : WindowSet} (same : ∀ w, w ∈ s ↔ w ∈ t) : s = t := by
  apply WindowSet.ext
  apply List.Perm.eq_of_pairwise _ s.sorted t.sorted
  · exact (List.perm_ext_iff_of_nodup s.nodup_windows t.nodup_windows).mpr same
  · intro v w _ _ before behind
    exact absurd (Window.lt_trans before behind) (Window.lt_irrefl v)

/-- The members of a list are a set, unless there are none. -/
theorem ofList_cases (ws : List Window) :
    (∃ s, ofList ws = .ok s ∧ ∀ w, w ∈ s ↔ w ∈ ws) ∨
      ws = [] ∧ ofList ws = .error .emptyWindowSet := by
  by_cases empty : ws = []
  · exact .inr ⟨empty, by rw [ofList, dif_pos empty]⟩
  · exact .inl ⟨_, by rw [ofList, dif_neg empty], fun _ => mem_arrange⟩

instance (w : Window) (s : WindowSet) : Decidable (w ∈ s) :=
  inferInstanceAs (Decidable (w ∈ s.windows))

/-- Whether a window is a member. -/
def contains (s : WindowSet) (w : Window) : Bool := s.windows.contains w

theorem contains_iff (s : WindowSet) (w : Window) : s.contains w = true ↔ w ∈ s :=
  List.contains_iff_mem

/-- The number of members, at least one. -/
def size (s : WindowSet) : Nat := s.windows.length

/-- Whether the set has no members; it always has one. -/
def isEmpty (s : WindowSet) : Bool := s.windows.isEmpty

theorem size_pos (s : WindowSet) : 0 < s.size := List.length_pos_iff.mpr s.nonempty

@[simp] theorem isEmpty_eq_false (s : WindowSet) : s.isEmpty = false := by
  simp [isEmpty, s.nonempty]

/-- The single member, when there is just one. -/
def only? (s : WindowSet) : Option Window :=
  match s.windows with
  | [w] => some w
  | _ => none

@[simp] theorem only?_single (w : Window) : (single w).only? = some w := rfl

theorem only?_eq_some_iff {s : WindowSet} {w : Window} : s.only? = some w ↔ s = single w := by
  constructor
  · intro h
    simp only [only?] at h
    split at h
    · rename_i v hv
      cases Option.some.inj h
      exact WindowSet.ext hv
    · exact absurd h (by simp)
  · rintro rfl
    rfl

end WindowSet

end BundleRunner
