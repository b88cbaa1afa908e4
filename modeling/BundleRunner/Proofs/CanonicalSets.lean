import BundleRunner.Proofs.Interruption
import Mathlib.Data.Finset.Card

namespace BundleRunner

/-!
# Canonical sets of windows

A set of windows is made from any list of them, in any order and with any repetitions.  What is made
depends on the members alone, and so does everything that is read off it: the order in which the
members are listed, their number, and the order of the invocations for a record in these windows.

* `Window.ends`, `Window.lt_iff_ends_lt` — the order of windows is that of their ends, and the whole
  of time, which has none, comes first;
* `WindowSet.ofList_eq_iff` — two lists make the same set exactly when they have the same members;
* `WindowSet.size_eq_card`, `WindowSet.only?_eq_some_iff_forall` — what is read off a set, by its
  members;
* `window_set_canonical` — all of it, for the set of any list.
-/

variable {α β σ : Type}

/-! ### The order of windows -/

namespace Window

/-- Where a window begins and where it ends; the whole of time has no ends. -/
def ends : Window → List Int
  | global => []
  | interval w => [w.start.millis, w.stop.millis]

/-- Windows are in the order of their ends, of which the first that differs counts. -/
theorem lt_iff_ends_lt {v w : Window} : v < w ↔ v.ends < w.ends := by
  cases v with
  | global =>
    cases w with
    | global => simp [ends]
    | interval w =>
      show True ↔ [] < [w.start.millis, w.stop.millis]
      exact iff_of_true trivial (List.nil_lt_cons _ _)
  | interval v =>
    cases w with
    | global => simp [ends]
    | interval w =>
      rw [interval_lt_interval, Instant.ext_iff, Instant.lt_def, Instant.lt_def]
      show _ ↔ [v.start.millis, v.stop.millis] < [w.start.millis, w.stop.millis]
      simp [List.cons_lt_cons_iff]

end Window

/-! ### Sets by their members -/

namespace WindowSet

variable {ws vs : List Window} {s t : WindowSet}

/-- The members of the set of a list are those of the list. -/
theorem mem_of_ofList (made : ofList ws = .ok s) (w : Window) : w ∈ s ↔ w ∈ ws := by
  rcases ofList_cases ws with ⟨t, same, members⟩ | ⟨-, refused⟩
  · obtain rfl : s = t := Except.ok.inj (made.symm.trans same)
    exact members w
  · exact absurd (made.symm.trans refused) (by simp)

/-- A list makes no set exactly when it has no members. -/
theorem ofList_eq_error_iff : ofList ws = .error .emptyWindowSet ↔ ws = [] := by
  constructor
  · intro refused
    rcases ofList_cases ws with ⟨t, made, -⟩ | ⟨empty, -⟩
    · exact absurd (made.symm.trans refused) (by simp)
    · exact empty
  · rintro rfl
    rfl

theorem exists_ofList (filled : ws ≠ []) : ∃ s, ofList ws = .ok s := by
  rcases ofList_cases ws with ⟨s, made, -⟩ | ⟨empty, -⟩
  · exact ⟨s, made⟩
  · exact absurd empty filled

/-- **Sets by their members.** Two lists make the same set exactly when they have the same members,
    whatever their order and their repetitions. -/
theorem ofList_eq_iff : ofList ws = ofList vs ↔ ∀ w, w ∈ ws ↔ w ∈ vs := by
  -- an empty list makes no set, and the other list has to be empty then as well
  by_cases empty : ws = []
  · subst empty
    rw [eq_comm, show ofList [] = .error .emptyWindowSet from rfl, ofList_eq_error_iff,
      List.eq_nil_iff_forall_not_mem]
    simp
  · obtain ⟨s, made⟩ := exists_ofList empty
    rw [made]
    constructor
    · intro same w
      rw [← mem_of_ofList made, ← mem_of_ofList same.symm]
    · intro same
      have filled : vs ≠ [] := by
        rintro rfl
        exact empty (List.eq_nil_iff_forall_not_mem.mpr fun w member =>
          absurd ((same w).mp member) (List.not_mem_nil))
      obtain ⟨t, made'⟩ := exists_ofList filled
      rw [made']
      -- a set is the sorted list of its members, so that these determine it
      have members : ∀ w, w ∈ s ↔ w ∈ t := fun w =>
        (mem_of_ofList made w).trans ((same w).trans (mem_of_ofList made' w).symm)
      rw [eq_of_mem_iff members]

/-- The windows of a set are listed strictly in the order of their ends. -/
theorem ends_ascend (s : WindowSet) : s.windows.Pairwise fun v w => v.ends < w.ends :=
  s.sorted.imp Window.lt_iff_ends_lt.mp

/-- The size of a set is the number of different members of the list. -/
theorem size_eq_card (made : ofList ws = .ok s) : s.size = ws.toFinset.card := by
  -- the windows of the set are all different, and so they are counted as they are
  have members : s.windows.toFinset = ws.toFinset := by
    ext w
    rw [List.mem_toFinset, List.mem_toFinset, ← mem_of_ofList made w, mem_def]
  rw [← members, List.toFinset_card_of_nodup s.nodup_windows, size]

/-- A window is the only one of a set when it is the only member. -/
theorem only?_eq_some_iff_forall {w : Window} : s.only? = some w ↔ ∀ v, v ∈ s ↔ v = w := by
  rw [only?_eq_some_iff]
  constructor
  · rintro rfl v
    exact mem_single
  · intro members
    apply eq_of_mem_iff
    intro v
    rw [members v, mem_single]

end WindowSet

/-! ### All of it -/

/-- **Sets of windows are canonical.** A list of windows makes a set unless it is empty, and two
    lists make the same set exactly when they have the same members.  The set lists the different
    members, each once and strictly in the order of their ends, and its size, its members and its
    only member are those of the list.  So the invocations for a record, one in each window, come in
    an order that does not depend on how the set of its windows was made. -/
theorem window_set_canonical (ws vs : List Window) :
    (WindowSet.ofList ws = .error .emptyWindowSet ↔ ws = []) ∧
    (WindowSet.ofList ws = WindowSet.ofList vs ↔ ∀ w, w ∈ ws ↔ w ∈ vs) ∧
    (ws ≠ [] → ∃ s, WindowSet.ofList ws = .ok s ∧
      (s.windows.Pairwise fun v w => v.ends < w.ends) ∧
      (∀ w, w ∈ s.windows ↔ w ∈ ws) ∧
      s.size = ws.toFinset.card ∧
      (∀ w, s.contains w = true ↔ w ∈ ws) ∧
      ∀ w, s.only? = some w ↔ ∀ v, v ∈ ws ↔ v = w) ∧
    ∀ s t, WindowSet.ofList ws = .ok s → WindowSet.ofList vs = .ok t →
      (∀ w, w ∈ ws ↔ w ∈ vs) → ∀ (session : Session α β σ) (x : α) (time : Instant),
        session.runner.plan.descriptor.granularity = .perWindow →
        (Stage.mk session (.process ⟨x, time, s⟩)).visits =
            (Stage.mk session (.process ⟨x, time, t⟩)).visits ∧
          (Stage.mk session (.process ⟨x, time, s⟩)).visits.map Visit.entrance <+:
            s.windows.map fun w => .process ⟨x, time, .single w⟩ := by
  refine ⟨WindowSet.ofList_eq_error_iff, WindowSet.ofList_eq_iff, ?_, ?_⟩
  · intro filled
    obtain ⟨s, made⟩ := WindowSet.exists_ofList filled
    have members := WindowSet.mem_of_ofList made
    refine ⟨s, made, s.ends_ascend, members, WindowSet.size_eq_card made, ?_, ?_⟩
    · intro w
      rw [s.contains_iff, members]
    · intro w
      rw [WindowSet.only?_eq_some_iff_forall]
      exact forall_congr' fun v => by rw [members]
  · intro s t made made' same session x time perWindow
    -- the two sets are one, and what is made of it is the same
    obtain rfl : s = t :=
      Except.ok.inj (made.symm.trans ((WindowSet.ofList_eq_iff.mpr same).trans made'))
    have inOrder := Stage.entrances_of_perWindow
      (rfl : (Stage.mk session (.process ⟨x, time, s⟩)).call = .process ⟨x, time, s⟩) perWindow
    exact ⟨rfl, inOrder⟩

/-! ### One set from two lists

Two intervals and the whole of time, once in disorder and with a repetition, and once from behind.
-/

namespace ThreeWindows

/-- From the epoch on. -/
def early : Interval := ⟨.epoch, .clamp 17, by decide⟩

/-- Inside the first, up to the same end. -/
def late : Interval := ⟨.clamp 5, .clamp 17, by decide⟩

/-- In disorder, with one of them twice. -/
def mixed : List Window := [.interval late, .global, .interval early, .interval late]

/-- From behind. -/
def backwards : List Window := [.interval late, .interval early, .global]

/-- Emits the element in each window. -/
def callback : Callback Nat Nat Unit :=
  { Callback.echo with descriptor := { Descriptor.plain with granularity := .perWindow } }

theorem mem_mixed_iff (w : Window) : w ∈ mixed ↔ w ∈ backwards := by
  simp only [mixed, backwards, List.mem_cons, List.not_mem_nil]
  tauto

end ThreeWindows

/-- Both lists make the set of three windows, and in a bundle that is started a record in them is
    processed in the whole of time first, and in the later interval last. -/
theorem window_set_canonical_threeWindows :
    ∃ s r session, WindowSet.ofList ThreeWindows.mixed = .ok s ∧
      WindowSet.ofList ThreeWindows.backwards = .ok s ∧
      s.windows = [.global, .interval ThreeWindows.early, .interval ThreeWindows.late] ∧
      s.size = ThreeWindows.mixed.toFinset.card ∧
      (Runner.build ThreeWindows.callback () (.ofMain .collecting) .default).outcome = .done r ∧
      session = ((Session.ofRunner r).performAll [.openBundle, .start]).1 ∧
      (Stage.mk session (.process ⟨7, .epoch, s⟩)).visits.length = 3 ∧
      (Stage.mk session (.process ⟨7, .epoch, s⟩)).visits.map Visit.entrance <+:
        s.windows.map fun w => .process ⟨7, .epoch, .single w⟩ := by
  obtain ⟨-, same, filled, runs⟩ :=
    @window_set_canonical Nat Nat Unit ThreeWindows.mixed ThreeWindows.backwards
  obtain ⟨s, made, -, -, size, -, -⟩ := filled (by decide)
  have made' := (same.mpr ThreeWindows.mem_mixed_iff).symm.trans made
  obtain rfl := Except.ok.inj (made.symm.trans rfl)
  exact ⟨_, _, _, made, made', rfl, size, rfl, rfl, rfl,
    (runs _ _ made made' ThreeWindows.mem_mixed_iff _ 7 .epoch rfl).2⟩

end BundleRunner
