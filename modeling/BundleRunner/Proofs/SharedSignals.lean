import BundleRunner.Describe
import BundleRunner.Proofs.Interruption
import Mathlib.Logic.Relation

namespace BundleRunner

/-!
# Signals and their copies

Interrupt signals are made, copied, raised and cleared in any order, and copies may be copied again.
The collection itself knows nothing of families: it has positions, and pairs of cells behind them.
This file tells families by the steps alone, and proves that the cells follow them:

* `Signals.Family` — the signals that copying connects, in whatever direction;
* `Signals.Layout` — the invariant of the cells: a family shares both its cells, and with no other;
* `Signals.Latest` — the latest action on any member of a family;
* `Signals.state_of_latest` — a signal is in the state that this action leaves;
* `signals_shared_along_copies` — what a signal tells, in terms of the steps.

A signal has two cells, so that there would be two ways to go wrong: a flag might be shared where a
reason is not, and a flag might be raised where there is no reason.  The layout rules out the first
and the states the second.
-/

/-- Something that is done with a collection of signals. -/
inductive SignalStep where
  /-- A new signal is made. -/
  | fresh
  /-- A copy is made of the signal at a position. -/
  | copy (origin : Nat)
  /-- The signal at a position is raised or cleared. -/
  | act (target : Nat) (action : SignalAction)
  /-- The signal at a position is looked at: whether it is raised, and for what reason. -/
  | look (target : Nat)

namespace SignalStep

/-- The position of the signal that a step is done with. -/
def position? : SignalStep → Option Nat
  | fresh => none
  | copy origin => some origin
  | act target _ => some target
  | look target => some target

/-- Whether a step makes one more signal. -/
def makes : SignalStep → Bool
  | fresh => true
  | copy _ => true
  | _ => false

/-- The collection after a step.  What an action leaves does not depend on what was before. -/
def perform (s : Signals) : SignalStep → Signals
  | fresh => s.fresh
  | copy origin => s.copy origin
  | act target action => s.set target (action.apply .clear)
  | look _ => s

end SignalStep

namespace Signals

/-- The collection after steps, of which the first finds no signal. -/
def after (steps : List SignalStep) : Signals := steps.foldl SignalStep.perform .empty

theorem after_snoc (steps : List SignalStep) (step : SignalStep) :
    after (steps ++ [step]) = step.perform (after steps) := by
  rw [after, List.foldl_append]
  rfl

/-! ### Families -/

/-- The number of signals that steps make. -/
def made (steps : List SignalStep) : Nat := steps.countP SignalStep.makes

theorem made_snoc (steps : List SignalStep) (step : SignalStep) :
    made (steps ++ [step]) = made steps + if step.makes then 1 else 0 := by
  rw [made, List.countP_append, List.countP_singleton]
  rfl

/-- The steps use no signal before it is made. -/
inductive Orderly : List SignalStep → Prop
  | nil : Orderly []
  | snoc {steps : List SignalStep} {step : SignalStep} (orderly : Orderly steps)
      (uses : ∀ i, step.position? = some i → i < made steps) : Orderly (steps ++ [step])

/-- The signal at the position `i` was made as a copy of the one at `origin`. -/
def CopyOf (steps : List SignalStep) (i origin : Nat) : Prop :=
  ∃ earlier later, steps = earlier ++ .copy origin :: later ∧ i = made earlier

/-- The signals at two positions are connected by copies. -/
def Family (steps : List SignalStep) : Nat → Nat → Prop := Relation.EqvGen (CopyOf steps)

variable {steps : List SignalStep} {step : SignalStep} {s : Signals} {i j k : Nat}

theorem CopyOf.snoc (h : CopyOf steps i j) : CopyOf (steps ++ [step]) i j := by
  obtain ⟨earlier, later, rfl, position⟩ := h
  exact ⟨earlier, later ++ [step], by simp, position⟩

theorem Family.snoc (h : Family steps i j) : Family (steps ++ [step]) i j :=
  Relation.EqvGen.mono (fun _ _ => CopyOf.snoc) i j h

theorem Family.symm (h : Family steps i j) : Family steps j i := Relation.EqvGen.symm _ _ h

theorem Family.trans (h : Family steps i j) (h' : Family steps j k) : Family steps i k :=
  Relation.EqvGen.trans _ _ _ h h'

/-- A copy that was made is one of before, or the step is its making. -/
theorem copyOf_snoc_iff :
    CopyOf (steps ++ [step]) i j ↔ CopyOf steps i j ∨ step = .copy j ∧ i = made steps := by
  constructor
  · rintro ⟨earlier, later, same, position⟩
    -- the making of the copy is the last step, or stands among those of before
    rcases List.eq_nil_or_concat later with rfl | ⟨later', last, rfl⟩
    · obtain ⟨rfl, last⟩ := List.append_inj' same rfl
      exact .inr ⟨List.singleton_inj.mp last, position⟩
    · rw [List.concat_eq_append, ← List.cons_append, ← List.append_assoc] at same
      obtain ⟨rfl, -⟩ := List.append_inj' same rfl
      exact .inl ⟨earlier, later', rfl, position⟩
  · rintro (h | ⟨rfl, position⟩)
    · exact h.snoc
    · exact ⟨steps, [], rfl, position⟩

/-- What is acted on in orderly steps is there. -/
theorem Orderly.target_lt (orderly : Orderly steps) {action : SignalAction}
    (acts : .act j action ∈ steps) : j < made steps := by
  induction orderly with
  | nil => exact absurd acts (by simp)
  | @snoc steps step _ uses ih =>
    -- a signal that is there stays there
    have grows : made steps ≤ made (steps ++ [step]) := by
      rw [made_snoc]
      omega
    rcases List.mem_append.mp acts with earlier | last
    · exact Nat.lt_of_lt_of_le (ih earlier) grows
    · obtain rfl := List.mem_singleton.mp last
      exact Nat.lt_of_lt_of_le (uses j rfl) grows

/-! ### Cells -/

/-- The cells of a collection after steps: as many pairs as signals were made, and a family shares
    both its cells, and shares none with a signal of another family. -/
structure Layout (steps : List SignalStep) (s : Signals) : Prop where
  size_eq : s.size = made steps
  inside : ∀ c ∈ s.cells, c.flag < s.flags.length ∧ c.reason < s.reasons.length
  copies : ∀ i j, CopyOf steps i j → ∃ c, s.cells[i]? = some c ∧ s.cells[j]? = some c
  family : ∀ i j c d, s.cells[i]? = some c → s.cells[j]? = some d →
    c.flag = d.flag ∨ c.reason = d.reason → Family steps i j

namespace Layout

theorem exists_cells (layout : Layout steps s) (there : i < made steps) :
    ∃ c, s.cells[i]? = some c ∧ c.flag < s.flags.length ∧ c.reason < s.reasons.length := by
  have bound : i < s.cells.length := by
    have same : s.cells.length = made steps := layout.size_eq
    omega
  exact ⟨_, List.getElem?_eq_getElem bound, layout.inside _ (List.getElem_mem bound)⟩

/-- A family shares its cells. -/
theorem cells_eq (layout : Layout steps s) (h : Family steps i j) : s.cells[i]? = s.cells[j]? := by
  -- equality of cells is an equivalence, so the single copies are all that has to be shown
  induction h with
  | rel i j copied =>
    obtain ⟨c, hi, hj⟩ := layout.copies i j copied
    exact hi.trans hj.symm
  | refl i => rfl
  | symm i j _ ih => exact ih.symm
  | trans i j k _ _ ih ih' => exact ih.trans ih'

/-- Whether signals are of one family can be told by their cells. -/
theorem family_iff (layout : Layout steps s) (there : i < made steps) :
    Family steps i j ↔ s.cells[i]? = s.cells[j]? := by
  constructor
  · exact layout.cells_eq
  · -- one cell in common is enough for a family, and here it is both
    intro same
    obtain ⟨c, cells, -⟩ := layout.exists_cells there
    exact layout.family i j c c cells (same ▸ cells) (.inl rfl)

/-- Signals of different families share neither flag nor reason. -/
theorem apart (layout : Layout steps s) {c d : SignalCells} (cells : s.cells[i]? = some c)
    (cells' : s.cells[j]? = some d) (other : ¬ Family steps i j) :
    c.flag ≠ d.flag ∧ c.reason ≠ d.reason := by
  constructor
  · exact fun same => other (layout.family i j c d cells cells' (.inl same))
  · exact fun same => other (layout.family i j c d cells cells' (.inr same))

theorem empty : Layout [] .empty where
  size_eq := rfl
  inside := by simp [Signals.empty]
  copies := by simp [CopyOf]
  family := by simp [Signals.empty]

/-- A step that makes no signal, and leaves the places of cells alone, keeps the layout. -/
theorem of_same {s' : Signals} (layout : Layout steps s) (idle : step.makes = false)
    (cells : s'.cells = s.cells) (flags : s'.flags.length = s.flags.length)
    (reasons : s'.reasons.length = s.reasons.length) : Layout (steps ++ [step]) s' where
  size_eq := by
    rw [made_snoc, idle, size, cells]
    exact layout.size_eq
  inside := by
    rw [cells, flags, reasons]
    exact layout.inside
  copies i j copied := by
    rw [cells]
    rcases copyOf_snoc_iff.mp copied with before | ⟨rfl, -⟩
    · exact layout.copies i j before
    · exact absurd idle (by simp [SignalStep.makes])
  family i j c d := by
    rw [cells]
    exact fun hc hd share => (layout.family i j c d hc hd share).snoc

/-- The cells of signals when one more is made: those of before, and those of the new signal. -/
theorem getElem?_snoc_iff (layout : Layout steps s) {new c : SignalCells} :
    (s.cells ++ [new])[i]? = some c ↔ s.cells[i]? = some c ∨ i = made steps ∧ c = new := by
  have length : s.cells.length = made steps := layout.size_eq
  -- before the end stand the cells of before, at the end the new ones, and behind it none
  rcases Nat.lt_trichotomy i s.cells.length with before | here | behind
  · rw [List.getElem?_append_left before]
    exact (or_iff_left fun new => by omega).symm
  · subst here
    simp [length, eq_comm]
  · rw [List.getElem?_eq_none (by simp; omega), List.getElem?_eq_none (by omega)]
    simp only [reduceCtorEq, false_or, false_iff]
    omega

/-- One more signal keeps the layout, if it belongs to the signals that it shares a cell with, and
    shares all with the signal that it is a copy of. -/
theorem snoc {s' : Signals} {new : SignalCells} (layout : Layout steps s)
    (makes : step.makes = true) (cells : s'.cells = s.cells ++ [new])
    (inside : ∀ c ∈ s.cells ++ [new], c.flag < s'.flags.length ∧ c.reason < s'.reasons.length)
    (copied : ∀ j, step = .copy j → s.cells[j]? = some new)
    (joins : ∀ i c, s.cells[i]? = some c → c.flag = new.flag ∨ c.reason = new.reason →
      Family (steps ++ [step]) i (made steps)) : Layout (steps ++ [step]) s' where
  size_eq := by
    rw [made_snoc, makes, size, cells, List.length_append]
    exact congrArg (· + 1) layout.size_eq
  inside := by
    rw [cells]
    exact inside
  copies i j made := by
    rw [cells]
    rcases copyOf_snoc_iff.mp made with before | ⟨isCopy, position⟩
    · obtain ⟨c, hi, hj⟩ := layout.copies i j before
      exact ⟨c, layout.getElem?_snoc_iff.mpr (.inl hi), layout.getElem?_snoc_iff.mpr (.inl hj)⟩
    · exact ⟨new, layout.getElem?_snoc_iff.mpr (.inr ⟨position, rfl⟩),
        layout.getElem?_snoc_iff.mpr (.inl (copied j isCopy))⟩
  family i j c d hc hd share := by
    rw [cells, layout.getElem?_snoc_iff] at hc hd
    -- two signals that share a cell: none, either, or both of them are the new one
    rcases hc with hc | ⟨rfl, rfl⟩ <;> rcases hd with hd | ⟨rfl, rfl⟩
    · exact (layout.family i j c d hc hd share).snoc
    · exact joins i c hc share
    · exact (joins j d hd (share.imp Eq.symm Eq.symm)).symm
    · exact Relation.EqvGen.refl _

/-- A new signal has cells of its own. -/
theorem fresh (layout : Layout steps s) : Layout (steps ++ [.fresh]) s.fresh := by
  refine layout.snoc rfl rfl ?_ (by simp) ?_
  · intro c member
    simp only [Signals.fresh, List.length_append, List.length_singleton]
    rcases List.mem_append.mp member with before | new
    · have := layout.inside c before
      omega
    · obtain rfl := List.mem_singleton.mp new
      exact ⟨Nat.lt_succ_self _, Nat.lt_succ_self _⟩
  · -- the new cells lie behind all others, so that no signal can share them
    intro i c cells share
    have := layout.inside c (List.mem_of_getElem? cells)
    dsimp only at share
    omega

/-- A copy has the cells of the signal that it is made from. -/
theorem copy (layout : Layout steps s) (there : j < made steps) :
    Layout (steps ++ [.copy j]) (s.copy j) := by
  obtain ⟨new, cells, inside⟩ := layout.exists_cells there
  rw [copy_of_cells cells]
  refine layout.snoc rfl rfl ?_ ?_ ?_
  · intro c member
    rcases List.mem_append.mp member with before | last
    · exact layout.inside c before
    · obtain rfl := List.mem_singleton.mp last
      exact inside
  · intro k same
    obtain rfl := SignalStep.copy.inj same
    exact cells
  · -- what shares a cell with the copy shares it with the original, and so is of its family
    intro i c cells' share
    have made : CopyOf (steps ++ [.copy j]) (made steps) j := copyOf_snoc_iff.mpr (.inr ⟨rfl, rfl⟩)
    exact (layout.family i j c new cells' cells share).snoc.trans
      (Family.symm (Relation.EqvGen.rel _ _ made))

/-- An action writes to cells, and moves none. -/
theorem act (layout : Layout steps s) (action : SignalAction) (there : j < made steps) :
    Layout (steps ++ [.act j action]) (s.set j (action.apply .clear)) := by
  obtain ⟨c, cells, -⟩ := layout.exists_cells there
  rw [set_of_cells cells]
  exact layout.of_same rfl rfl (List.length_set ..) (List.length_set ..)

end Layout

/-- **The cells of families.** Orderly steps lay out the cells by families. -/
theorem layout_after (orderly : Orderly steps) : Layout steps (after steps) := by
  -- the invariant of the cells, step by step
  induction orderly with
  | nil => exact Layout.empty
  | @snoc steps step _ uses ih =>
    rw [after_snoc]
    cases step with
    | fresh => exact ih.fresh
    | copy origin => exact ih.copy (uses origin rfl)
    | act target action => exact ih.act action (uses target rfl)
    | look target => exact ih.of_same rfl rfl rfl rfl

/-! ### States -/

/-- The latest action on the family of a signal, if there was one at all. -/
inductive Latest (steps : List SignalStep) (i : Nat) : Option SignalAction → Prop
  | untouched (idle : ∀ j action, .act j action ∈ steps → ¬ Family steps i j) : Latest steps i none
  | acted {earlier later : List SignalStep} {j : Nat} {action : SignalAction}
      (cut : steps = earlier ++ .act j action :: later) (related : Family steps i j)
      (idle : ∀ k action', .act k action' ∈ later → ¬ Family steps i k) :
      Latest steps i (some action)

/-- The state that the latest action on a signal leaves. -/
def stateOf (latest : Option SignalAction) : Interrupt :=
  latest.elim .clear (SignalAction.apply .clear)

variable {latest : Option SignalAction}

/-- The latest action is one and the same for a family. -/
theorem Latest.congr (h : Latest steps j latest) (related : Family steps i j) :
    Latest steps i latest := by
  cases h with
  | untouched idle =>
    exact .untouched fun k action acts here => idle k action acts (related.symm.trans here)
  | acted cut member idle =>
    exact .acted cut (related.trans member) fun k action acts here =>
      idle k action acts (related.symm.trans here)

/-! ### One step -/

/-- No step moves the cells of a signal that is there. -/
theorem getElem?_cells_perform (step : SignalStep) (there : i < s.size) :
    (step.perform s).cells[i]? = s.cells[i]? := by
  cases step with
  | fresh => exact List.getElem?_append_left there
  | copy origin =>
    simp only [SignalStep.perform, Signals.copy]
    split
    · exact List.getElem?_append_left there
    · rfl
  | act target action =>
    simp only [SignalStep.perform, set]
    split <;> rfl
  | look target => rfl

/-- No step connects signals that are there. -/
theorem family_snoc_iff (orderly : Orderly steps)
    (uses : ∀ i, step.position? = some i → i < made steps) (hi : i < made steps) (hj : j < made steps) :
    Family (steps ++ [step]) i j ↔ Family steps i j := by
  -- families are told by cells, before the step and after it, and the step moves no cells
  have before := layout_after orderly
  have behind := layout_after (orderly.snoc uses)
  have there : i < made (steps ++ [step]) := by
    rw [made_snoc]
    omega
  rw [behind.family_iff there, before.family_iff hi, after_snoc,
    getElem?_cells_perform step (before.size_eq ▸ hi),
    getElem?_cells_perform step (before.size_eq ▸ hj)]

/-- **Other families.** A step that does not act on the family of a signal leaves the signal as it
    is. -/
theorem get?_perform_of_other (layout : Layout steps s) (there : i < made steps)
    (uses : ∀ i, step.position? = some i → i < made steps)
    (other : ∀ j action, step = .act j action → ¬ Family steps i j) :
    (step.perform s).get? i = s.get? i := by
  obtain ⟨c, cells, inside⟩ := layout.exists_cells there
  have kept := (getElem?_cells_perform step (layout.size_eq ▸ there)).trans cells
  rw [get?_of_cells cells, get?_of_cells kept]
  -- only an action writes, and it writes to cells that the signal does not have
  cases step with
  | fresh => exact read_fresh inside
  | copy origin =>
    obtain ⟨d, cells', -⟩ := layout.exists_cells (uses origin rfl)
    rw [SignalStep.perform, copy_of_cells cells']
    rfl
  | act target action =>
    obtain ⟨d, cells', -⟩ := layout.exists_cells (uses target rfl)
    rw [SignalStep.perform, set_of_cells cells']
    exact read_write_of_ne (layout.apart cells cells' (other target action rfl)) _
  | look target => rfl

/-- An action leaves all of its family in the same state. -/
theorem get?_perform_of_related (layout : Layout steps s) (there : i < made steps)
    {action : SignalAction} (related : Family steps i j) :
    ((SignalStep.act j action).perform s).get? i = some (stateOf (some action)) := by
  obtain ⟨c, cells, inside⟩ := layout.exists_cells there
  -- the action writes to the cells of its target, which are those of the signal
  have shared : s.cells[j]? = some c := (layout.cells_eq related).symm.trans cells
  rw [SignalStep.perform, set_of_cells shared]
  have kept : (s.write c (action.apply .clear)).cells[i]? = some c := cells
  rw [get?_of_cells kept]
  exact read_write_self inside _

/-- The latest action stays the latest as long as the family is left alone. -/
theorem Latest.snoc (h : Latest steps i latest) (orderly : Orderly steps) (there : i < made steps)
    (uses : ∀ i, step.position? = some i → i < made steps)
    (other : ∀ j action, step = .act j action → ¬ Family steps i j) :
    Latest (steps ++ [step]) i latest := by
  -- after the latest action, neither an earlier step nor this one acts on the family, which is
  -- the same family as before the step
  have idle : ∀ later : List SignalStep, (∀ x ∈ later, x ∈ steps) →
      (∀ k action, .act k action ∈ later → ¬ Family steps i k) →
      ∀ k action, .act k action ∈ later ++ [step] → ¬ Family (steps ++ [step]) i k := by
    intro later within untouched k action acts
    rcases List.mem_append.mp acts with before | last
    · rw [family_snoc_iff orderly uses there (orderly.target_lt (within _ before))]
      exact untouched k action before
    · obtain rfl := List.mem_singleton.mp last
      rw [family_snoc_iff orderly uses there (uses k rfl)]
      exact other k action rfl
  cases h with
  | untouched untouched => exact .untouched (idle steps (fun _ => id) untouched)
  | @acted earlier later j action cut member untouched =>
    refine .acted (by rw [cut, List.append_assoc, List.cons_append]) member.snoc
      (idle later (fun x hx => ?_) untouched)
    rw [cut]
    exact List.mem_append_right _ (List.mem_cons_of_mem _ hx)

/-! ### All steps -/

/-- A signal that is just made new has a family of its own, on which no one has acted. -/
theorem latest_fresh (orderly : Orderly steps) : Latest (steps ++ [.fresh]) (made steps) none := by
  refine .untouched fun j action acts related => ?_
  have before : j < made steps := by
    rcases List.mem_append.mp acts with earlier | last
    · exact orderly.target_lt earlier
    · exact absurd (List.mem_singleton.mp last) (by simp)
  have layout := layout_after orderly
  obtain ⟨c, cells, inside⟩ := layout.exists_cells before
  -- were they related, the signals would share the flag that has just been added
  have shared := (layout.fresh.cells_eq related).symm
  rw [Signals.fresh, layout.getElem?_snoc_iff.mpr (.inl cells),
    layout.getElem?_snoc_iff.mpr (.inr ⟨rfl, rfl⟩)] at shared
  obtain rfl := Option.some.inj shared
  exact absurd inside.1 (Nat.lt_irrefl _)

/-- **States.** After orderly steps, every signal is in the state that the latest action on its
    family leaves. -/
theorem state_of_latest (orderly : Orderly steps) (there : i < made steps) :
    ∃ latest, Latest steps i latest ∧ (after steps).get? i = some (stateOf latest) := by
  induction orderly generalizing i with
  | nil => exact absurd there (by simp [made])
  | @snoc steps step orderly uses ih =>
    have layout := layout_after orderly
    have layout' := layout_after (orderly.snoc uses)
    rw [after_snoc] at layout' ⊢
    -- the signal was there before, and the step acts on its family or not; or the step makes it
    by_cases old : i < made steps
    · by_cases acts : ∃ j action, step = .act j action ∧ Family steps i j
      · obtain ⟨j, action, rfl, related⟩ := acts
        exact ⟨some action, .acted rfl related.snoc (by simp),
          get?_perform_of_related layout old related⟩
      · have other : ∀ j action, step = .act j action → ¬ Family steps i j :=
          fun j action same related => acts ⟨j, action, same, related⟩
        obtain ⟨latest, isLatest, state⟩ := ih old
        exact ⟨latest, isLatest.snoc orderly old uses other,
          (get?_perform_of_other layout old uses other).trans state⟩
    · -- the signal is the one that the step makes
      have new : i = made steps ∧ step.makes = true := by
        rw [made_snoc] at there
        by_cases makes : step.makes = true
        · rw [if_pos makes] at there
          exact ⟨by omega, makes⟩
        · rw [if_neg makes] at there
          omega
      obtain ⟨rfl, makes⟩ := new
      cases step with
      | fresh =>
        refine ⟨none, latest_fresh orderly, ?_⟩
        rw [← layout.size_eq]
        exact get?_fresh_size _
      | copy origin =>
        -- a copy takes over the latest action of its original, together with the cells
        obtain ⟨latest, isLatest, state⟩ := ih (uses origin rfl)
        have related : Family (steps ++ [.copy origin]) (made steps) origin :=
          Relation.EqvGen.rel _ _ (copyOf_snoc_iff.mpr (.inr ⟨rfl, rfl⟩))
        refine ⟨latest, (isLatest.snoc orderly (uses origin rfl) uses (by simp)).congr related, ?_⟩
        have same := get?_perform_of_other layout (uses origin rfl) uses (by simp)
        rw [← state, ← same, get?, get?, layout'.cells_eq related]
      | act target action => exact absurd makes (by simp [SignalStep.makes])
      | look target => exact absurd makes (by simp [SignalStep.makes])

/-! ### What a signal tells -/

/-- Of two steps in a list, one comes later than the other, unless they are the same. -/
theorem eq_or_mem_of_cut {e l e' l' : List SignalStep} {x y : SignalStep}
    (same : e ++ x :: l = e' ++ y :: l') : y ∈ l ∨ x = y ∨ x ∈ l' := by
  -- one of the two cuts comes first; what lies between them begins with its step, or is empty
  rcases List.append_eq_append_iff.mp same with ⟨between, -, rest⟩ | ⟨between, -, rest⟩
  · cases between with
    | nil => exact .inr (.inl (List.cons.inj rest).1)
    | cons z between =>
      obtain ⟨-, rest⟩ := List.cons.inj rest
      exact .inl (rest ▸ by simp)
  · cases between with
    | nil => exact .inr (.inl (List.cons.inj rest).1.symm)
    | cons z between =>
      obtain ⟨-, rest⟩ := List.cons.inj rest
      exact .inr (.inr (rest ▸ by simp))

/-- After its latest action, a signal is let pass exactly when every interruption of its family was
    cleared later. -/
theorem Latest.check_eq_ok_iff (h : Latest steps i latest) :
    (stateOf latest).check = .ok () ↔
      ∀ earlier j reason later, steps = earlier ++ .act j (.raise reason) :: later →
        Family steps i j → ∃ k, .act k .clear ∈ later ∧ Family steps i k := by
  cases h with
  | untouched idle =>
    refine iff_of_true rfl ?_
    rintro earlier j reason later cut related
    have acts : .act j (.raise reason) ∈ steps := by
      rw [cut]
      exact List.mem_append_right _ (List.mem_cons_self ..)
    exact absurd related (idle j _ acts)
  | @acted earlier later j action cut related idle =>
    cases action with
    -- nothing on the family follows an interruption that is the latest action
    | raise reason =>
      refine iff_of_false (by simp [stateOf, SignalAction.apply]) fun cleared => ?_
      obtain ⟨k, clears, member⟩ := cleared earlier j reason later cut related
      exact idle k _ clears member
    | clear =>
      refine iff_of_true rfl fun earlier' k reason later' cut' member => ?_
      -- an interruption can only stand before the latest action, which clears it
      rcases eq_or_mem_of_cut (cut.symm.trans cut') with behind | same | before
      · exact absurd member (idle k _ behind)
      · exact absurd same (by simp)
      · exact ⟨j, before, related⟩

/-- A signal that is not let pass is refused with the reason of the latest action, which was to
    raise it. -/
theorem Latest.of_check_eq_error (h : Latest steps i latest) {fault : Fault}
    (refused : (stateOf latest).check = .error fault) :
    ∃ earlier j reason later, steps = earlier ++ .act j (.raise reason) :: later ∧
      Family steps i j ∧ fault = .interrupted reason ∧
      ∀ k action, .act k action ∈ later → ¬ Family steps i k := by
  cases h with
  | untouched idle => exact absurd refused (by simp [stateOf])
  | @acted earlier later j action cut related idle =>
    cases action with
    | raise reason =>
      exact ⟨earlier, j, reason, later, cut, related, (Except.error.inj refused).symm, idle⟩
    | clear => exact absurd refused (by simp [stateOf, SignalAction.apply])

/-- A signal is never raised without a reason. -/
theorem reason_of_raised {latest : Option SignalAction} (raised : (stateOf latest).raised = true) :
    ∃ reason, (stateOf latest).reason = some reason := by
  rcases latest with - | action
  · exact absurd raised (by simp [stateOf, Interrupt.clear])
  · cases action with
    | raise reason => exact ⟨reason, rfl⟩
    | clear => exact absurd raised (by simp [stateOf, SignalAction.apply, Interrupt.clear])

theorem Orderly.uses_of_snoc (orderly : Orderly (steps ++ [step])) :
    ∀ i, step.position? = some i → i < made steps := by
  generalize whole : steps ++ [step] = all at orderly
  cases orderly with
  | nil => exact absurd whole (by simp)
  | snoc _ uses =>
    obtain ⟨rfl, last⟩ := List.append_inj' whole rfl
    obtain rfl := List.singleton_inj.mp last
    exact uses

end Signals

/-- **Signals are shared along copies.**  In every collection that orderly steps make, a signal is
    let pass exactly when every interruption of its family was cleared later, by whichever of its
    members; else it is refused with the reason of the latest interruption of the family, which is
    never made up.  That it is raised, and what a reader of logs is told, agree with this.  And no
    step changes a signal of a family that it does not act on. -/
theorem signals_shared_along_copies {steps : List SignalStep} (orderly : Signals.Orderly steps)
    {i : Nat} (there : i < Signals.made steps) :
    ∃ signal, (Signals.after steps).get? i = some signal ∧
      (signal.check = .ok () ↔
        ∀ earlier j reason later, steps = earlier ++ .act j (.raise reason) :: later →
          Signals.Family steps i j → ∃ k, .act k .clear ∈ later ∧ Signals.Family steps i k) ∧
      (∀ fault, signal.check = .error fault →
        ∃ earlier j reason later, steps = earlier ++ .act j (.raise reason) :: later ∧
          Signals.Family steps i j ∧ fault = .interrupted reason ∧
          ∀ k action, .act k action ∈ later → ¬ Signals.Family steps i k) ∧
      (signal.raised = true → ∃ reason, signal.reason = some reason) ∧
      (signal.check = .ok () → signal.raised = false ∧
        Describe.interrupt signal = "InterruptSignal \x7b raised: false \x7d") ∧
      (signal.check ≠ .ok () → signal.raised = true ∧
        Describe.interrupt signal = "InterruptSignal \x7b raised: true \x7d") ∧
      ∀ step, Signals.Orderly (steps ++ [step]) →
        (∀ j action, step = .act j action → ¬ Signals.Family steps i j) →
        (Signals.after (steps ++ [step])).get? i = some signal := by
  obtain ⟨latest, isLatest, state⟩ := Signals.state_of_latest orderly there
  refine ⟨_, state, isLatest.check_eq_ok_iff, fun fault => isLatest.of_check_eq_error,
    Signals.reason_of_raised, fun passes => ?_, fun refused => ?_, fun step orderly' other => ?_⟩
  · have flag := Interrupt.check_eq_ok_iff.mp passes
    rw [Describe.interrupt, flag]
    exact ⟨rfl, rfl⟩
  · have flag : (Signals.stateOf latest).raised = true := by
      rwa [Ne, Interrupt.check_eq_ok_iff, Bool.not_eq_false] at refused
    rw [Describe.interrupt, flag]
    exact ⟨rfl, rfl⟩
  · rw [Signals.after_snoc, Signals.get?_perform_of_other (Signals.layout_after orderly) there
      orderly'.uses_of_snoc other]
    exact state

/-! ### A copy of a copy

Of two families, one has three members.  Its second member is raised, which the third can tell.
-/

namespace Chain

/-- Two signals are made, and a copy of the first, and a copy of the copy.  Then the first copy is
    raised, and the signal of the other family is raised. -/
def steps : List SignalStep :=
  [.fresh, .copy 0, .fresh, .copy 1, .act 1 (.raise "late"), .act 2 (.raise "full")]

theorem orderly : Signals.Orderly steps := by
  have first : Signals.Orderly [.fresh] := .snoc .nil (by simp [SignalStep.position?])
  have second : Signals.Orderly [.fresh, .copy 0] := first.snoc (by rintro i ⟨⟩; decide)
  have third : Signals.Orderly [.fresh, .copy 0, .fresh] := second.snoc (by rintro i ⟨⟩)
  have fourth : Signals.Orderly [.fresh, .copy 0, .fresh, .copy 1] :=
    third.snoc (by rintro i ⟨⟩; decide)
  have raised : Signals.Orderly [.fresh, .copy 0, .fresh, .copy 1, .act 1 (.raise "late")] :=
    fourth.snoc (by rintro i ⟨⟩; decide)
  exact raised.snoc (by rintro i ⟨⟩; decide)

end Chain

/-- The copy of the copy is refused for the reason of its own family, and goes on being refused when
    the other signal is cleared. -/
theorem signals_shared_along_copies_chain :
    Signals.Orderly Chain.steps ∧ 3 < Signals.made Chain.steps ∧
      ((Signals.after Chain.steps).get? 3).map Interrupt.check =
        some (.error (.interrupted "late")) ∧
      (Signals.after (Chain.steps ++ [.act 2 .clear])).get? 3 =
        (Signals.after Chain.steps).get? 3 := by
  refine ⟨Chain.orderly, by decide, rfl, ?_⟩
  obtain ⟨signal, state, -, -, -, -, -, kept⟩ :=
    signals_shared_along_copies Chain.orderly (i := 3) (by decide)
  rw [state]
  refine kept _ (Chain.orderly.snoc (by rintro i ⟨⟩; decide)) ?_
  rintro j action ⟨⟩ related
  have shared := (Signals.layout_after Chain.orderly).cells_eq related
  exact absurd (congrArg (Option.map SignalCells.flag) shared) (by decide)

end BundleRunner
