import BundleRunner.Proofs.Silence

namespace BundleRunner

/-!
# Steps that follow one another

A run goes from state to state in steps of several kinds: requests, visits, calls.  This file says
once what holds of all of them:

* `RunState.world` — what a step finds and leaves: a state without its log and its counters;
* `Leads` — steps lead from one state to another, and each finds the world as the step before has
  left it;
* `Leads.invariant`, `Leads.fold` — what every step keeps or takes on, and what a whole run then
  keeps or takes on.
-/

universe u

variable {α β σ : Type}

/-! ### Worlds -/

namespace RunState

/-- The state without its log and the counters of its router, which the library writes between
    events. -/
def world (s : RunState β) : RunState β := { s.silent with router := s.router.takeCounts.2 }

end RunState

/-! ### Steps -/

section Leads

variable {ε : Type 1} {before after : ε → RunState β}

/-- Steps lead from one state to another: each of them finds the world as the step before has left
    it. -/
def Leads (before after : ε → RunState β) : RunState β → List ε → RunState β → Prop
  | s, [], s' => s.world = s'.world
  | s, x :: xs, s' => s.world = (before x).world ∧ Leads before after (after x) xs s'

namespace Leads

theorem single (x : ε) : Leads before after (before x) [x] (after x) := ⟨rfl, rfl⟩

/-- Where the steps begin and end matters up to the world only. -/
theorem congr {s t s' t' : RunState β} {xs : List ε} (start : s.world = t.world)
    (stop : s'.world = t'.world) (leads : Leads before after s xs s') :
    Leads before after t xs t' := by
  induction xs generalizing s t with
  | nil => exact start.symm.trans (Eq.trans leads stop)
  | cons x xs ih => exact ⟨start.symm.trans leads.1, ih rfl leads.2⟩

/-- Steps in two parts are the steps as a whole. -/
theorem append {s t u : RunState β} {xs ys : List ε} (first : Leads before after s xs t)
    (second : Leads before after t ys u) : Leads before after s (xs ++ ys) u := by
  induction xs generalizing s with
  | nil => exact second.congr (Eq.symm first) rfl
  | cons x xs ih => exact ⟨first.1, ih first.2⟩

/-- The steps before a step lead up to it, and those after it lead on. -/
theorem split {s u : RunState β} {xs ys : List ε} {x : ε}
    (leads : Leads before after s (xs ++ x :: ys) u) :
    Leads before after s xs (before x) ∧ Leads before after (after x) ys u := by
  induction xs generalizing s with
  | nil => exact leads
  | cons y xs ih =>
    obtain ⟨prior, rest⟩ := ih leads.2
    exact ⟨⟨leads.1, prior⟩, rest⟩

/-- Each step may be taken in smaller ones. -/
theorem flatMap {δ : Type 1} {before' after' : δ → RunState β} {parts : ε → List δ}
    {s u : RunState β} {xs : List ε} (leads : Leads before after s xs u)
    (finer : ∀ x ∈ xs, Leads before' after' (before x) (parts x) (after x)) :
    Leads before' after' s (xs.flatMap parts) u := by
  induction xs generalizing s with
  | nil => exact leads
  | cons x xs ih =>
    have first := (finer x (List.mem_cons_self ..)).congr leads.1.symm rfl
    exact first.append (ih leads.2 fun y hy => finer y (List.mem_cons_of_mem _ hy))

/-- **Invariants.** What every step keeps holds before and after every step, and in the end. -/
theorem invariant (P : RunState β → Prop) {s u : RunState β} {xs : List ε}
    (leads : Leads before after s xs u)
    (keeps : ∀ x ∈ xs, P (before x).world → P (after x).world) (start : P s.world) :
    (∀ x ∈ xs, P (before x).world ∧ P (after x).world) ∧ P u.world := by
  induction xs generalizing s with
  | nil => exact ⟨by simp, (show s.world = u.world from leads) ▸ start⟩
  | cons x xs ih =>
    have here : P (before x).world := leads.1 ▸ start
    have next : P (after x).world := keeps x (List.mem_cons_self ..) here
    obtain ⟨later, stop⟩ := ih leads.2 (fun y hy => keeps y (List.mem_cons_of_mem _ hy)) next
    refine ⟨fun y hy => ?_, stop⟩
    rcases List.mem_cons.mp hy with rfl | hy
    · exact ⟨here, next⟩
    · exact later y hy

/-- **Folds.** A view of the world that each step takes on is taken on by all steps, one after the
    other. -/
theorem fold {τ : Type u} (view : RunState β → τ) (step : ε → τ → τ) {s u : RunState β}
    {xs : List ε} (leads : Leads before after s xs u)
    (follows : ∀ x ∈ xs, view (after x).world = step x (view (before x).world)) :
    view u.world = xs.foldl (fun t x => step x t) (view s.world) := by
  induction xs generalizing s with
  | nil => exact congrArg view (Eq.symm leads)
  | cons x xs ih =>
    rw [ih leads.2 fun y hy => follows y (List.mem_cons_of_mem _ hy),
      follows x (List.mem_cons_self ..), leads.1, List.foldl_cons]

end Leads

end Leads

end BundleRunner
