import BundleRunner.Callback
import BundleRunner.Channel
import BundleRunner.SideInput
import BundleRunner.Window.Function

namespace BundleRunner

/-!
# Bindings

A scheduler binds a callback to its collaborators: sinks, side inputs, a window function, a provider
of capabilities, options and the interrupt signal.

* `Declarations` — what a scheduler declares;
* `Declarations.bind` — a `Binding`, unless a tag or a view is declared twice;
* `firstRepeat?_eq_none_iff` — nothing repeats exactly when all names are different.
-/

/-- The declaration of a side output. -/
structure SideDeclaration where
  tag : String
  type : ValueType
  sink : Sink Value

/-- The collaborators of a callback, as declared. -/
structure Declarations (α β : Type) where
  main : Sink β
  sideOutputs : List SideDeclaration
  views : List String
  reader : Reader
  keyed : Bool
  windowFn : WindowFn α
  provider : Provider
  options : Options
  interrupt : Interrupt

/-- The first name in a list that equals an earlier one, or one that was seen before. -/
def firstRepeat? (seen : List String) : List String → Option String
  | [] => none
  | name :: names =>
    if seen.contains name then some name else firstRepeat? (name :: seen) names

theorem firstRepeat?_eq_none_iff {seen names : List String} :
    firstRepeat? seen names = none ↔ names.Nodup ∧ ∀ name ∈ names, name ∉ seen := by
  induction names generalizing seen with
  | nil => simp [firstRepeat?]
  | cons name names ih =>
    simp only [firstRepeat?, List.contains_iff_mem, List.nodup_cons, List.mem_cons,
      forall_eq_or_imp]
    split
    · rename_i h
      simp [h]
    · rename_i h
      rw [ih]
      constructor
      · rintro ⟨hnd, hseen⟩
        exact ⟨⟨fun hm => hseen name hm (List.mem_cons_self ..), hnd⟩, h,
          fun n hn hs => hseen n hn (List.mem_cons_of_mem _ hs)⟩
      · rintro ⟨⟨hname, hnd⟩, _, hseen⟩
        refine ⟨hnd, fun n hn hs => ?_⟩
        rcases List.mem_cons.mp hs with rfl | hs
        · exact hname hn
        · exact hseen n hn hs

/-- The collaborators of a callback, with a different tag for each side output and a different name
    for each view. -/
structure Binding (α β : Type) extends Declarations α β where
  tags_nodup : (sideOutputs.map SideDeclaration.tag).Nodup
  views_nodup : views.Nodup

namespace Declarations

variable {α β : Type}

/-- The declarations that leave everything but the main output at its default. -/
def ofMain (main : Sink β) : Declarations α β where
  main := main
  sideOutputs := []
  views := []
  reader := .none
  keyed := false
  windowFn := .global
  provider := .minimal
  options := .empty
  interrupt := .clear

/-- Declare one more side output. -/
def withSideOutput (d : Declarations α β) (tag : String) (type : ValueType) (sink : Sink Value) :
    Declarations α β :=
  { d with sideOutputs := d.sideOutputs ++ [⟨tag, type, sink⟩] }

/-- Declare one more view. -/
def withView (d : Declarations α β) (view : String) : Declarations α β :=
  { d with views := d.views ++ [view] }

/-- The tags of the side outputs, as declared. -/
def tags (d : Declarations α β) : List String := d.sideOutputs.map SideDeclaration.tag

/-- Bind: fails with the first tag declared before, else with the first view declared before. -/
def bind (d : Declarations α β) : Except Fault (Binding α β) :=
  match ht : firstRepeat? [] d.tags with
  | some tag => .error (.duplicateName "output tag" tag)
  | none =>
    match hv : firstRepeat? [] d.views with
    | some view => .error (.duplicateName "side input" view)
    | none =>
      .ok ⟨d, (firstRepeat?_eq_none_iff.mp ht).1, (firstRepeat?_eq_none_iff.mp hv).1⟩

end Declarations

/-- The binding that leaves everything but the main output at its default. -/
def Binding.ofMain {α β : Type} (main : Sink β) : Binding α β :=
  ⟨.ofMain main, List.nodup_nil, List.nodup_nil⟩

end BundleRunner
