import BundleRunner.Fault

namespace BundleRunner

/-!
# Keyed state

Bytes in named cells.  `Cells` is the store; a `StateAccess` is what a provider hands out, which is
either the store or a refusal of everything.
-/

/-- Named cells with bytes in them, each name once. -/
structure Cells where
  entries : List (String × List UInt8)
deriving DecidableEq

namespace Cells

/-- No cells. -/
def empty : Cells := ⟨[]⟩

/-- The bytes in a cell. -/
def get? (c : Cells) (name : String) : Option (List UInt8) :=
  (c.entries.find? (·.1 == name)).map (·.2)

/-- Clear a cell. -/
def remove (c : Cells) (name : String) : Cells := ⟨c.entries.filter (·.1 != name)⟩

/-- Put bytes into a cell in place of what it holds. -/
def store (c : Cells) (name : String) (bytes : List UInt8) : Cells :=
  ⟨(c.remove name).entries ++ [(name, bytes)]⟩

/-- The number of cells. -/
def size (c : Cells) : Nat := c.entries.length

/-- Whether there are no cells. -/
def isEmpty (c : Cells) : Bool := c.entries.isEmpty

theorem get?_remove_self (c : Cells) (name : String) : (c.remove name).get? name = none := by
  simp [get?, remove]

theorem get?_remove_of_ne (c : Cells) {name other : String} (h : other ≠ name) :
    (c.remove name).get? other = c.get? other := by
  simp only [get?, remove]
  congr 1
  induction c.entries with
  | nil => rfl
  | cons e es ih =>
    by_cases hn : e.1 = name
    · simp [hn, ih, h.symm]
    · by_cases ho : e.1 = other
      · simp [ho, h]
      · simp [hn, ho, ih]

/-- A cell holds what was stored last. -/
@[simp] theorem get?_store_self (c : Cells) (name : String) (bytes : List UInt8) :
    (c.store name bytes).get? name = some bytes := by
  have h := get?_remove_self c name
  simp only [get?, Option.map_eq_none_iff] at h
  simp [get?, store, List.find?_append, h]

/-- Storing into a cell leaves the others alone. -/
theorem get?_store_of_ne (c : Cells) {name other : String} (bytes : List UInt8)
    (h : other ≠ name) : (c.store name bytes).get? other = c.get? other := by
  rw [← get?_remove_of_ne c h]
  simp only [get?, store, List.find?_append]
  cases (c.remove name).entries.find? (·.1 == other) <;> simp [h.symm]

end Cells

/-- What a callback asks of keyed state. -/
inductive StateCall where
  | lookup (name : String)
  | store (name : String) (bytes : List UInt8)
  | remove (name : String)
deriving DecidableEq

/-- Access to keyed state: to the cells of the run, or to a store that refuses. -/
inductive StateAccess where
  | cells
  | refusing (fault : Fault)
deriving DecidableEq

namespace StateAccess

/-- The access that refuses with a message. -/
def broken (message : String) : StateAccess := .refusing (.collaborator "keyed-state" message)

/-- Make a call on the cells.  A lookup answers with the bytes, the others with none. -/
def perform (access : StateAccess) (call : StateCall) (cells : Cells) :
    Cells × Except Fault (Option (List UInt8)) :=
  match access with
  | .refusing fault => (cells, .error fault)
  | .cells =>
    match call with
    | .lookup name => (cells, .ok (cells.get? name))
    | .store name bytes => (cells.store name bytes, .ok none)
    | .remove name => (cells.remove name, .ok none)

end StateAccess

end BundleRunner
