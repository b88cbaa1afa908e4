import BundleRunner.Fault

namespace BundleRunner

/-!
# Interruption

A scheduler stops a run by raising a signal.  The signal stays raised, with the reason of the
latest interruption, until it is cleared.
-/

/-- A signal between a scheduler and a run. -/
@[ext] structure Interrupt where
  raised : Bool
  reason : Option String
deriving DecidableEq

namespace Interrupt

/-- A signal that is not raised. -/
def clear : Interrupt := ⟨false, none⟩

instance : Inhabited Interrupt := ⟨clear⟩

/-- A signal raised for a reason. -/
def raise (reason : String) : Interrupt := ⟨true, some reason⟩

/-- Fails with the reason while the signal is raised. -/
def check (i : Interrupt) : Except Fault Unit :=
  if i.raised then .error (.interrupted (i.reason.getD "interrupted by scheduler")) else .ok ()

@[simp] theorem check_clear : clear.check = .ok () := rfl

@[simp] theorem check_raise (reason : String) :
    (raise reason).check = .error (.interrupted reason) := rfl

theorem check_eq_ok_iff {i : Interrupt} : i.check = .ok () ↔ i.raised = false := by
  cases h : i.raised <;> simp [check, h]

end Interrupt

/-!
### Shared signals

A signal can be copied.  A copy has no state of its own: it shares two cells with the signal that it
was made from, one for the flag and one for the reason.  `Signals` holds any number of signals by
position, and the cells behind them.
-/

/-- Where a signal keeps its flag and its reason. -/
structure SignalCells where
  flag : Nat
  reason : Nat

/-- Signals by position, and the cells that they share. -/
structure Signals where
  cells : List SignalCells
  flags : List Bool
  reasons : List (Option String)

namespace Signals

/-- No signal at all. -/
def empty : Signals := ⟨[], [], []⟩

/-- The number of signals. -/
def size (s : Signals) : Nat := s.cells.length

/-- A new signal with cells of its own, which is not raised. -/
def fresh (s : Signals) : Signals where
  cells := s.cells ++ [⟨s.flags.length, s.reasons.length⟩]
  flags := s.flags ++ [false]
  reasons := s.reasons ++ [none]

/-- One signal alone. -/
def one : Signals := empty.fresh

/-- A copy of the signal at a position. -/
def copy (s : Signals) (i : Nat) : Signals :=
  match s.cells[i]? with
  | some c => { s with cells := s.cells ++ [c] }
  | none => s

@[simp] theorem size_fresh (s : Signals) : s.fresh.size = s.size + 1 := by
  simp [fresh, size]

theorem copy_of_cells {s : Signals} {i : Nat} {c : SignalCells} (there : s.cells[i]? = some c) :
    s.copy i = { s with cells := s.cells ++ [c] } := by
  rw [copy, there]

/-- What a pair of cells holds. -/
def read (s : Signals) (c : SignalCells) : Option Interrupt :=
  s.flags[c.flag]?.bind fun raised => s.reasons[c.reason]?.map fun reason => ⟨raised, reason⟩

/-- Write a flag and a reason into a pair of cells. -/
def write (s : Signals) (c : SignalCells) (state : Interrupt) : Signals where
  cells := s.cells
  flags := s.flags.set c.flag state.raised
  reasons := s.reasons.set c.reason state.reason

/-- The state of the signal at a position, as its cells have it. -/
def get? (s : Signals) (i : Nat) : Option Interrupt := s.cells[i]?.bind s.read

theorem get?_of_cells {s : Signals} {i : Nat} {c : SignalCells} (there : s.cells[i]? = some c) :
    s.get? i = s.read c := by
  rw [get?, there, Option.bind_some]

/-- A new signal comes last, and is not raised. -/
theorem get?_fresh_size (s : Signals) : s.fresh.get? s.size = some .clear := by
  simp [get?, fresh, size, read, Interrupt.clear]

/-- Give the signal at a position another state, by writing to its cells. -/
def set (s : Signals) (i : Nat) (state : Interrupt) : Signals :=
  match s.cells[i]? with
  | some c => s.write c state
  | none => s

theorem set_of_cells {s : Signals} {i : Nat} {c : SignalCells} (there : s.cells[i]? = some c)
    (state : Interrupt) : s.set i state = s.write c state := by
  rw [set, there]

/-- What was written is read again, from cells that are there. -/
theorem read_write_self {s : Signals} {c : SignalCells}
    (inside : c.flag < s.flags.length ∧ c.reason < s.reasons.length) (state : Interrupt) :
    (s.write c state).read c = some state := by
  simp [read, write, inside.1, inside.2]

/-- Cells of which neither is written to hold what they held. -/
theorem read_write_of_ne {s : Signals} {c d : SignalCells}
    (apart : d.flag ≠ c.flag ∧ d.reason ≠ c.reason) (state : Interrupt) :
    (s.write c state).read d = s.read d := by
  rw [read, read, write, List.getElem?_set_ne (Ne.symm apart.1),
    List.getElem?_set_ne (Ne.symm apart.2)]

/-- A new signal leaves the cells alone that are there. -/
theorem read_fresh {s : Signals} {c : SignalCells}
    (inside : c.flag < s.flags.length ∧ c.reason < s.reasons.length) :
    s.fresh.read c = s.read c := by
  rw [read, read, fresh, List.getElem?_append_left inside.1, List.getElem?_append_left inside.2]

end Signals

end BundleRunner
