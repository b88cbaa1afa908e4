import BundleRunner.Window.Set

namespace BundleRunner

/-!
# Records

What flows through a transform: a value, the event time it belongs to, and the windows it lies in.
-/

/-- A value in event time. -/
@[ext] structure Record (τ : Type) where
  value : τ
  timestamp : Instant
  windows : WindowSet
deriving DecidableEq

namespace Record

variable {τ υ : Type}

/-- Another value in the place of the old one, at the same time and in the same windows. -/
def map (f : τ → υ) (r : Record τ) : Record υ := ⟨f r.value, r.timestamp, r.windows⟩

@[simp] theorem value_map (f : τ → υ) (r : Record τ) : (r.map f).value = f r.value := rfl

@[simp] theorem timestamp_map (f : τ → υ) (r : Record τ) : (r.map f).timestamp = r.timestamp := rfl

@[simp] theorem windows_map (f : τ → υ) (r : Record τ) : (r.map f).windows = r.windows := rfl

/-- The record that lies in one of the windows only. -/
def narrow (r : Record τ) (w : Window) : Record τ := { r with windows := .single w }

@[simp] theorem value_narrow (r : Record τ) (w : Window) : (r.narrow w).value = r.value := rfl

@[simp] theorem timestamp_narrow (r : Record τ) (w : Window) :
    (r.narrow w).timestamp = r.timestamp := rfl

@[simp] theorem windows_narrow (r : Record τ) (w : Window) :
    (r.narrow w).windows = .single w := rfl

end Record

end BundleRunner
