import BundleRunner.Fault

namespace BundleRunner

/-!
# Outcomes

A call on a callback ends in one of three ways: it is done, it fails with a fault, or the callback
panics and the call does not come back to the library at all.
-/

universe u v w

/-- How a call ended. -/
inductive Outcome (τ : Type u) where
  /-- The call did what it should. -/
  | done (result : τ)
  /-- The call failed. -/
  | failed (fault : Fault)
  /-- The callback panicked. -/
  | panicked (message : String)
deriving DecidableEq

namespace Outcome

variable {τ : Type u} {υ : Type v}

/-- A call that can only be done or fail, as an outcome. -/
def ofExcept : Except Fault τ → Outcome τ
  | .ok result => done result
  | .error fault => failed fault

/-- Another result in the place of the old one. -/
def map (f : τ → υ) : Outcome τ → Outcome υ
  | done result => done (f result)
  | failed fault => failed fault
  | panicked message => panicked message

/-- Whether the call was done. -/
def isDone : Outcome τ → Bool
  | done _ => true
  | _ => false

@[simp] theorem map_done (f : τ → υ) (x : τ) : (done x).map f = done (f x) := rfl

@[simp] theorem map_failed (f : τ → υ) (fault : Fault) : (failed fault).map f = failed fault := rfl

@[simp] theorem map_panicked (f : τ → υ) (message : String) :
    (panicked message : Outcome τ).map f = panicked message := rfl

theorem map_map {ω : Type w} (f : τ → υ) (g : υ → ω) (outcome : Outcome τ) :
    (outcome.map f).map g = outcome.map fun result => g (f result) := by
  cases outcome <;> rfl

end Outcome

end BundleRunner
