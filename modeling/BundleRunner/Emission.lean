import BundleRunner.Record
import BundleRunner.Window.Function

namespace BundleRunner

/-!
# Time and windows of an emission

An emitted record needs a timestamp and windows.  While an element is processed both come from the
element; otherwise the window function decides, without an element to look at:

* `Scope` — where an emission happens;
* `Scope.resolve` — the timestamp and the windows of the record that is emitted there.
-/

variable {α τ : Type}

/-- Where an emission happens. -/
inductive Scope (α : Type) where
  /-- While an element at `timestamp` in `windows` is processed, with `skew` allowed. -/
  | element (timestamp : Instant) (windows : WindowSet) (skew : Skew)
  /-- At the start or the finish of a bundle, where `windowFn` assigns windows. -/
  | bundle (windowFn : WindowFn α)

/-- The timestamp and the windows of a record to be. -/
@[ext] structure Placement where
  timestamp : Instant
  windows : WindowSet
deriving DecidableEq

/-- The record with a value at a placement. -/
def Placement.record (p : Placement) (value : τ) : Record τ := ⟨value, p.timestamp, p.windows⟩

namespace Scope

/-- The placement of an emission.  An element hands on its windows, and its timestamp unless
    another one is given that the skew allows; outside element processing the window function sees
    only the given timestamp, and without one the record lies in the infinite past. -/
def resolve (explicit : Option Instant) : Scope α → Except Fault Placement
  | element timestamp windows skew =>
    match explicit with
    | none => .ok ⟨timestamp, windows⟩
    | some candidate =>
      if skew.permits timestamp candidate then .ok ⟨candidate, windows⟩
      else .error (.skewViolation candidate timestamp skew)
  | bundle windowFn =>
    (windowFn.assign (.bundle explicit)).map fun windows => ⟨explicit.getD .min, windows⟩

@[simp] theorem resolve_element_none (t : Instant) (ws : WindowSet) (skew : Skew) :
    (element t ws skew : Scope α).resolve none = .ok ⟨t, ws⟩ := rfl

/-- Inside an element the windows are always those of the element. -/
theorem windows_of_resolve_element {t : Instant} {ws : WindowSet} {skew : Skew}
    {explicit : Option Instant} {p : Placement}
    (h : (element t ws skew : Scope α).resolve explicit = .ok p) : p.windows = ws := by
  cases explicit with
  | none => cases h; rfl
  | some candidate =>
    simp only [resolve] at h
    split at h
    · cases h; rfl
    · cases h

end Scope

end BundleRunner
