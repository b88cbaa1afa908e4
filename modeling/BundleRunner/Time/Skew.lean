import BundleRunner.Time.Span

namespace BundleRunner

/-!
# Allowed backward shift

A record emitted for an input may carry an earlier timestamp than the input, but no earlier than
its `Skew` allows.
-/

/-- How far an output timestamp may lie before the timestamp of its input. -/
inductive Skew where
  /-- At most `span` before the input. -/
  | bounded (span : Span)
  /-- Any distance before the input. -/
  | unbounded
deriving DecidableEq

namespace Skew

/-- No backward shift at all. -/
def zero : Skew := .bounded .zero

instance : Inhabited Skew := ⟨zero⟩

/-- The earliest timestamp allowed for an input at `input`; `none` when there is no bound. -/
def earliest? (skew : Skew) (input : Instant) : Option Instant :=
  match skew with
  | .bounded span => some (input.sub span)
  | .unbounded => none

/-- Whether `candidate` is allowed as the timestamp of an output for an input at `input`. -/
def permits (skew : Skew) (input candidate : Instant) : Bool :=
  match skew with
  | .bounded span => decide (input.sub span ≤ candidate)
  | .unbounded => true

@[simp] theorem permits_unbounded (input candidate : Instant) :
    permits .unbounded input candidate = true := rfl

theorem permits_bounded {span : Span} {input candidate : Instant} :
    permits (.bounded span) input candidate = true ↔ input.sub span ≤ candidate := by
  simp [permits]

/-- A candidate is allowed exactly when it is no earlier than the earliest one allowed. -/
theorem permits_iff {skew : Skew} {input candidate : Instant} :
    skew.permits input candidate = true ↔ ∀ e, skew.earliest? input = some e → e ≤ candidate := by
  cases skew with
  | bounded span => simp [permits, earliest?]
  | unbounded => simp [earliest?]

/-- The written form: whole milliseconds, or `unbounded`. -/
def text : Skew → String
  | .bounded span => toString span.millis ++ "ms"
  | .unbounded => "unbounded"

end Skew

end BundleRunner
