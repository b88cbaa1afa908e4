import BundleRunner.Runner

namespace BundleRunner

/-!
# Bundles

A scheduler drives a bundle by `start`, any number of `process`, and `finish`:

* `Bundle.start`, `Bundle.process`, `Bundle.finish` — the three calls;
* `Bundle.advance` — the order check, before a call begins;
* `Bundle.refuse` — a call out of order is refused before the callback is entered;
* `Bundle.settle` — a call in order moves the bundle on when it is done and fails it when it fails.

The order is read off the edges of the state diagram.  Only the beginning of an element takes effect
at once; every other move waits for the outcome, and a panic moves nothing.
-/

variable {α β σ : Type}

/-- A bundle: its number, where it stands, and what it has done. -/
@[ext] structure Bundle where
  id : Nat
  phase : BundlePhase
  elements : Nat
  invocations : Nat
deriving DecidableEq

/-- What a call on a bundle leaves behind. -/
structure Turn (α β σ τ : Type) : Type 1 where
  runner : Runner α β σ
  bundle : Bundle
  outcome : Outcome τ

namespace Bundle

/-- A bundle before its start. -/
def fresh (id : Nat) : Bundle := ⟨id, .notStarted, 0, 0⟩

/-- Let a call begin, if it is in order.  The beginning of an element takes effect at once. -/
def advance (b : Bundle) (operation : Operation) : Option Bundle :=
  if b.phase.allows operation.goal then
    some (if operation = .process then { b with phase := operation.goal } else b)
  else none

/-- Refuse a call that is out of order. -/
def refuse {τ : Type} (b : Bundle) (operation : Operation) (r : Runner α β σ) : Turn α β σ τ :=
  ⟨r.mapRun (·.tell (.violation b.id operation b.phase)), b,
    .failed (.lifecycleViolation operation.text b.phase.text)⟩

/-- Settle a call in order: done, the bundle moves on; failed, the bundle fails; and after a panic
    everything stays as it is. -/
def settle (b : Bundle) (operation : Operation) (r : Runner α β σ) (outcome : Outcome Unit) :
    Turn α β σ Unit :=
  match outcome with
  | .done () =>
    ⟨r.mapRun (·.tell (.transition b.id operation b.phase operation.target)),
      { b with phase := operation.target }, .done ()⟩
  | .failed fault =>
    ⟨r.mapRun (·.tell (.bundleFailed b.id operation b.phase fault)),
      { b with phase := .failed }, .failed fault⟩
  | .panicked message => ⟨r, b, .panicked message⟩

@[simp] theorem fixed_settle (b : Bundle) (operation : Operation) (r : Runner α β σ)
    (outcome : Outcome Unit) : (b.settle operation r outcome).runner.fixed = r.fixed := by
  cases outcome <;> rfl

/-- The summary of a bundle with given numbers of outputs. -/
def summary (b : Bundle) (counts : Nat × Nat) : Summary :=
  ⟨b.id, b.elements, b.invocations, counts.1, counts.2⟩

/-- Enter the span of a bundle. -/
def enter (b : Bundle) (r : Runner α β σ) : Runner α β σ := r.mapRun (·.within (some b.id))

/-- Leave the span of a bundle. -/
def leave {τ : Type} (t : Turn α β σ τ) : Turn α β σ τ :=
  { t with runner := t.runner.mapRun (·.within none) }

/-- Set the counters of emissions to zero. -/
def resetCounts (r : Runner α β σ) : Runner α β σ :=
  r.mapRun fun s => { s with router := s.router.takeCounts.2 }

/-- Start a bundle. -/
def start (b : Bundle) (r : Runner α β σ) : Turn α β σ Unit :=
  match b.advance .start with
  | none => b.refuse .start r
  | some begun =>
    let ended := (resetCounts (begun.enter r)).runStart
    leave (begun.settle .start ended.1 ended.2)

/-- Count an element that was processed. -/
def count (b : Bundle) (invocations : Nat) : Bundle :=
  { b with elements := b.elements + 1, invocations := b.invocations + invocations }

/-- Count an element if it was processed: the outcome holds the number of its invocations. -/
def tally (b : Bundle) : Outcome Nat → Bundle
  | .done invocations => b.count invocations
  | _ => b

/-- Process a record within a bundle. -/
def process (b : Bundle) (r : Runner α β σ) (record : Record α) : Turn α β σ Unit :=
  match b.advance .process with
  | none => b.refuse .process r
  | some begun =>
    let ended := (begun.enter r).runElement record
    leave ((begun.tally ended.2).settle .process ended.1 (ended.2.map fun _ => ()))

/-- Close a bundle whose finish is done: read the counters and tell the summary. -/
def conclude (b : Bundle) (r : Runner α β σ) : Turn α β σ Summary :=
  let summary := b.summary r.run.router.takeCounts.1
  ⟨(resetCounts r).mapRun (·.tell (.bundleFinished summary)), b, .done summary⟩

/-- Close a bundle whose finish was settled, if it is done. -/
def close (t : Turn α β σ Unit) : Turn α β σ Summary :=
  match t.outcome with
  | .done () => t.bundle.conclude t.runner
  | .failed fault => ⟨t.runner, t.bundle, .failed fault⟩
  | .panicked message => ⟨t.runner, t.bundle, .panicked message⟩

@[simp] theorem fixed_close (t : Turn α β σ Unit) :
    (close t).runner.fixed = t.runner.fixed := by
  unfold close
  cases t.outcome <;> rfl

/-- Finish a bundle. -/
def finish (b : Bundle) (r : Runner α β σ) : Turn α β σ Summary :=
  match b.advance .finish with
  | none => b.refuse .finish r
  | some begun =>
    let ended := (begun.enter r).runFinish
    leave (close (begun.settle .finish ended.1 ended.2))

/-! ### Calls in order -/

/-- A start that is in order. -/
theorem start_of_advance {b begun : Bundle} (h : b.advance .start = some begun)
    (r : Runner α β σ) :
    b.start r = leave (begun.settle .start (resetCounts (begun.enter r)).runStart.1
      (resetCounts (begun.enter r)).runStart.2) := by
  simp only [start, h]

/-- The processing of a record that is in order. -/
theorem process_of_advance {b begun : Bundle} (h : b.advance .process = some begun)
    (r : Runner α β σ) (record : Record α) :
    b.process r record = leave ((begun.tally ((begun.enter r).runElement record).2).settle .process
      ((begun.enter r).runElement record).1
      (((begun.enter r).runElement record).2.map fun _ => ())) := by
  simp only [process, h]

/-- A finish that is in order. -/
theorem finish_of_advance {b begun : Bundle} (h : b.advance .finish = some begun)
    (r : Runner α β σ) :
    b.finish r = leave (close (begun.settle .finish (begun.enter r).runFinish.1
      (begun.enter r).runFinish.2)) := by
  simp only [finish, h]

/-! ### What stays -/

/-- A start leaves callback and plan alone. -/
@[simp] theorem fixed_start (b : Bundle) (r : Runner α β σ) :
    (b.start r).runner.fixed = r.fixed := by
  unfold start
  split
  · rfl
  · simp [leave, Runner.runStart, resetCounts, enter]

/-- The processing of a record leaves callback and plan alone. -/
@[simp] theorem fixed_process (b : Bundle) (r : Runner α β σ) (record : Record α) :
    (b.process r record).runner.fixed = r.fixed := by
  unfold process
  split
  · rfl
  · simp [leave, enter]

/-- A finish leaves callback and plan alone. -/
@[simp] theorem fixed_finish (b : Bundle) (r : Runner α β σ) :
    (b.finish r).runner.fixed = r.fixed := by
  unfold finish
  split
  · rfl
  · simp [leave, Runner.runFinish, enter]

end Bundle

/-- Open the next bundle. -/
def Runner.openBundle (r : Runner α β σ) : Runner α β σ × Bundle :=
  ({ r with bundles := r.bundles + 1 }, .fresh (r.bundles + 1))

end BundleRunner
