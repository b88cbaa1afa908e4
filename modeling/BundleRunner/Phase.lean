import BundleRunner.Fault

namespace BundleRunner

/-!
# Phases of a bundle

A bundle is started, processes elements one at a time, and is finished:

* `BundlePhase.allows` — the edges of the state diagram;
* `Operation` — the calls that move a bundle along them.
-/

/-- Where a bundle stands. -/
inductive BundlePhase where
  | notStarted
  | inBundle
  | processingElement
  | finished
  | failed
deriving DecidableEq

namespace BundlePhase

/-- The name of a phase. -/
def text : BundlePhase → String
  | notStarted => "NotStarted"
  | inBundle => "InBundle"
  | processingElement => "ProcessingElement"
  | finished => "Finished"
  | failed => "Failed"

/-- All phases. -/
def all : List BundlePhase := [notStarted, inBundle, processingElement, finished, failed]

/-- The phase with a name. -/
def ofText? (name : String) : Option BundlePhase := all.find? (·.text == name)

@[simp] theorem ofText?_text (p : BundlePhase) : ofText? p.text = some p := by
  cases p <;> rfl

/-- The edges of the state diagram: start, an element begun and done, finish, and failure from
    every phase that is not final. -/
def allows : BundlePhase → BundlePhase → Bool
  | notStarted, inBundle => true
  | inBundle, processingElement => true
  | processingElement, inBundle => true
  | inBundle, finished => true
  | notStarted, failed => true
  | inBundle, failed => true
  | processingElement, failed => true
  | _, _ => false

/-- Whether no edge leaves the phase. -/
def isFinal : BundlePhase → Bool
  | finished => true
  | failed => true
  | _ => false

/-- A phase is final exactly when it allows no next phase. -/
theorem isFinal_iff {p : BundlePhase} : p.isFinal = true ↔ ∀ q, p.allows q = false := by
  constructor
  · intro h q
    cases p <;> first | (cases q <;> rfl) | cases h
  · intro h
    cases p
    · exact absurd (h .failed) (by decide)
    · exact absurd (h .failed) (by decide)
    · exact absurd (h .failed) (by decide)
    · rfl
    · rfl

end BundlePhase

/-- A call that drives a bundle. -/
inductive Operation where
  | start
  | process
  | finish
deriving DecidableEq

namespace Operation

/-- The name of an operation. -/
def text : Operation → String
  | start => "start"
  | process => "process_element"
  | finish => "finish"

/-- The phase that an operation has to be able to move to. -/
def goal : Operation → BundlePhase
  | start => .inBundle
  | process => .processingElement
  | finish => .finished

/-- The phase that an operation leaves behind when it is done. -/
def target : Operation → BundlePhase
  | start => .inBundle
  | process => .inBundle
  | finish => .finished

end Operation

/-- What a finished bundle did. -/
@[ext] structure Summary where
  /-- The number of the bundle, counted from one. -/
  bundle : Nat
  /-- Elements processed. -/
  elements : Nat
  /-- Invocations of the element callback. -/
  invocations : Nat
  /-- Records routed to the main output. -/
  mainOutputs : Nat
  /-- Records routed to side outputs. -/
  sideOutputs : Nat
deriving DecidableEq

end BundleRunner
