import BundleRunner.Bundle

namespace BundleRunner

/-!
# Sessions

A session is what a scheduler has in hand: a runner, and the bundle that is open on it.  Opening the
next bundle drops the one before.  Between the calls on a bundle the scheduler may raise and clear
the interrupt signal, and whoever kept a handle may use it:

* `Session.perform` — one call, with its reply;
* `Session.performAll` — a sequence of calls, with their replies.
-/

variable {α β σ : Type}

/-- A runner and the bundle that is open on it. -/
structure Session (α β σ : Type) : Type 1 where
  runner : Runner α β σ
  bundle : Option Bundle

/-- What can happen to a session. -/
inductive Call (α : Type) where
  /-- Open the next bundle. -/
  | openBundle
  /-- Drop the open bundle. -/
  | dropBundle
  | start
  | process (record : Record α)
  | finish
  /-- Raise the interrupt signal from outside. -/
  | raise (reason : String)
  /-- Clear the interrupt signal from outside. -/
  | clear
  /-- Use a kept handle on keyed state. -/
  | useState (handle : StateHandle) (call : StateCall)
  /-- Use a kept handle on windowing internals. -/
  | useInternals (handle : InternalsHandle)

/-- What a session replies to a call. -/
inductive Reply where
  /-- A bundle was opened. -/
  | opened (id : Nat)
  /-- Nothing is to be said. -/
  | nothing
  /-- The bundle was started, or processed a record, or did not. -/
  | moved (outcome : Outcome Unit)
  /-- The bundle was finished, or was not. -/
  | finished (outcome : Outcome Summary)
  | state (result : Except Fault (Option (List UInt8)))
  | internals (result : Except Fault Internals)

namespace Session

/-- The session of a runner before its first bundle. -/
def ofRunner (r : Runner α β σ) : Session α β σ := ⟨r, none⟩

/-- Where the open bundle stands. -/
def phase? (s : Session α β σ) : Option BundlePhase := s.bundle.map Bundle.phase

/-- The session after a call on its bundle. -/
def ofTurn {τ : Type} (t : Turn α β σ τ) : Session α β σ := ⟨t.runner, some t.bundle⟩

/-- The session with the interrupt signal in a new state. -/
def signal (s : Session α β σ) (interrupt : Interrupt) : Session α β σ :=
  { s with runner := s.runner.mapRun fun run => { run with interrupt } }

/-- Perform a call.  A call on a bundle does nothing when none is open. -/
def perform (s : Session α β σ) : Call α → Session α β σ × Reply
  | .openBundle =>
    let opened := s.runner.openBundle
    (⟨opened.1, some opened.2⟩, .opened opened.2.id)
  | .dropBundle => ({ s with bundle := none }, .nothing)
  | .start =>
    match s.bundle with
    | none => (s, .nothing)
    | some b => let t := b.start s.runner; (ofTurn t, .moved t.outcome)
  | .process record =>
    match s.bundle with
    | none => (s, .nothing)
    | some b => let t := b.process s.runner record; (ofTurn t, .moved t.outcome)
  | .finish =>
    match s.bundle with
    | none => (s, .nothing)
    | some b => let t := b.finish s.runner; (ofTurn t, .finished t.outcome)
  | .raise reason => (s.signal (.raise reason), .nothing)
  | .clear => (s.signal .clear, .nothing)
  | .useState handle call =>
    let made := s.runner.run.useState handle call
    ({ s with runner := { s.runner with run := made.1 } }, .state made.2)
  | .useInternals handle => (s, .internals (s.runner.run.useInternals handle))

/-- No call changes the callback or the plan of the run. -/
@[simp] theorem fixed_perform (s : Session α β σ) (call : Call α) :
    (s.perform call).1.runner.fixed = s.runner.fixed := by
  obtain ⟨r, opened⟩ := s
  cases opened <;> cases call <;> first | rfl | simp [perform, ofTurn]

/-- Perform calls one after the other. -/
def performAll (s : Session α β σ) : List (Call α) → Session α β σ × List Reply
  | [] => (s, [])
  | call :: calls =>
    let first := s.perform call
    let rest := first.1.performAll calls
    (rest.1, first.2 :: rest.2)

@[simp] theorem performAll_nil (s : Session α β σ) : s.performAll [] = (s, []) := rfl

theorem performAll_cons (s : Session α β σ) (call : Call α) (calls : List (Call α)) :
    s.performAll (call :: calls) =
      (((s.perform call).1.performAll calls).1,
        (s.perform call).2 :: ((s.perform call).1.performAll calls).2) := rfl

/-- Calls in two parts are the calls as a whole. -/
theorem performAll_append (s : Session α β σ) (first second : List (Call α)) :
    s.performAll (first ++ second) =
      (((s.performAll first).1.performAll second).1,
        (s.performAll first).2 ++ ((s.performAll first).1.performAll second).2) := by
  induction first generalizing s with
  | nil => rfl
  | cons call calls ih => simp [performAll_cons, ih]

/-- **Invariants of a session.** What every call keeps, every sequence of calls keeps. -/
theorem performAll_invariant (P : Session α β σ → Prop)
    (keeps : ∀ s call, P s → P (s.perform call).1) (s : Session α β σ) (calls : List (Call α))
    (start : P s) : P (s.performAll calls).1 := by
  induction calls generalizing s with
  | nil => exact start
  | cons call calls ih => exact ih _ (keeps s call start)

end Session

end BundleRunner
