import BundleRunner.Outcome

namespace BundleRunner

/-!
# Programs of callbacks

A callback is arbitrary code, but all it can do to the outside is to make requests.  A `Program` is
the tree of its requests: what it asks, how it goes on after each answer, and how it stops.  The
state that a callback keeps for its next call is handed over however the program stops.

* `Program.run` — a program with its requests answered by an environment.
-/

universe u

/-- A callback's code: requests of type `R`, answered as `Answer` says, over a state of type `σ`. -/
inductive Program {R : Type u} (Answer : R → Type) (σ : Type) : Type u where
  /-- Stop in a state, with an outcome. -/
  | stop (state : σ) (outcome : Outcome Unit)
  /-- Make a request and go on with the answer. -/
  | ask (request : R) (next : Answer request → Program Answer σ)

namespace Program

variable {R : Type u} {Answer : R → Type} {σ : Type} {E : Type u}

/-- What a run of a program leaves behind. -/
structure Result (E : Type u) (σ : Type) : Type u where
  env : E
  state : σ
  outcome : Outcome Unit

/-- Run a program in an environment that answers its requests. -/
def run (answer : (request : R) → E → E × Answer request) : Program Answer σ → E → Result E σ
  | stop state outcome, env => ⟨env, state, outcome⟩
  | ask request next, env =>
    let reply := answer request env
    (next reply.2).run answer reply.1

@[simp] theorem run_stop (answer : (request : R) → E → E × Answer request) (state : σ)
    (outcome : Outcome Unit) (env : E) :
    (stop state outcome : Program Answer σ).run answer env = ⟨env, state, outcome⟩ := rfl

@[simp] theorem run_ask (answer : (request : R) → E → E × Answer request) (request : R)
    (next : Answer request → Program Answer σ) (env : E) :
    (ask request next).run answer env =
      (next (answer request env).2).run answer (answer request env).1 := rfl

/-- **Invariants of a run.** What every answered request keeps, the run keeps. -/
theorem run_invariant {answer : (request : R) → E → E × Answer request} (P : E → Prop)
    (keeps : ∀ request env, P env → P (answer request env).1) (program : Program Answer σ)
    (env : E) (start : P env) : P (program.run answer env).env := by
  induction program generalizing env with
  | stop state outcome => exact start
  | ask request next ih => exact ih _ _ (keeps request env start)

end Program

end BundleRunner
