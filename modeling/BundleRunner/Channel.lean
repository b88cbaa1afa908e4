import BundleRunner.Record

namespace BundleRunner

/-!
# Sinks and channels

A `Sink` takes records or refuses them.  Its answer may depend on everything offered to it before,
so a sink is a function of that past.  A `Channel` is a sink together with its past:

* `Channel.offer` — hand a record over and hear the answer;
* `Sink.collecting`, `Sink.failing`, `Sink.failingAfter` — the sinks of tests.
-/

variable {τ : Type}

/-- The receiver of records: its answer to a record, given all records offered before. -/
structure Sink (τ : Type) where
  answer : List (Record τ) → Record τ → Except Fault Unit

namespace Sink

/-- The fault of a sink that refuses with a message. -/
def refusal (message : String) : Fault := .collaborator "sink" message

/-- The sink that takes every record. -/
def collecting : Sink τ := ⟨fun _ _ => .ok ()⟩

/-- The sink that refuses every record. -/
def failing (message : String) : Sink τ := ⟨fun _ _ => .error (refusal message)⟩

/-- The sink that takes the first `n` records and refuses the rest. -/
def failingAfter (n : Nat) (message : String) : Sink τ :=
  ⟨fun past _ => if past.length < n then .ok () else .error (refusal message)⟩

end Sink

/-- A sink, the records offered to it so far, and those of them that it holds. -/
structure Channel (τ : Type) where
  sink : Sink τ
  offered : List (Record τ)
  accepted : List (Record τ)

namespace Channel

/-- A sink that nothing was offered to yet. -/
def ofSink (sink : Sink τ) : Channel τ := ⟨sink, [], []⟩

/-- Offer a record to the sink, which holds it if it does not refuse it. -/
def offer (c : Channel τ) (r : Record τ) : Channel τ × Except Fault Unit :=
  match c.sink.answer c.offered r with
  | .ok () => ({ c with offered := c.offered ++ [r], accepted := c.accepted ++ [r] }, .ok ())
  | .error fault => ({ c with offered := c.offered ++ [r] }, .error fault)

@[simp] theorem offered_offer (c : Channel τ) (r : Record τ) :
    (c.offer r).1.offered = c.offered ++ [r] := by
  simp only [offer]; split <;> rfl

@[simp] theorem sink_offer (c : Channel τ) (r : Record τ) : (c.offer r).1.sink = c.sink := by
  simp only [offer]; split <;> rfl

/-- A record is held exactly when the offer succeeds. -/
theorem accepted_offer (c : Channel τ) (r : Record τ) :
    (c.offer r).1.accepted =
      match (c.offer r).2 with
      | .ok () => c.accepted ++ [r]
      | .error _ => c.accepted := by
  simp only [offer]; split <;> rfl

/-- A record that is taken is held. -/
theorem accepted_offer_of_ok {c : Channel τ} {r : Record τ} (taken : (c.offer r).2 = .ok ()) :
    (c.offer r).1.accepted = c.accepted ++ [r] := by
  rw [accepted_offer, taken]

/-- A record that is refused is not held. -/
theorem accepted_offer_of_ne_ok {c : Channel τ} {r : Record τ}
    (refused : (c.offer r).2 ≠ .ok ()) : (c.offer r).1.accepted = c.accepted := by
  rw [accepted_offer]
  cases answer : (c.offer r).2 with
  | ok => exact absurd answer refused
  | error fault => rfl

/-- The answer to an offer is that of the sink. -/
theorem answer_offer (c : Channel τ) (r : Record τ) :
    (c.offer r).2 = c.sink.answer c.offered r := by
  simp only [offer]
  split
  · rename_i taken
    exact taken.symm
  · rename_i refused
    exact refused.symm

/-- A collecting sink takes every record. -/
theorem offer_collecting {c : Channel τ} (h : c.sink = .collecting) (r : Record τ) :
    c.offer r =
      ({ c with offered := c.offered ++ [r], accepted := c.accepted ++ [r] }, .ok ()) := by
  simp [offer, h, Sink.collecting]

/-- The values of the records held. -/
def values (c : Channel τ) : List τ := c.accepted.map Record.value

/-- Take the records out of the channel. -/
def take (c : Channel τ) : List (Record τ) × Channel τ := (c.accepted, { c with accepted := [] })

end Channel

end BundleRunner
