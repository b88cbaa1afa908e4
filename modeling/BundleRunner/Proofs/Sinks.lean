import BundleRunner.Proofs.Arrivals
import BundleRunner.Proofs.Emissions

namespace BundleRunner

/-!
# What the sinks hold

A record is routed while its emission is made: when the emission is answered with success, the
record lies in the sink of its channel, and when it is answered with an error, no sink has changed.
Nothing else in a run touches the sinks, so they hold exactly what was sent to them, in order:

* `Event.sent` — the records that the emission of an event sends to a channel, if it makes one;
* `Leads.held` — steps that follow one another add what they send, in order;
* `Router.Collects` — the sinks are collecting ones, and hold everything that they were offered;
* `sinks_hold_what_was_sent` — hence what each sink holds at every point of a run.
-/

variable {α β σ : Type}

/-! ### One event -/

namespace Event

/-- The emissions of an event: one, or none. -/
def emissions (e : Event α β σ) : List (Emission β) := e.moments.flatMap Moment.emissions

/-- The records that an event sends to a channel. -/
def sent (channel : ChannelId) (e : Event α β σ) : List (Record (β ⊕ Value)) :=
  e.emissions.flatMap (·.sent channel)

/-- **One event.** The sinks take what the event sends to them, and nothing else. -/
theorem held_after (e : Event α β σ) (channel : ChannelId) :
    e.after.router.held channel = e.before.router.held channel ++ e.sent channel := by
  by_cases silent : e.moments = []
  · -- what is not a request does not touch the outputs
    have same := e.router_after (part_ne_of_silent silent rfl)
    have nothing : e.sent channel = [] := by simp [sent, emissions, silent]
    rw [same, nothing, List.append_nil]
  · cases e with
    | request m =>
      have sends : (request m : Event α β σ).sent channel =
          m.emissions.flatMap (·.sent channel) := by
        simp [sent, emissions, moments]
      rw [sends]
      exact m.emits.held channel
    | _ => exact absurd rfl silent

end Event

/-- **Steps in a row.** What the sinks hold after events that follow one another is what they held
    before, and what the events sent, in order. -/
theorem Leads.held {s s' : RunState β} {xs : List (Event α β σ)}
    (leads : Leads Event.before Event.after s xs s') (channel : ChannelId) :
    s'.router.held channel = s.router.held channel ++ xs.flatMap (Event.sent channel) := by
  have follows : ∀ e ∈ xs, e.after.world.router.held channel =
      e.before.world.router.held channel ++ e.sent channel := fun e _ => e.held_after channel
  have folded := leads.fold (fun s => s.router.held channel)
    (fun e records => records ++ e.sent channel) follows
  rw [List.foldl_append_eq_append, ← List.flatMap_def] at folded
  exact folded

/-! ### Collecting sinks -/

/-- A channel with a collecting sink that holds everything that it was offered. -/
structure Channel.Collects {τ : Type} (c : Channel τ) : Prop where
  sink : c.sink = .collecting
  all : c.accepted = c.offered

/-- A collecting sink holds the next record as well. -/
theorem Channel.Collects.offer {τ : Type} {c : Channel τ} (h : c.Collects) (record : Record τ) :
    (c.offer record).1.Collects := by
  rw [Channel.offer_collecting h.sink]
  refine ⟨h.sink, ?_⟩
  show c.accepted ++ [record] = c.offered ++ [record]
  rw [h.all]

namespace Router

/-- All channels collect. -/
structure Collects (r : Router β) : Prop where
  main : r.main.Collects
  side : ∀ output ∈ r.side, output.channel.Collects

/-- What was offered to collecting sinks is what they hold. -/
theorem Collects.held_eq_reached {r : Router β} (h : r.Collects) (channel : ChannelId) :
    r.held channel = r.reached channel := by
  cases channel with
  | main => rw [held_main, reached_main, h.main.all]
  | tagged tag =>
    cases declared : r.side? tag with
    | none => simp [held, reached, declared]
    | some output =>
      have collects := h.side output (List.mem_of_find?_eq_some declared)
      rw [held_tagged declared, reached_tagged declared, collects.all]

/-- A collecting channel may be put behind any tag. -/
theorem Collects.setChannel {r : Router β} (h : r.Collects) (tag : String)
    {channel : Channel Value} (collects : channel.Collects) :
    (r.setChannel tag channel).Collects := by
  refine ⟨h.main, fun output member => ?_⟩
  obtain ⟨output', member', rfl⟩ := List.mem_map.mp member
  -- the channel behind the tag is the new one, and the others stay
  by_cases behind : (output'.tag == tag) = true
  · rw [if_pos behind]
    exact collects
  · rw [if_neg behind]
    exact h.side output' member'

theorem Collects.emitMain {r : Router β} (h : r.Collects) (scope : Scope α) (value : β)
    (explicit : Option Instant) : (r.emitMain scope value explicit).router.Collects := by
  cases found : scope.resolve explicit with
  | error fault =>
    rw [emitMain_of_error found]
    exact h
  | ok place =>
    rw [emitMain_of_ok found]
    exact ⟨h.main.offer _, h.side⟩

/-- An emission to a side output leaves all channels alone, or has a record offered behind its
    tag. -/
theorem channels_emitTagged (r : Router β) (scope : Scope α) (tag : String) (value : Value)
    (explicit : Option Instant) :
    (r.emitTagged scope tag value explicit).router.main = r.main ∧
      ((r.emitTagged scope tag value explicit).router.side = r.side ∨
        ∃ output record, r.side? tag = some output ∧
          (r.emitTagged scope tag value explicit).router.side =
            (r.setChannel tag (output.channel.offer record).1).side) := by
  unfold emitTagged
  cases declared : r.side? tag with
  | none => exact ⟨rfl, Or.inl rfl⟩
  | some output =>
    -- of all the ways to refuse, none reaches a channel
    by_cases room : r.hasRoom tag = true
    · simp only [room, if_true]
      cases scope.resolve explicit with
      | error fault => exact ⟨rfl, Or.inl rfl⟩
      | ok place =>
        by_cases typed : value.type = output.type
        · simp only [typed, if_true]
          exact ⟨rfl, Or.inr ⟨output, _, rfl, rfl⟩⟩
        · simp only [typed, if_false]
          exact ⟨rfl, Or.inl rfl⟩
    · simp only [room]
      exact ⟨rfl, Or.inl rfl⟩

theorem Collects.emitTagged {r : Router β} (h : r.Collects) (scope : Scope α) (tag : String)
    (value : Value) (explicit : Option Instant) :
    (r.emitTagged scope tag value explicit).router.Collects := by
  obtain ⟨main, side | ⟨output, record, declared, side⟩⟩ :=
    r.channels_emitTagged scope tag value explicit
  · exact ⟨main ▸ h.main, side ▸ h.side⟩
  · have collects := h.side output (List.mem_of_find?_eq_some declared)
    have put := h.setChannel tag (collects.offer record)
    exact ⟨main ▸ h.main, side ▸ put.side⟩

end Router

/-- An event leaves collecting sinks collecting. -/
theorem Event.collects_after {e : Event α β σ} (h : e.before.router.Collects) :
    e.after.router.Collects := by
  rcases e.router_cases with
    same | ⟨scope, value, explicit, made⟩ | ⟨scope, tag, value, explicit, made⟩
  · rw [same]
    exact h
  · rw [made]
    exact h.emitMain scope value explicit
  · rw [made]
    exact h.emitTagged scope tag value explicit

/-- Collecting sinks collect in every state of a run. -/
theorem Leads.collects {s s' : RunState β} {xs : List (Event α β σ)}
    (leads : Leads Event.before Event.after s xs s') (start : s.router.Collects) :
    ∀ e ∈ xs, e.after.router.Collects := by
  -- the world has other counters, and the same channels
  have world : ∀ s : RunState β, s.world.router.Collects ↔ s.router.Collects :=
    fun s => ⟨fun h => ⟨h.main, h.side⟩, fun h => ⟨h.main, h.side⟩⟩
  have keeps : ∀ e ∈ xs, e.before.world.router.Collects → e.after.world.router.Collects :=
    fun e _ h => (world _).mpr (Event.collects_after ((world _).mp h))
  intro e he
  have kept := (leads.invariant (fun s => s.router.Collects) keeps ((world s).mpr start)).1 e he
  exact (world _).mp kept.2

/-- The sinks of a binding are all collecting ones. -/
def Declarations.Collects (d : Declarations α β) : Prop :=
  d.main = .collecting ∧ ∀ output ∈ d.sideOutputs, output.sink = .collecting

/-- The channels of collecting sinks collect from the beginning. -/
theorem Runner.collects_routerOf {binding : Binding α β} (collects : binding.Collects)
    (settings : Settings) : (routerOf binding settings).Collects := by
  refine ⟨⟨collects.1, rfl⟩, fun output member => ?_⟩
  obtain ⟨declared, member', rfl⟩ := List.mem_map.mp member
  exact ⟨collects.2 declared member', rfl⟩

/-- Nothing is held by the sinks of a new router. -/
theorem Runner.held_routerOf (binding : Binding α β) (settings : Settings) (channel : ChannelId) :
    (routerOf binding settings).held channel = [] := by
  cases channel with
  | main => rfl
  | tagged tag =>
    cases found : (routerOf binding settings).side? tag with
    | none => simp [Router.held, found]
    | some output =>
      obtain ⟨declared, _, rfl⟩ := List.mem_map.mp (List.mem_of_find?_eq_some found)
      rw [Router.held_tagged found]
      rfl

/-! ### Whole runs -/

/-- An event makes one emission at most. -/
theorem Event.emissions_of_mem {e : Event α β σ} {emission : Emission β}
    (h : emission ∈ e.emissions) : e.emissions = [emission] ∧ emission.Coherent := by
  cases e with
  | request m =>
    have own : (request m : Event α β σ).emissions = m.emissions := by
      simp [emissions, moments]
    rw [own] at h ⊢
    refine ⟨?_, Moment.coherent_of_mem_emissions h⟩
    obtain ⟨asked, output, made⟩ := Moment.mem_emissions.mp h
    simp [Moment.emissions, output, made]
  | _ => exact absurd h (by simp [emissions, moments])

/-- What an emission leaves in the sinks: its record in its own, if it is answered with success, and
    nothing otherwise. -/
theorem Event.held_after_of_mem {e : Event α β σ} {emission : Emission β}
    (h : emission ∈ e.emissions) :
    (emission.answer = .ok () → ∃ record, emission.record = .ok record ∧ ∀ channel,
      e.after.router.held channel = e.before.router.held channel ++
        if channel = emission.channel then [record] else []) ∧
    ∀ fault, emission.answer = .error fault → ∀ channel,
      e.after.router.held channel = e.before.router.held channel := by
  obtain ⟨own, coherent⟩ := emissions_of_mem h
  -- no other emission is made at the event
  have sends : ∀ channel, e.sent channel = emission.sent channel := by
    intro channel
    rw [sent, own, List.flatMap_singleton]
  constructor
  · intro succeeds
    obtain ⟨record, placed⟩ := coherent.placed (coherent.handed succeeds)
    refine ⟨record, placed, fun channel => ?_⟩
    rw [e.held_after, sends, Emission.sent_of_ok succeeds placed]
  · intro fault fails channel
    rw [e.held_after, sends, Emission.sent_of_error fails, List.append_nil]

/-- **What the sinks hold.**  A runner was built with collecting sinks only, one for the main output
    and one for each tag, and is driven through any number of bundles, in whatever way they end.
    Before and after every event of the run, the sink of a channel holds exactly the records of the
    emissions on this channel that were answered with success so far, in the order in which they
    were made; that is everything that it was ever offered.  When an emission is answered with
    success, its record already lies in the sink of its channel, at the end, and the other sinks are
    as before; when it is answered with an error, all sinks are.  What a sink holds is never taken
    from it, neither by a later event nor by a later call. -/
theorem sinks_hold_what_was_sent (callback : Callback α β σ) (state : σ) (binding : Binding α β)
    (settings : Settings) (r : Runner α β σ)
    (built : (Runner.build callback state binding settings).outcome = .done r)
    (collects : binding.Collects) (calls : List (Call α)) :
    (∀ channel, ((Session.ofRunner r).performAll calls).1.runner.run.router.held channel =
      ((Session.ofRunner r).events calls).flatMap (Event.sent channel)) ∧
    (∀ xs e ys, (Session.ofRunner r).events calls = xs ++ e :: ys → ∀ channel,
      e.before.router.held channel = xs.flatMap (Event.sent channel) ∧
      e.after.router.held channel = (xs ++ [e]).flatMap (Event.sent channel) ∧
      e.after.router.held channel = e.after.router.reached channel ∧
      (∀ later ∈ ys, e.after.router.held channel <+: later.before.router.held channel) ∧
      e.after.router.held channel <+:
        ((Session.ofRunner r).performAll calls).1.runner.run.router.held channel) ∧
    (∀ e ∈ (Session.ofRunner r).events calls, ∀ emission ∈ e.emissions,
      (emission.answer = .ok () → ∃ record, emission.record = .ok record ∧ ∀ channel,
        e.after.router.held channel = e.before.router.held channel ++
          if channel = emission.channel then [record] else []) ∧
      ∀ fault, emission.answer = .error fault → ∀ channel,
        e.after.router.held channel = e.before.router.held channel) ∧
    ∀ earlier later, calls = earlier ++ later → ∀ channel,
      ((Session.ofRunner r).performAll earlier).1.runner.run.router.held channel <+:
        ((Session.ofRunner r).performAll calls).1.runner.run.router.held channel := by
  obtain ⟨-, router⟩ := Runner.of_build built
  have start : ∀ channel, (Session.ofRunner r).runner.run.router.held channel = [] := by
    intro channel
    show r.run.router.held channel = []
    rw [router, Runner.held_routerOf]
  have leads := (Session.ofRunner r).leads_events calls
  refine ⟨fun channel => ?_, fun xs e ys split channel => ?_, ?_, ?_⟩
  · rw [leads.held, start, List.nil_append]
  · have collecting : e.after.router.Collects :=
      leads.collects (router ▸ Runner.collects_routerOf collects settings) e
        (split ▸ List.mem_append_right xs (List.mem_cons_self ..))
    rw [split] at leads
    -- the events before `e` lead up to it, and those after it lead on
    obtain ⟨prior, rest⟩ := leads.split
    have before : e.before.router.held channel = xs.flatMap (Event.sent channel) := by
      rw [prior.held, start, List.nil_append]
    refine ⟨before, ?_, collecting.held_eq_reached channel, fun later h => ?_, ?_⟩
    · rw [e.held_after, before, List.flatMap_append, List.flatMap_singleton]
    · obtain ⟨between, after, cut⟩ := List.append_of_mem h
      rw [cut] at rest
      exact ⟨_, (rest.split.1.held channel).symm⟩
    · exact ⟨_, (rest.held channel).symm⟩
  · exact fun e _ emission h => Event.held_after_of_mem h
  · intro earlier later split channel
    have rest := ((Session.ofRunner r).performAll earlier).1.leads_events later
    rw [split, Session.performAll_append]
    exact ⟨_, (rest.held channel).symm⟩

/-! ### A callback that copies

The callback emits each element, and a copy of it behind a tag.  The copy of zero has the wrong
type, so its emission fails, and with it the bundle.
-/

namespace Copies

/-- The copy of an element: zero is copied as a text. -/
def copy (n : Nat) : Value := if n = 0 then ⟨.text, "zero"⟩ else ⟨.unsigned, n⟩

/-- Emits the element, and then its copy behind a tag. -/
def callback : Callback Nat Nat Unit :=
  .ofProcess fun view state =>
    .ask (.output (.emit view.element none)) fun _ =>
      .ask (.output (.emitTagged "copies" (copy view.element) none)) fun result =>
        .stop state (.ofExcept result)

/-- A side output for the copies, which are numbers. -/
def binding : Binding Nat Nat :=
  ⟨{ Declarations.ofMain .collecting with sideOutputs := [⟨"copies", .unsigned, .collecting⟩] },
    by decide, List.nodup_nil⟩

/-- A record of a number at the epoch, in the whole of time. -/
def record (n : Nat) : Record Nat := ⟨n, .epoch, .single .global⟩

/-- A bundle that fails over zero, and another one. -/
def calls : List (Call Nat) :=
  [.openBundle, .start, .process (record 3), .process (record 0),
    .openBundle, .start, .process (record 4), .finish]

end Copies

/-- The main output holds all three elements, the side output the two copies that were emitted with
    success, and the failed bundle takes nothing away. -/
theorem sinks_hold_what_was_sent_copies :
    ∃ r, (Runner.build Copies.callback () Copies.binding .default).outcome = .done r ∧
      Copies.binding.Collects ∧
      (((Session.ofRunner r).performAll Copies.calls).1.runner.run.router.held .main).map
        Record.value = [.inl 3, .inl 0, .inl 4] ∧
      (((Session.ofRunner r).performAll Copies.calls).1.runner.run.router.held
        (.tagged "copies")).map Record.value =
          [.inr ⟨.unsigned, 3⟩, .inr ⟨.unsigned, 4⟩] ∧
      ((Session.ofRunner r).performAll (Copies.calls.take 4)).1.runner.run.router.held .main <+:
        ((Session.ofRunner r).performAll Copies.calls).1.runner.run.router.held .main := by
  have collects : Copies.binding.Collects := by
    refine ⟨rfl, fun output member => ?_⟩
    obtain rfl := List.mem_singleton.mp member
    rfl
  refine ⟨_, rfl, collects, rfl, rfl, ?_⟩
  obtain ⟨-, -, -, stays⟩ := sinks_hold_what_was_sent Copies.callback () Copies.binding .default _
    rfl collects Copies.calls
  exact stays (Copies.calls.take 4) (Copies.calls.drop 4) rfl .main

end BundleRunner
