import Mathlib.Algebra.BigOperators.Group.List.Basic
import Mathlib.Data.List.Nodup
import BundleRunner.Proofs.Sinks
import BundleRunner.Proofs.Summary
import BundleRunner.Proofs.TagLimit

namespace BundleRunner

/-!
# What the numbers of outputs count

The router counts an emission when it hands the record over, before the sink is asked.  The record
may still be refused then: behind a tag for its type, and anywhere by the sink.  A callback that
ignores the refusal can finish its bundle, so the numbers of outputs in the summary are not the
numbers of records that the sinks took.  This file proves what they are:

* `Emission.refused` — the record of the emission was handed over, and refused;
* `Emission.countP_handedTo` — what is handed over is taken by a sink or refused;
* `Session.declared_of_mem` — what is handed over behind a tag is so behind a declared one;
* `summary_counts_handovers` — hence the numbers of a summary, against sinks and refusals.
-/

variable {α β σ : Type}

/-! ### Taken or refused -/

/-- Whether the record of an emission is refused after it was handed over: for its type, or by the
    sink. -/
def Emission.refused (e : Emission β) : Bool := e.handedOver && !e.answer.isOk

/-- One emission that is handed over to one of several channels is sent to exactly one of them, or
    refused. -/
theorem Emission.one_handedTo {e : Emission β} {channels : ChannelId → Bool} {cs : List ChannelId}
    (different : cs.Nodup) (meant : ∀ c ∈ cs, channels c = true) (coherent : e.Coherent)
    (covered : e.handedTo channels = true → e.channel ∈ cs) :
    (if e.handedTo channels then 1 else 0) =
      (cs.map fun c => (e.sent c).length).sum +
        if channels e.channel && e.refused then 1 else 0 := by
  cases answer : e.answer with
  | error fault =>
    have nothing : (cs.map fun c => (e.sent c).length).sum = 0 := by
      simp [sent_of_error answer]
    have refused : e.refused = e.handedOver := by
      simp [Emission.refused, answer, Except.isOk, Except.toBool]
    rw [nothing, refused, Nat.zero_add, handedTo, Bool.and_comm]
  | ok u =>
    -- a success was handed over, so its channel is among `cs` exactly when it is meant
    have handed := coherent.handed answer
    obtain ⟨record, placed⟩ := coherent.placed handed
    have kept : e.refused = false := by simp [Emission.refused, answer, Except.isOk, Except.toBool]
    have sends : ∀ c, (e.sent c).length = if c = e.channel then 1 else 0 := by
      intro c
      rw [sent_of_ok answer placed]
      split <;> rfl
    have taken : (cs.map fun c => (e.sent c).length).sum = cs.count e.channel := by
      simp [sends, List.sum_map_ite, List.count_eq_length_filter, beq_eq_decide]
    have member : e.channel ∈ cs ↔ e.handedTo channels = true := by
      refine ⟨fun h => ?_, covered⟩
      rw [handedTo, handed, Bool.true_and]
      exact meant _ h
    rw [taken, different.count, kept, Bool.and_false, if_neg Bool.false_ne_true, Nat.add_zero]
    simp only [member]

/-- **Taken or refused.** Of the emissions that are handed over to some channels, each is sent to
    one of the channels, or refused. -/
theorem Emission.countP_handedTo {es : List (Emission β)} {channels : ChannelId → Bool}
    {cs : List ChannelId} (different : cs.Nodup) (meant : ∀ c ∈ cs, channels c = true)
    (coherent : ∀ e ∈ es, e.Coherent)
    (covered : ∀ e ∈ es, e.handedTo channels = true → e.channel ∈ cs) :
    es.countP (·.handedTo channels) =
      (cs.map fun c => (es.flatMap (·.sent c)).length).sum +
        es.countP fun e => channels e.channel && e.refused := by
  -- by the emissions: each of them counts once on both sides, or on neither
  induction es with
  | nil => simp
  | cons e es ih =>
    have first := e.one_handedTo different meant (coherent e (List.mem_cons_self ..))
      (covered e (List.mem_cons_self ..))
    have rest := ih (fun e h => coherent e (List.mem_cons_of_mem _ h))
      fun e h => covered e (List.mem_cons_of_mem _ h)
    simp only [List.countP_cons, List.flatMap_cons, List.length_append, List.sum_map_add]
    omega

/-- What is handed over to the main output is taken by its sink or refused. -/
theorem Emission.countP_handedTo_main {es : List (Emission β)} (coherent : ∀ e ∈ es, e.Coherent) :
    es.countP (·.handedTo ChannelId.isMain) = (es.flatMap (·.sent .main)).length +
      es.countP fun e => e.channel.isMain && e.refused := by
  have covered : ∀ e ∈ es, e.handedTo ChannelId.isMain = true → e.channel ∈ [ChannelId.main] := by
    intro e _ handed
    have main : e.channel.isMain = true := (Bool.and_eq_true _ _ ▸ handed).2
    cases channel : e.channel with
    | main => exact List.mem_cons_self ..
    | tagged tag =>
      rw [channel] at main
      exact absurd main (by simp [ChannelId.isMain])
  have meant : ∀ c ∈ [ChannelId.main], c.isMain = true := by
    intro c hc
    rw [List.mem_singleton.mp hc]
    rfl
  have counted := countP_handedTo (List.nodup_singleton _) meant coherent covered
  rw [List.map_singleton, List.sum_singleton] at counted
  exact counted

/-- What is handed over behind declared tags is taken by one of their sinks or refused. -/
theorem Emission.countP_handedTo_side {es : List (Emission β)} {tags : List String}
    (different : tags.Nodup) (coherent : ∀ e ∈ es, e.Coherent)
    (declared : ∀ e ∈ es, ∀ tag, e.channel = .tagged tag → e.handedOver = true → tag ∈ tags) :
    es.countP (·.handedTo ChannelId.isSide) =
      (tags.map fun tag => (es.flatMap (·.sent (.tagged tag))).length).sum +
        es.countP fun e => e.channel.isSide && e.refused := by
  have covered : ∀ e ∈ es, e.handedTo ChannelId.isSide = true →
      e.channel ∈ tags.map ChannelId.tagged := by
    intro e he handed
    have both : e.handedOver = true ∧ e.channel.isSide = true := Bool.and_eq_true _ _ ▸ handed
    cases channel : e.channel with
    | main =>
      rw [channel] at both
      exact absurd both.2 (by simp [ChannelId.isSide, ChannelId.isMain])
    | tagged tag => exact List.mem_map_of_mem (declared e he tag channel both.1)
  have meant : ∀ c ∈ tags.map ChannelId.tagged, c.isSide = true := by
    intro c hc
    obtain ⟨tag, -, rfl⟩ := List.mem_map.mp hc
    rfl
  have distinct : (tags.map ChannelId.tagged).Nodup :=
    different.map fun tag other same => ChannelId.tagged.inj same
  have counted := countP_handedTo distinct meant coherent covered
  rw [List.map_map] at counted
  exact counted

/-! ### Declared tags -/

namespace Router

/-- An emission to a side output leaves the tags alone. -/
theorem tags_emitTagged (r : Router β) (scope : Scope α) (tag : String) (value : Value)
    (explicit : Option Instant) :
    (r.emitTagged scope tag value explicit).router.side.map SideOutput.tag =
      r.side.map SideOutput.tag := by
  obtain ⟨-, side | ⟨output, record, -, side⟩⟩ := r.channels_emitTagged scope tag value explicit
  · rw [side]
  · rw [side]
    exact congrArg (·.2.2) (r.tagging_setChannel tag _)

end Router

/-- No event changes the tags that are declared. -/
theorem Event.tags_after (e : Event α β σ) :
    e.after.router.side.map SideOutput.tag = e.before.router.side.map SideOutput.tag := by
  -- a sink is offered records, and its tag stays
  rcases e.router_cases with
    same | ⟨scope, value, explicit, made⟩ | ⟨scope, tag, value, explicit, made⟩
  · rw [same]
  · rw [made]
    exact congrArg (·.2.2) (e.before.router.tagging_emitMain scope value explicit)
  · rw [made]
    exact e.before.router.tags_emitTagged scope tag value explicit

/-- What is handed over behind a tag is so behind a declared one. -/
theorem Moment.declared_of_handedOver {m : Moment α β} {e : Emission β} (h : e ∈ m.emissions)
    {tag : String} (meant : e.channel = .tagged tag) (handed : e.handedOver = true) :
    tag ∈ m.before.router.side.map SideOutput.tag := by
  obtain ⟨⟨scope, request⟩, -, emission⟩ := mem_emissions.mp h
  cases request with
  | emit value explicit =>
    obtain rfl := Option.some.inj emission
    exact absurd meant (by simp)
  | emitTagged other value explicit =>
    obtain rfl := Option.some.inj emission
    obtain rfl : other = tag := ChannelId.tagged.inj meant
    rw [Bool.and_eq_true, Bool.and_eq_true] at handed
    obtain ⟨output, declared⟩ := Option.isSome_iff_exists.mp handed.1.1
    exact List.mem_map.mpr
      ⟨output, List.mem_of_find?_eq_some declared, Router.tag_of_side? declared⟩
  | _ => exact absurd emission (by simp [OutputRequest.emission?])

namespace Session

/-- The emissions of calls are those of their requests. -/
theorem exists_request_of_emission {s : Session α β σ} {calls : List (Call α)} {e : Emission β}
    (h : e ∈ (s.stages calls).flatMap Stage.emissions) :
    ∃ m, .request m ∈ s.events calls ∧ e ∈ m.emissions := by
  obtain ⟨st, hst, h⟩ := List.mem_flatMap.mp h
  obtain ⟨v, hv, h⟩ := List.mem_flatMap.mp h
  obtain ⟨m, hm, h⟩ := List.mem_flatMap.mp h
  have during : m ∈ (s.stages calls).flatMap Stage.moments :=
    List.mem_flatMap.mpr ⟨st, hst, List.mem_flatMap.mpr ⟨v, hv, hm⟩⟩
  rw [← s.flatMap_moments_events] at during
  obtain ⟨event, member, asks⟩ := List.mem_flatMap.mp during
  cases event with
  | request m' =>
    obtain rfl := List.mem_singleton.mp asks
    exact ⟨m, member, h⟩
  | _ => exact absurd asks (by simp [Event.moments])

/-- The tags that are declared stay the same. -/
theorem tags_events {s : Session α β σ} {tags : List String}
    (start : s.runner.run.router.side.map SideOutput.tag = tags) (calls : List (Call α)) :
    (∀ e ∈ s.events calls, e.before.router.side.map SideOutput.tag = tags) ∧
      (s.performAll calls).1.runner.run.router.side.map SideOutput.tag = tags := by
  obtain ⟨kept, stop⟩ := (s.leads_events calls).invariant
    (fun s => s.router.side.map SideOutput.tag = tags)
    (fun e _ same => e.tags_after.trans same) start
  exact ⟨fun e he => (kept e he).1, stop⟩

/-- What is handed over behind a tag in a run is so behind a declared one. -/
theorem declared_of_mem {s : Session α β σ} {tags : List String}
    (start : s.runner.run.router.side.map SideOutput.tag = tags) {calls : List (Call α)}
    {e : Emission β} (h : e ∈ (s.stages calls).flatMap Stage.emissions) {tag : String}
    (meant : e.channel = .tagged tag) (handed : e.handedOver = true) : tag ∈ tags := by
  obtain ⟨m, member, made⟩ := exists_request_of_emission h
  rw [← (tags_events start calls).1 (.request m) member]
  exact Moment.declared_of_handedOver made meant handed

end Session

/-! ### The numbers of a summary -/

/-- **What the numbers of outputs count.**  A runner was built, any calls were made on it, and then
    a bundle was opened and finished, with any calls on it in between.  From the last start of the
    bundle that passed the order check to the end of its finish, the sinks took the records of the
    emissions that were answered with success.  The summary says, for the main output, how many
    records its sink took and how many it refused; and for the side outputs, how many records their
    sinks took, all declared tags together, and how many were refused, by the sink or for their
    type.  What is not handed over at all is not counted. -/
theorem summary_counts_handovers (callback : Callback α β σ) (state : σ) (binding : Binding α β)
    (settings : Settings) (r : Runner α β σ)
    (built : (Runner.build callback state binding settings).outcome = .done r)
    (earlier later : List (Call α)) (keeps : ∀ call ∈ later, call.keepsBundle = true)
    (opened stopped : Session α β σ)
    (opens : ((Session.ofRunner r).performAll (earlier ++ [.openBundle])).1 = opened)
    (stops : (opened.performAll later).1 = stopped) (summary : Summary)
    (done : (stopped.perform .finish).2 = .finished (.done summary)) :
    ∃ xs ys es, later = xs ++ .start :: ys ∧
      (Stage.mk (opened.performAll xs).1 .start).accepted? = some .start ∧
      (∀ st ∈ (opened.performAll (xs ++ [.start])).1.stages ys, st.accepted? ≠ some .start) ∧
      es = ((opened.performAll xs).1.stages (.start :: (ys ++ [.finish]))).flatMap
        Stage.emissions ∧
      (∀ channel, (stopped.perform .finish).1.runner.run.router.held channel =
        (opened.performAll xs).1.runner.run.router.held channel ++ es.flatMap (·.sent channel)) ∧
      summary.mainOutputs = (es.flatMap (·.sent .main)).length +
        es.countP (fun e => e.channel.isMain && e.refused) ∧
      summary.sideOutputs =
        (binding.tags.map fun tag => (es.flatMap (·.sent (.tagged tag))).length).sum +
          es.countP (fun e => e.channel.isSide && e.refused) := by
  subst stops
  have fresh : opened.bundle = some (.fresh (earlier.countP Call.opens + 1)) := by
    rw [← opens]
    exact Session.bundle_openBundle built earlier
  have declared : opened.runner.run.router.side.map SideOutput.tag = binding.tags := by
    rw [← opens]
    refine (Session.tags_events ?_ _).2
    show r.run.router.side.map SideOutput.tag = binding.tags
    rw [(Runner.of_build built).2]
    simp [Runner.routerOf, Declarations.tags]
  obtain ⟨xs, ys, split, restarts, cut, leg⟩ := Session.exists_lastLeg fresh keeps done
  obtain ⟨b, s', -, read, emits, -, -, held⟩ := leg.emits
  rw [cut] at held
  have coherent : ∀ e ∈ ((opened.performAll xs).1.stages (.start :: (ys ++ [.finish]))).flatMap
      Stage.emissions, e.Coherent := by
    intro e he
    obtain ⟨m, -, made⟩ := Session.exists_request_of_emission he
    exact Moment.coherent_of_mem_emissions made
  refine ⟨xs, ys, _, split, leg.start, restarts, rfl, fun channel => ?_, ?_, ?_⟩
  · rw [held, emits.held]
    rfl
  -- the leg begins with the counters at zero
  · rw [read, ← Emission.countP_handedTo_main coherent]
    exact emits.main.trans (Nat.zero_add _)
  · have among : ∀ e ∈ ((opened.performAll xs).1.stages (.start :: (ys ++ [.finish]))).flatMap
        Stage.emissions, ∀ tag, e.channel = .tagged tag → e.handedOver = true →
          tag ∈ binding.tags :=
      fun e he tag => Session.declared_of_mem (Session.tags_events declared xs).2 he
    have different : binding.tags.Nodup := binding.tags_nodup
    rw [read, ← Emission.countP_handedTo_side different coherent among]
    exact emits.side.trans (Nat.zero_add _)

/-! ### A callback that ignores refusals

The callback emits each element, and its name behind a tag for numbers, and ignores how that ends.
-/

namespace Ignores

/-- Emits the element, and then its name behind a tag, whatever comes of it. -/
def callback : Callback String String Unit :=
  .ofProcess fun view state =>
    .ask (.output (.emit view.element none)) fun _ =>
      .ask (.output (.emitTagged "numbers" ⟨.text, view.element⟩ none)) fun _ =>
        .stop state (.done ())

/-- A main output with a given sink, and a side output for numbers. -/
def binding (main : Sink String) : Binding String String :=
  ⟨{ Declarations.ofMain main with sideOutputs := [⟨"numbers", .unsigned, .collecting⟩] },
    List.nodup_singleton _, List.nodup_nil⟩

/-- A record of a text at the epoch, in the whole of time. -/
def record (text : String) : Record String := ⟨text, .epoch, .single .global⟩

/-- Two records. -/
def later : List (Call String) := [.start, .process (record "x"), .process (record "y")]

end Ignores

/-- A bundle is finished that emitted twice to the main output, whose sink takes nothing, and twice
    behind the tag, with a wrong type.  Its summary says two and two, and no sink holds a record. -/
theorem refused_emissions_counted :
    ∃ r, (Runner.build Ignores.callback () (Ignores.binding (.failing "full"))
        .default).outcome = .done r ∧
      ∃ stopped, ((Session.ofRunner r).performAll (.openBundle :: Ignores.later)).1 = stopped ∧
        (stopped.perform .finish).2 = .finished (.done ⟨1, 2, 2, 2, 2⟩) ∧
        (stopped.perform .finish).1.runner.run.router.held .main = [] ∧
        (stopped.perform .finish).1.runner.run.router.held (.tagged "numbers") = [] :=
  ⟨_, rfl, _, rfl, rfl, rfl, rfl⟩

/-- When the sink of the main output takes one record, the summary of the bundle counts this one
    together with the one that is refused. -/
theorem summary_counts_handovers_ignores :
    ∃ r, (Runner.build Ignores.callback () (Ignores.binding (.failingAfter 1 "full"))
        .default).outcome = .done r ∧
      ∃ opened stopped,
        ((Session.ofRunner r).performAll ([] ++ [.openBundle])).1 = opened ∧
        (opened.performAll Ignores.later).1 = stopped ∧
        (stopped.perform .finish).2 = .finished (.done ⟨1, 2, 2, 2, 2⟩) ∧
        ((stopped.perform .finish).1.runner.run.router.held .main).length = 1 ∧
        ∃ es : List (Emission String),
          2 = (es.flatMap (·.sent .main)).length +
            es.countP (fun e => e.channel.isMain && e.refused) ∧
          2 = (["numbers"].map fun tag => (es.flatMap (·.sent (.tagged tag))).length).sum +
            es.countP (fun e => e.channel.isSide && e.refused) := by
  refine ⟨_, rfl, _, _, rfl, rfl, rfl, rfl, ?_⟩
  obtain ⟨-, -, es, -, -, -, -, -, main, side⟩ :=
    summary_counts_handovers Ignores.callback () (Ignores.binding (.failingAfter 1 "full"))
      .default _ rfl [] Ignores.later (by decide) _ _ rfl rfl ⟨1, 2, 2, 2, 2⟩ rfl
  exact ⟨es, main, side⟩

end BundleRunner
