import BundleRunner.Proofs.Changes
import BundleRunner.Proofs.Turns

namespace BundleRunner

/-!
# Emissions

An emission can leave three traces: a record in a sink, one more in a counter, and a notice in the
log.  They do not always come together.  The router counts an emission and tells it when its record
has passed the checks and is about to be handed over; the sink holds the record only when the
hand-over succeeds, and so does the emission.  This file says once which traces a list of emissions
leaves, and follows them from one request to a whole call:

* `Router.held` — the records that the sink of a channel has taken;
* `Emission` — an emission, with its record, whether it is handed over, and how it is answered;
* `RunState.Emits` — the traces of a list of emissions between two states;
* `Visit.emits`, `Stage.emits_of_quiet`, `Stage.emits_of_start`, `Stage.emits_of_finished` — the
  traces of a visit and of a call.

A start sets the counters to zero before its visit, and a finish that is done does so after it has
read them, so the traces of these two calls lie on one side of a reset.
-/

variable {α β σ : Type}

/-! ### What the sinks hold -/

namespace Router

/-- The records that the sink of a channel has taken so far.  Values of the main output stand on the
    left, values of side outputs on the right. -/
def held (r : Router β) : ChannelId → List (Record (β ⊕ Value))
  | .main => r.main.accepted.map (Record.map .inl)
  | .tagged tag =>
    match r.side? tag with
    | some output => output.channel.accepted.map (Record.map .inr)
    | none => []

@[simp] theorem held_main (r : Router β) :
    r.held .main = r.main.accepted.map (Record.map .inl) := rfl

theorem held_tagged {r : Router β} {tag : String} {output : SideOutput}
    (h : r.side? tag = some output) :
    r.held (.tagged tag) = output.channel.accepted.map (Record.map .inr) := by
  simp [held, h]

/-- What the sinks hold is read off the channels alone. -/
theorem held_congr {r r' : Router β} (main : r.main = r'.main) (side : r.side = r'.side)
    (channel : ChannelId) : r.held channel = r'.held channel := by
  have same : ∀ tag, r.side? tag = r'.side? tag := fun tag => by rw [side?, side?, side]
  cases channel with
  | main => rw [held_main, held_main, main]
  | tagged tag => simp only [held, same]

end Router

/-! ### Emissions -/

/-- Whether a channel is the main output. -/
def ChannelId.isMain : ChannelId → Bool
  | main => true
  | tagged _ => false

/-- Whether a channel is a side output. -/
def ChannelId.isSide (c : ChannelId) : Bool := !c.isMain

/-- An emission of a callback. -/
structure Emission (β : Type) where
  /-- The channel that it is meant for. -/
  channel : ChannelId
  /-- The record with the emitted value, at the place that the scope resolves to. -/
  record : Except Fault (Record (β ⊕ Value))
  /-- Whether the record is handed over: it has a place and, behind a tag, the tag is declared and
      may be used. -/
  handedOver : Bool
  /-- What the callback is answered. -/
  answer : Except Fault Unit

namespace Emission

/-- Whether the emission is handed over to a channel among some. -/
def handedTo (e : Emission β) (channels : ChannelId → Bool) : Bool :=
  e.handedOver && channels e.channel

/-- The record that the emission sends to a channel: its own to its own channel, when it is answered
    with success. -/
def sent (e : Emission β) (channel : ChannelId) : List (Record (β ⊕ Value)) :=
  match e.answer, e.record with
  | .ok (), .ok record => if channel = e.channel then [record] else []
  | _, _ => []

variable {e : Emission β} {channel : ChannelId}

theorem sent_of_error {fault : Fault} (fails : e.answer = .error fault) (channel : ChannelId) :
    e.sent channel = [] := by
  simp [sent, fails]

theorem sent_of_ok {record : Record (β ⊕ Value)} (succeeds : e.answer = .ok ())
    (placed : e.record = .ok record) (channel : ChannelId) :
    e.sent channel = if channel = e.channel then [record] else [] := by
  simp [sent, succeeds, placed]

/-- Nothing is sent to a channel that the emission is not meant for. -/
theorem sent_of_ne (other : channel ≠ e.channel) : e.sent channel = [] := by
  unfold sent
  split
  · exact if_neg other
  · rfl

/-- A sink that is offered the record of an emission, and whose answer is the answer to it, takes
    what the emission sends. -/
theorem accepted_offer {τ : Type} {inject : τ → β ⊕ Value} {c : Channel τ} {record : Record τ}
    (placed : e.record = .ok (record.map inject)) (answer : e.answer = (c.offer record).2) :
    (c.offer record).1.accepted.map (Record.map inject) =
      c.accepted.map (Record.map inject) ++ e.sent e.channel := by
  rw [Channel.accepted_offer]
  cases taken : (c.offer record).2 with
  | ok u =>
    rw [sent_of_ok (answer.trans taken) placed, if_pos rfl]
    simp
  | error fault =>
    rw [sent_of_error (answer.trans taken), List.append_nil]

end Emission

/-- The channel of a notice that an emission was routed. -/
def Notice.channel? : Notice → Option ChannelId
  | .emitted channel _ _ => some channel
  | _ => none

/-- The summary of a notice that a bundle was finished. -/
def Notice.summary? : Notice → Option Summary
  | .bundleFinished summary => some summary
  | _ => none

/-- Whether an entry tells an emission to a channel among some. -/
def Log.Entry.emitsTo (entry : Log.Entry) (channels : ChannelId → Bool) : Bool :=
  entry.notice.channel?.any channels

/-- The emission that a request is, if it is one. -/
def OutputRequest.emission? (scope : Scope α) (request : OutputRequest β) (s : RunState β) :
    Option (Emission β) :=
  match request with
  | emit value explicit => some
    { channel := .main
      record := (scope.resolve explicit).map fun place => (place.record value).map .inl
      handedOver := (scope.resolve explicit).isOk
      answer := (s.emit scope value explicit).2 }
  | emitTagged tag value explicit => some
    { channel := .tagged tag
      record := (scope.resolve explicit).map fun place => (place.record value).map .inr
      handedOver := (s.router.side? tag).isSome && s.router.hasRoom tag &&
        (scope.resolve explicit).isOk
      answer := (s.emitTagged scope tag value explicit).2 }
  | _ => none

/-- The emissions among the requests of a moment: one or none. -/
def Moment.emissions (m : Moment α β) : List (Emission β) :=
  (m.output?.bind fun asked => asked.2.emission? asked.1 m.before).toList

/-- The emissions of a visit, in order. -/
def Visit.emissions (v : Visit α β σ) : List (Emission β) := v.moments.flatMap Moment.emissions

/-- The emissions of a call, in order. -/
def Stage.emissions (st : Stage α β σ) : List (Emission β) := st.visits.flatMap Visit.emissions

/-! ### Traces -/

/-- The emissions `es` are made between two states, and nothing else that leaves traces like them:
    the counters go up by those that are handed over, each sink takes what is sent to it, and the
    log tells those that are handed over, besides other things than the end of a bundle. -/
structure RunState.Emits (s : RunState β) (es : List (Emission β)) (s' : RunState β) : Prop where
  main : s'.router.mainCount =
    s.router.mainCount + es.countP (·.handedTo ChannelId.isMain)
  side : s'.router.sideCount =
    s.router.sideCount + es.countP (·.handedTo ChannelId.isSide)
  held : ∀ channel, s'.router.held channel = s.router.held channel ++ es.flatMap (·.sent channel)
  told : ∃ added, s'.log = s.log ++ added ∧
    (∀ channels, added.countP (·.emitsTo channels) = es.countP (·.handedTo channels)) ∧
    ∀ entry ∈ added, entry.notice.summary? = none

namespace RunState.Emits

variable {s t u : RunState β} {es fs : List (Emission β)}

/-- Where neither outputs nor log change, nothing is emitted. -/
theorem of_same (router : t.router = s.router) (log : t.log = s.log) : s.Emits [] t where
  main := by rw [router]; rfl
  side := by rw [router]; rfl
  held channel := by rw [router]; exact (List.append_nil _).symm
  told := ⟨[], by rw [log, List.append_nil], fun _ => rfl, by simp⟩

/-- Where the emissions begin and end matters up to outputs and log only. -/
theorem congr {s' t' : RunState β} (emits : s.Emits es t)
    (start : s'.router = s.router ∧ s'.log = s.log) (stop : t'.router = t.router ∧ t'.log = t.log) :
    s'.Emits es t' where
  main := by rw [start.1, stop.1, emits.main]
  side := by rw [start.1, stop.1, emits.side]
  held channel := by rw [start.1, stop.1, emits.held]
  told := by rw [start.2, stop.2]; exact emits.told

theorem trans (first : s.Emits es t) (second : t.Emits fs u) : s.Emits (es ++ fs) u where
  main := by rw [second.main, first.main, List.countP_append, Nat.add_assoc]
  side := by rw [second.side, first.side, List.countP_append, Nat.add_assoc]
  held channel := by
    rw [second.held, first.held, List.flatMap_append, List.append_assoc]
  told := by
    obtain ⟨added, log, counts, unfinished⟩ := first.told
    obtain ⟨added', log', counts', unfinished'⟩ := second.told
    refine ⟨added ++ added', by rw [log', log, List.append_assoc], fun channels => ?_, ?_⟩
    · rw [List.countP_append, List.countP_append, counts, counts']
    · intro entry h
      rcases List.mem_append.mp h with h | h
      · exact unfinished entry h
      · exact unfinished' entry h

/-- A notice of something else emits nothing. -/
theorem tell {notice : Notice} (channel : notice.channel? = none)
    (summary : notice.summary? = none) (s : RunState β) : s.Emits [] (s.tell notice) where
  main := rfl
  side := rfl
  held _ := (List.append_nil _).symm
  told := by
    refine ⟨_, rfl, fun channels => ?_, ?_⟩
    · simp [Log.Entry.emitsTo, channel]
    · intro entry h
      obtain rfl := List.mem_singleton.mp h
      exact summary

end RunState.Emits

/-! ### One emission -/

/-- What a router makes of an emission: it is counted and told if it is handed over, and its sink
    holds the record if it is answered with success. -/
structure Router.Delivery.Carries (d : Delivery β) (r : Router β) (e : Emission β) : Prop where
  main : d.router.mainCount = r.mainCount + if e.handedTo ChannelId.isMain then 1 else 0
  side : d.router.sideCount = r.sideCount + if e.handedTo ChannelId.isSide then 1 else 0
  held : ∀ channel, d.router.held channel = r.held channel ++ e.sent channel
  notice : d.notice.bind Notice.channel? = if e.handedOver then some e.channel else none
  unfinished : d.notice.bind Notice.summary? = none
  handed : e.answer = .ok () → e.handedOver = true

/-- A delivery leaves the traces of its emission. -/
theorem RunState.emits_deliver {s : RunState β} {d : Router.Delivery β} {e : Emission β}
    (carries : d.Carries s.router e) : s.Emits [e] (s.deliver d).1 where
  main := by rw [router_deliver, carries.main, List.countP_singleton]
  side := by rw [router_deliver, carries.side, List.countP_singleton]
  held channel := by rw [router_deliver, carries.held, List.flatMap_singleton]
  told := by
    have channel := carries.notice
    have summary := carries.unfinished
    -- what is not handed over is not told, and has no part in any count
    cases told : d.notice with
    | none =>
      rw [told] at channel
      have kept : e.handedOver = false := by
        by_cases h : e.handedOver = true
        · rw [if_pos h] at channel
          exact absurd channel (by simp)
        · simpa using h
      refine ⟨[], ?_, fun channels => ?_, by simp⟩
      · simp [deliver, told, tellAny]
      · simp [Emission.handedTo, kept]
    | some notice =>
      rw [told, Option.bind_some] at channel summary
      refine ⟨[⟨notice, s.bundle⟩], ?_, fun channels => ?_, ?_⟩
      · simp [deliver, told, tellAny, tell]
      · rw [List.countP_singleton, List.countP_singleton, Log.Entry.emitsTo, channel,
          Emission.handedTo]
        cases e.handedOver <;> simp
      · intro entry h
        obtain rfl := List.mem_singleton.mp h
        exact summary

namespace Router

/-- A refusal carries an emission that is not handed over. -/
theorem carries_refuse {r : Router β} {fault : Fault} {e : Emission β}
    (kept : e.handedOver = false) (fails : e.answer = .error fault) :
    (r.refuse fault).Carries r e where
  main := by simp [refuse, Emission.handedTo, kept]
  side := by simp [refuse, Emission.handedTo, kept]
  held channel := by rw [Emission.sent_of_error fails, List.append_nil]; rfl
  notice := by simp [refuse, kept]
  unfinished := rfl
  handed succeeds := absurd (fails.symm.trans succeeds) (by simp)

/-- What carries an emission that is handed over: it is counted for its channel and told. -/
theorem carries_of_handed {r : Router β} {d : Delivery β} {e : Emission β}
    (handed : e.handedOver = true)
    (main : d.router.mainCount = r.mainCount + if e.channel.isMain then 1 else 0)
    (side : d.router.sideCount = r.sideCount + if e.channel.isSide then 1 else 0)
    (held : ∀ channel, d.router.held channel = r.held channel ++ e.sent channel)
    (notice : ∃ timestamp windows, d.notice = some (.emitted e.channel timestamp windows)) :
    d.Carries r e := by
  have meant : ∀ channels, e.handedTo channels = channels e.channel := by
    intro channels
    rw [Emission.handedTo, handed, Bool.true_and]
  obtain ⟨timestamp, windows, told⟩ := notice
  refine ⟨?_, ?_, held, ?_, ?_, fun _ => handed⟩
  · rw [main, meant]
  · rw [side, meant]
  · rw [told, if_pos handed]
    rfl
  · rw [told]
    rfl

variable {s : RunState β} {scope : Scope α} {explicit : Option Instant} {e : Emission β}

/-- An emission to the main output leaves its traces. -/
theorem carries_emitMain {value : β}
    (emission : (OutputRequest.emit value explicit).emission? scope s = some e) :
    (s.router.emitMain scope value explicit).Carries s.router e := by
  obtain rfl := Option.some.inj emission
  have answer : (s.emit scope value explicit).2 =
    (s.router.emitMain scope value explicit).outcome := rfl
  cases found : scope.resolve explicit with
  | error fault =>
    rw [emitMain_of_error found] at answer ⊢
    exact carries_refuse (by simp [Except.isOk, Except.toBool]) answer
  | ok place =>
    rw [emitMain_of_ok found] at answer ⊢
    refine carries_of_handed (by simp [Except.isOk, Except.toBool]) rfl rfl (fun channel => ?_)
      ⟨_, _, rfl⟩
    cases channel with
    | main => exact Emission.accepted_offer rfl answer
    | tagged tag =>
      rw [Emission.sent_of_ne (by simp), List.append_nil]
      rfl

/-- A record offered behind one tag is held by the sink of that tag, if it takes the record, and by
    no other. -/
theorem held_setChannel {r : Router β} {tag : String} {output : SideOutput} {record : Record Value}
    (declared : r.side? tag = some output) (meant : e.channel = .tagged tag)
    (placed : e.record = .ok (record.map .inr))
    (answer : e.answer = (output.channel.offer record).2) (channel : ChannelId) :
    (r.setChannel tag (output.channel.offer record).1).held channel =
      r.held channel ++ e.sent channel := by
  by_cases same : channel = .tagged tag
  · have taken := Emission.accepted_offer placed answer
    rw [meant] at taken
    rw [same, held_tagged (side?_setChannel_self declared _), held_tagged declared]
    exact taken
  · rw [Emission.sent_of_ne (meant ▸ same), List.append_nil]
    cases channel with
    | main => rfl
    | tagged other =>
      have different : other ≠ tag := fun h => same (congrArg ChannelId.tagged h)
      simp only [held, side?_setChannel_of_ne different]

/-- An emission to a side output leaves its traces. -/
theorem carries_emitTagged {tag : String} {value : Value}
    (emission : (OutputRequest.emitTagged tag value explicit).emission? scope s = some e) :
    (s.router.emitTagged scope tag value explicit).Carries s.router e := by
  obtain rfl := Option.some.inj emission
  have answer : (s.emitTagged scope tag value explicit).2 =
    (s.router.emitTagged scope tag value explicit).outcome := rfl
  -- the tag, the limit and the place can each refuse, before anything is handed over
  cases declared : s.router.side? tag with
  | none =>
    have refused : s.router.emitTagged scope tag value explicit =
      s.router.refuse (.unknownTag tag) := by simp [emitTagged, declared]
    rw [refused] at answer ⊢
    exact carries_refuse (by simp) answer
  | some output =>
    by_cases room : s.router.hasRoom tag = true
    · cases found : scope.resolve explicit with
      | error fault =>
        have refused : s.router.emitTagged scope tag value explicit = s.router.refuse fault := by
          simp [emitTagged, declared, room, found]
        rw [refused] at answer ⊢
        exact carries_refuse (by simp [Except.isOk, Except.toBool]) answer
      | ok place =>
        -- the record is handed over, whatever becomes of it then
        have counted : s.router.emitTagged scope tag value explicit =
            if value.type = output.type then
              ⟨({ s.router.markUsed tag with sideCount := s.router.sideCount + 1 }).setChannel tag
                  (output.channel.offer (place.record value)).1,
                some (.emitted (.tagged tag) place.timestamp place.windows.size),
                (output.channel.offer (place.record value)).2⟩
            else
              ⟨{ s.router.markUsed tag with sideCount := s.router.sideCount + 1 },
                some (.emitted (.tagged tag) place.timestamp place.windows.size),
                .error (.tagTypeMismatch tag output.type.name)⟩ := by
          simp only [emitTagged, declared, room, found, if_true]
        by_cases typed : value.type = output.type
        · rw [counted, if_pos typed] at answer ⊢
          exact carries_of_handed (by simp [room, Except.isOk, Except.toBool]) rfl rfl
            (held_setChannel
              (r := { s.router.markUsed tag with sideCount := s.router.sideCount + 1 })
              declared rfl rfl answer) ⟨_, _, rfl⟩
        · rw [counted, if_neg typed] at answer ⊢
          refine carries_of_handed (by simp [room, Except.isOk, Except.toBool]) rfl rfl
            (fun channel => ?_) ⟨_, _, rfl⟩
          rw [Emission.sent_of_error answer, List.append_nil]
          exact held_congr rfl rfl channel
    · have refused : s.router.emitTagged scope tag value explicit =
        s.router.refuse (.tooManyOutputs s.router.limit (s.router.used.length + 1)) := by
          simp [emitTagged, declared, room]
      rw [refused] at answer ⊢
      exact carries_refuse (by simp [room]) answer

end Router

/-- An emission that is answered with success was handed over, and one that is handed over has a
    place. -/
structure Emission.Coherent (e : Emission β) : Prop where
  handed : e.answer = .ok () → e.handedOver = true
  placed : e.handedOver = true → ∃ record, e.record = .ok record

theorem OutputRequest.coherent_of_emission {scope : Scope α} {request : OutputRequest β}
    {s : RunState β} {e : Emission β} (emission : request.emission? scope s = some e) :
    e.Coherent := by
  cases request with
  | emit value explicit =>
    refine ⟨(Router.carries_emitMain emission).handed, fun handed => ?_⟩
    obtain rfl := Option.some.inj emission
    cases found : scope.resolve explicit with
    | ok place => exact ⟨_, rfl⟩
    | error fault => simp [found, Except.isOk, Except.toBool] at handed
  | emitTagged tag value explicit =>
    refine ⟨(Router.carries_emitTagged emission).handed, fun handed => ?_⟩
    obtain rfl := Option.some.inj emission
    cases found : scope.resolve explicit with
    | ok place => exact ⟨_, rfl⟩
    | error fault => simp [found, Except.isOk, Except.toBool] at handed
  | _ => exact absurd emission (by simp [emission?])

theorem Moment.mem_emissions {m : Moment α β} {e : Emission β} :
    e ∈ m.emissions ↔ ∃ asked, m.output? = some asked ∧
      asked.2.emission? asked.1 m.before = some e := by
  rw [emissions, Option.mem_toList, Option.bind_eq_some_iff]

theorem Moment.coherent_of_mem_emissions {m : Moment α β} {e : Emission β}
    (h : e ∈ m.emissions) : e.Coherent := by
  obtain ⟨asked, -, emission⟩ := mem_emissions.mp h
  exact OutputRequest.coherent_of_emission emission

/-! ### Requests and visits -/

/-- A shared request emits nothing. -/
theorem SharedRequest.emits_perform (request : SharedRequest) (s : RunState β) :
    s.Emits [] (request.perform s).1 := by
  cases request with
  | create name input output combiner =>
    cases obstacle : s.registry.obstacle? name with
    | some fault =>
      have refused := Registry.create_of_obstacle obstacle combiner
      exact .of_same (by simp [perform, refused]) (by simp [perform, refused, RunState.tellAny])
    | none =>
      -- a registration is told, which is no notice of an emission
      have made := Registry.create_of_free obstacle combiner
      have told : s.Emits [] (s.tell (.aggregatorRegistered name input)) := .tell rfl rfl s
      refine told.congr ⟨rfl, rfl⟩ ⟨?_, ?_⟩
      · simp [perform, RunState.tell]
      · simp [perform, made, RunState.tellAny, RunState.tell]
  | _ => exact .of_same rfl rfl

/-- A call on keyed state emits nothing. -/
theorem RunState.emits_useState (s : RunState β) (handle : StateHandle) (call : StateCall) :
    s.Emits [] (s.useState handle call).1 := by
  unfold useState
  split
  · exact .of_same rfl rfl
  · split <;> exact .of_same rfl rfl

/-- A request leaves the traces of the emission that it is, if it is one. -/
theorem OutputRequest.emits_perform (scope : Scope α) (request : OutputRequest β)
    (s : RunState β) :
    s.Emits (request.emission? scope s).toList (request.perform scope s).1 := by
  cases request with
  | shared request => exact request.emits_perform s
  | emit value explicit => exact RunState.emits_deliver (Router.carries_emitMain rfl)
  | emitTagged tag value explicit => exact RunState.emits_deliver (Router.carries_emitTagged rfl)
  | useState handle call => exact s.emits_useState handle call
  | useInternals handle => exact .of_same rfl rfl

/-- A moment leaves the traces of its emission, if it has one. -/
theorem Moment.emits (m : Moment α β) : m.before.Emits m.emissions m.after := by
  cases m with
  | bundle windowFn request s => exact request.emits_perform (.bundle windowFn) s
  | element i request s =>
    cases request with
    | output request => exact request.emits_perform i.emission s.run
    | checkInterrupt => exact .of_same rfl rfl
    | sideInput view type =>
      show s.run.Emits [] (i.sideInput view type s).1.run
      unfold Invocation.sideInput
      split <;> exact .of_same rfl rfl
    | keyedState =>
      show s.run.Emits [] (i.keyedState s).1.run
      unfold Invocation.keyedState Invocation.askKeyedState
      split
      · exact .of_same rfl rfl
      · split <;> exact .of_same rfl rfl
    | window =>
      show s.run.Emits [] (i.window s).1.run
      unfold Invocation.window Invocation.askWindow
      split
      · exact .of_same rfl rfl
      · split <;> exact .of_same rfl rfl
    | internals =>
      show s.run.Emits [] (i.internals s).1.run
      unfold Invocation.internals Invocation.askInternals
      split
      · exact .of_same rfl rfl
      · split <;> exact .of_same rfl rfl

/-- The requests of a bundle phase leave the traces of their emissions. -/
theorem Program.emits_requests_output (windowFn : WindowFn α)
    (program : Program (@OutputRequest.Answer β) σ) (s : RunState β) :
    s.Emits
      (((program.requests (OutputRequest.perform (.bundle windowFn)) s).map fun asked =>
        Moment.bundle windowFn asked.1 asked.2).flatMap Moment.emissions)
      (program.run (OutputRequest.perform (.bundle windowFn)) s).env := by
  induction program generalizing s with
  | stop state outcome => exact .of_same rfl rfl
  | ask request next ih =>
    have first := Moment.emits (.bundle windowFn request s)
    exact first.trans (ih _ _)

/-- So do the requests of an invocation. -/
theorem Program.emits_requests_element (i : Invocation α)
    (program : Program (@ElementRequest.Answer β) σ) (s : ElementState β) :
    s.run.Emits
      (((program.requests (ElementRequest.perform i) s).map fun asked =>
        Moment.element i asked.1 asked.2).flatMap Moment.emissions)
      (program.run (ElementRequest.perform i) s).env.run := by
  induction program generalizing s with
  | stop state outcome => exact .of_same rfl rfl
  | ask request next ih =>
    have first := Moment.emits (.element i request s)
    exact first.trans (ih _ _)

/-- **Visits.** A visit leaves the traces of its emissions, however the callback stops. -/
theorem Visit.emits (v : Visit α β σ) : v.runner.run.Emits v.emissions v.closed := by
  obtain ⟨entrance, r⟩ := v
  cases entrance with
  | start => exact Program.emits_requests_output r.plan.windowFn _ r.run
  | process visible =>
    -- the lease is made out before the requests, and ends after them
    have asked := Program.emits_requests_element (r.invocation visible)
      (r.callback.process (r.invocation visible).view r.state) ⟨Runner.lease r.run, .none⟩
    exact asked.congr ⟨rfl, rfl⟩ ⟨rfl, rfl⟩
  | finish => exact Program.emits_requests_output r.plan.windowFn _ r.run

/-! ### Calls -/

namespace Runner

/-- The visit at an entrance, if there is one, leaves the traces of its emissions. -/
theorem emits_visitAt (r : Runner α β σ) (entrance : Entrance α) :
    r.run.Emits ((r.visitAt entrance).flatMap Visit.emissions)
      (Visit.mk entrance r).turn.1.run := by
  cases ready : r.run.interrupt.check with
  | error fault =>
    rw [visitAt_of_interrupted ready]
    rw [Visit.turn_run_of_interrupted (v := ⟨entrance, r⟩) ready]
    exact .of_same rfl rfl
  | ok u =>
    rw [visitAt_of_ready ready, Visit.turn_run (v := ⟨entrance, r⟩) ready, List.flatMap_singleton]
    exact Visit.emits ⟨entrance, r⟩

/-- The visits in a list of windows leave the traces of their emissions. -/
theorem emits_visitEach (record : Record α) (ws : List Window) (r : Runner α β σ) :
    r.run.Emits ((visitEach record ws r).flatMap Visit.emissions)
      (invokeEach record ws r).1.run := by
  induction ws generalizing r with
  | nil => exact .of_same rfl rfl
  | cons w ws ih =>
    have first := r.emits_visitAt (.process (record.narrow w))
    have turned : (Visit.mk (.process (record.narrow w)) r).turn = r.invoke (record.narrow w) :=
      rfl
    rw [turned] at first
    unfold visitEach invokeEach
    rw [List.flatMap_append]
    generalize r.invoke (record.narrow w) = made at first ⊢
    obtain ⟨r', ended⟩ := made
    -- the next window is reached only when this invocation is done
    cases ended with
    | done u => exact first.trans (ih r')
    | failed fault => exact first.trans (.of_same rfl rfl)
    | panicked message => exact first.trans (.of_same rfl rfl)

/-- The visits for a record leave the traces of their emissions. -/
theorem emits_visitElement (r : Runner α β σ) (record : Record α) :
    r.run.Emits ((r.visitElement record).flatMap Visit.emissions)
      (r.runElement record).1.run := by
  unfold visitElement runElement
  cases r.plan.descriptor.granularity with
  | perRecord => exact r.emits_visitAt (.process record)
  | perWindow => exact emits_visitEach record record.windows.windows r

end Runner

/-- The end of an operation, whichever it is, adds nothing to the emissions. -/
theorem Bundle.emits_settle {s : RunState β} {es : List (Emission β)} {r : Runner α β σ}
    (emits : s.Emits es r.run) (b : Bundle) (operation : Operation) (outcome : Outcome Unit) :
    s.Emits es (b.settle operation r outcome).runner.run := by
  -- the end of an operation is told, and that is no emission
  have ends : r.run.Emits [] (b.settle operation r outcome).runner.run := by
    cases outcome with
    | done u => exact .tell rfl rfl r.run
    | failed fault => exact .tell rfl rfl r.run
    | panicked message => exact .of_same rfl rfl
  have whole := emits.trans ends
  rwa [List.append_nil] at whole

namespace Stage

/-- A call that does not begin on the bundle emits nothing. -/
theorem emits_of_refused {st : Stage α β σ} (refused : st.begun? = none) :
    st.before.runner.run.Emits st.emissions st.after.runner.run := by
  rw [emissions, visits_of_refused refused, List.flatMap_nil]
  obtain ⟨⟨r, bundle⟩, call⟩ := st
  cases performs : call.operation? with
  | none =>
    cases call with
    | useState handle call => exact r.run.emits_useState handle call
    | start => exact absurd performs (by simp [Call.operation?])
    | process record => exact absurd performs (by simp [Call.operation?])
    | finish => exact absurd performs (by simp [Call.operation?])
    | _ => exact .of_same rfl rfl
  | some operation =>
    cases bundle with
    | none =>
      -- nothing can be done on a bundle when none is open
      cases call with
      | start => exact .of_same rfl rfl
      | process record => exact .of_same rfl rfl
      | finish => exact .of_same rfl rfl
      | _ => exact absurd performs (by simp [Call.operation?])
    | some b =>
      have advance : b.advance operation = none := by
        simpa [begun?, performs] using refused
      rw [after, Session.perform_of_refused performs advance]
      exact .tell rfl rfl r.run

/-- A start that passes the order check sets the counters to zero, and then leaves the traces of its
    emissions. -/
theorem emits_of_start {st : Stage α β σ} (accepted : st.accepted? = some .start) :
    RunState.Emits { st.before.runner.run with router := st.before.runner.run.router.takeCounts.2 }
      st.emissions st.after.runner.run := by
  obtain ⟨begun, begins, performs⟩ := Option.bind_eq_some_iff.mp accepted
  obtain ⟨b, operation, opened, performs', advance⟩ := begun?_eq_some begins
  obtain rfl : .start = operation := Option.some.inj (performs.symm.trans performs')
  rw [emissions, visits_of_begun begins]
  obtain ⟨⟨r, bundle⟩, call⟩ := st
  obtain rfl : bundle = some b := opened
  cases call with
  | start =>
    -- the callback finds the counters at zero already
    have visited := (Bundle.resetCounts (begun.enter r)).emits_visitAt .start
    have settled := Bundle.emits_settle visited begun .start
      (Bundle.resetCounts (begun.enter r)).runStart.2
    refine settled.congr ⟨rfl, rfl⟩ ?_
    simp only [after, Session.perform, Session.ofTurn, Bundle.start_of_advance advance]
    exact ⟨rfl, rfl⟩
  | _ => exact absurd performs (by simp [Call.operation?])

/-- A finish that is done leaves the traces of its emissions; then it reads the counters into the
    summary, sets them to zero, and tells the summary. -/
theorem emits_of_finished {st : Stage α β σ} {summary : Summary}
    (done : st.reply = .finished (.done summary)) :
    ∃ b s', st.before.bundle = some b ∧ st.accepted? = some .finish ∧
      st.before.runner.run.Emits st.emissions s' ∧
      summary = b.summary s'.router.takeCounts.1 ∧
      (∃ entry : Log.Entry, st.after.runner.run.log = s'.log ++ [entry] ∧
        entry.notice = .bundleFinished summary) ∧
      ∀ channel, st.after.runner.run.router.held channel = s'.router.held channel := by
  obtain ⟨⟨r, bundle⟩, call⟩ := st
  cases call with
  | finish =>
    cases bundle with
    | none => exact absurd done (by simp [reply, Session.perform])
    | some b =>
      cases advance : b.advance .finish with
      | none =>
        rw [reply, Session.perform_of_refused rfl advance] at done
        exact absurd done (by simp [Call.failure])
      | some begun =>
        have begins : (Stage.mk ⟨r, some b⟩ (Call.finish : Call α)).begun? = some begun := by
          simp [begun?, Call.operation?, advance]
        obtain rfl := Bundle.eq_of_advance advance (by decide)
        have turned := Bundle.finish_of_advance advance r
        have visited := (begun.enter r).emits_visitAt .finish
        have settled := Bundle.emits_settle visited begun .finish (begun.enter r).runFinish.2
        simp only [reply, Session.perform, Session.ofTurn, turned] at done
        -- the summary is read off the counters after the emissions of the finish itself
        obtain ⟨-, concluded, read⟩ := Bundle.close_of_done (Reply.finished.inj done)
        have stopped : (Stage.mk ⟨r, some begun⟩ (Call.finish : Call α)).after.runner = _ :=
          (congrArg Turn.runner turned).trans
            (congrArg (fun t => (Bundle.leave t).runner) concluded)
        refine ⟨begun, _, rfl, by simp [accepted?, begins, Call.operation?], ?_,
          read.trans (Bundle.summary_settle ..), ?_, ?_⟩
        · rw [emissions, visits_of_begun begins]
          exact settled.congr ⟨rfl, rfl⟩ ⟨rfl, rfl⟩
        · rw [stopped]
          exact ⟨_, rfl, congrArg Notice.bundleFinished read.symm⟩
        · rw [stopped]
          exact fun channel => Router.held_congr rfl rfl channel
  | _ =>
    unfold reply Session.perform at done
    cases bundle <;> exact absurd done (by simp)

/-- A call that does not touch the counters: no start that passes the order check, and no finish
    that is done. -/
structure Quiet (st : Stage α β σ) : Prop where
  restarts : st.accepted? ≠ some .start
  finishes : ∀ summary, st.reply ≠ .finished (.done summary)

/-- Every other call leaves the traces of its emissions, and no more. -/
theorem emits_of_quiet {st : Stage α β σ} (quiet : st.Quiet) :
    st.before.runner.run.Emits st.emissions st.after.runner.run := by
  cases begins : st.begun? with
  | none => exact emits_of_refused begins
  | some begun =>
    obtain ⟨b, operation, opened, performs, advance⟩ := begun?_eq_some begins
    rw [emissions, visits_of_begun begins]
    obtain ⟨⟨r, bundle⟩, call⟩ := st
    obtain rfl : bundle = some b := opened
    cases call with
    | start => exact absurd (by simp [accepted?, begins, Call.operation?]) quiet.restarts
    | process record =>
      obtain rfl : .process = operation := Option.some.inj performs
      have visited := (begun.enter r).emits_visitElement record
      have settled := Bundle.emits_settle visited
        (begun.tally ((begun.enter r).runElement record).2) .process
        (((begun.enter r).runElement record).2.map fun _ => ())
      refine settled.congr ⟨rfl, rfl⟩ ?_
      simp only [after, Session.perform, Session.ofTurn, Bundle.process_of_advance advance]
      exact ⟨rfl, rfl⟩
    | finish =>
      obtain rfl : .finish = operation := Option.some.inj performs
      have turned := Bundle.finish_of_advance advance r
      have visited := (begun.enter r).emits_visitAt .finish
      have settled := Bundle.emits_settle visited begun .finish (begun.enter r).runFinish.2
      refine settled.congr ⟨rfl, rfl⟩ ?_
      -- a finish that is not done leaves the counters unread
      have finishes := quiet.finishes
      simp only [reply, Session.perform, Session.ofTurn, turned] at finishes
      have closed := Bundle.runner_close_of_not_done fun summary h =>
        finishes summary (congrArg Reply.finished h)
      simp only [after, Session.perform, Session.ofTurn, turned, Bundle.leave, closed]
      exact ⟨rfl, rfl⟩
    | _ => exact absurd performs (by simp [Call.operation?])

end Stage

/-- **Runs.** Calls that do not touch the counters leave the traces of all their emissions. -/
theorem Session.emits_performAll {s : Session α β σ} {calls : List (Call α)}
    (quiet : ∀ st ∈ s.stages calls, st.Quiet) :
    s.runner.run.Emits ((s.stages calls).flatMap Stage.emissions)
      (s.performAll calls).1.runner.run := by
  induction calls generalizing s with
  | nil => exact .of_same rfl rfl
  | cons call calls ih =>
    have first := Stage.emits_of_quiet (quiet ⟨s, call⟩ (List.mem_cons_self ..))
    have rest := ih fun st hst => quiet st (List.mem_cons_of_mem _ hst)
    rw [stages_cons, List.flatMap_cons]
    exact first.trans rest

end BundleRunner
