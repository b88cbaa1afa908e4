import BundleRunner.Proofs.Changes

namespace BundleRunner

/-!
# Where arriving records lie

A record that reaches a sink was placed by the emission that it comes from.  This file follows every
record back to that emission, over whole runs:

* `Router.reached` — all records that the sink of a channel was offered, refused ones included;
* `Moment.delivered` — the records that reach a channel while one request is answered;
* `Moment.placed_of_mem_delivered` — a request delivers records only if it is an emission, and they
  lie where its scope puts them;
* `Skew.le_of_permits` — the saturating arithmetic of instants keeps the bound of a skew exact;
* `arrivals_placed` — what reaches a sink in a run is what its moments deliver, and a record
  that is delivered in an invocation lies in the windows of the invocation and within its skew.
-/

variable {α β σ : Type}

namespace Router

/-- The records that the sink of a channel was offered so far.  Values of the main output stand on
    the left, values of side outputs on the right. -/
def reached (r : Router β) : ChannelId → List (Record (β ⊕ Value))
  | .main => r.main.offered.map (Record.map .inl)
  | .tagged tag =>
    match r.side? tag with
    | some output => output.channel.offered.map (Record.map .inr)
    | none => []

@[simp] theorem reached_main (r : Router β) :
    r.reached .main = r.main.offered.map (Record.map .inl) := rfl

theorem reached_tagged {r : Router β} {tag : String} {output : SideOutput}
    (h : r.side? tag = some output) :
    r.reached (.tagged tag) = output.channel.offered.map (Record.map .inr) := by
  simp [reached, h]

/-- What reached the sinks is read off the channels alone. -/
theorem reached_congr {r r' : Router β} (main : r.main = r'.main) (side : r.side = r'.side)
    (channel : ChannelId) : r.reached channel = r'.reached channel := by
  have same : ∀ tag, r.side? tag = r'.side? tag := fun tag => by rw [side?, side?, side]
  cases channel with
  | main => rw [reached_main, reached_main, main]
  | tagged tag => simp only [reached, same]

/-- The router `r'` comes from `r` by the delivery of records that all lie at a place that `scope`
    resolves `explicit` to. -/
def Grows (scope : Scope α) (explicit : Option Instant) (r r' : Router β) : Prop :=
  ∀ channel, ∃ added, r'.reached channel = r.reached channel ++ added ∧
    ∀ out ∈ added, ∃ place, scope.resolve explicit = .ok place ∧
      out.timestamp = place.timestamp ∧ out.windows = place.windows

/-- Nothing is delivered while the channels stay as they are. -/
theorem Grows.of_same {scope : Scope α} {explicit : Option Instant} {r r' : Router β}
    (main : r'.main = r.main) (side : r'.side = r.side) : Grows scope explicit r r' :=
  fun channel => ⟨[], by rw [reached_congr main side, List.append_nil], by simp⟩

/-- An emission to the main output delivers at the place that it resolves to. -/
theorem grows_emitMain (r : Router β) (scope : Scope α) (value : β) (explicit : Option Instant) :
    Grows scope explicit r (r.emitMain scope value explicit).router := by
  cases found : scope.resolve explicit with
  | error fault =>
    rw [emitMain_of_error found]
    exact .of_same rfl rfl
  | ok place =>
    rw [emitMain_of_ok found]
    intro channel
    cases channel with
    | main =>
      refine ⟨[(place.record value).map .inl], ?_, ?_⟩
      · simp
      · rintro out hout
        rw [List.mem_singleton] at hout
        subst hout
        exact ⟨place, found, rfl, rfl⟩
    | tagged tag => exact ⟨[], by rw [List.append_nil]; rfl, by simp⟩

/-- A record offered behind one tag reaches the sink of that tag, and no other. -/
theorem reached_setChannel {r : Router β} {tag : String} {output : SideOutput}
    (declared : r.side? tag = some output) (record : Record Value) (channel : ChannelId) :
    (r.setChannel tag (output.channel.offer record).1).reached channel =
      r.reached channel ++ if channel = .tagged tag then [record.map .inr] else [] := by
  cases channel with
  | main => simp [setChannel]
  | tagged other =>
    -- the sink behind the tag has one record more, and the others are not looked at
    by_cases same : other = tag
    · subst same
      rw [reached_tagged (side?_setChannel_self declared _), reached_tagged declared, if_pos rfl]
      simp
    · have unchanged := side?_setChannel_of_ne same r (output.channel.offer record).1
      rw [if_neg (by simpa using same), List.append_nil]
      simp only [reached, unchanged]

/-- An emission to a side output delivers at the place that it resolves to. -/
theorem grows_emitTagged (r : Router β) (scope : Scope α) (tag : String) (value : Value)
    (explicit : Option Instant) :
    Grows scope explicit r (r.emitTagged scope tag value explicit).router := by
  unfold emitTagged
  cases declared : r.side? tag with
  | none => exact .of_same rfl rfl
  | some output =>
    by_cases room : r.hasRoom tag = true
    · cases found : scope.resolve explicit with
      | error fault =>
        simp only [room, if_true]
        exact .of_same rfl rfl
      | ok place =>
        simp only [room, if_true]
        by_cases typed : value.type = output.type
        · -- only here is a record offered, to the sink behind the tag
          rw [if_pos typed]
          intro channel
          refine ⟨_, reached_setChannel (r := { r.markUsed tag with sideCount := r.sideCount + 1 })
            declared (place.record value) channel, ?_⟩
          intro out hout
          by_cases same : channel = .tagged tag
          · rw [if_pos same, List.mem_singleton] at hout
            subst hout
            exact ⟨place, found, rfl, rfl⟩
          · rw [if_neg same] at hout
            exact absurd hout (by simp)
        · rw [if_neg typed]
          exact .of_same rfl rfl
    · simp only [room]
      exact .of_same rfl rfl

end Router

/-! ### Deliveries of a moment -/

/-- The timestamp that an emission is made with; a request that emits nothing has none. -/
def OutputRequest.explicit? : OutputRequest β → Option (Option Instant)
  | emit _ explicit => some explicit
  | emitTagged _ _ explicit => some explicit
  | _ => none

namespace Moment

/-- The timestamp that an emission is made with; a request that emits nothing has none. -/
def explicit? : Moment α β → Option (Option Instant)
  | bundle _ request _ => request.explicit?
  | element _ (.output request) _ => request.explicit?
  | _ => none

/-- The scope in which a request is made. -/
def scope : Moment α β → Scope α
  | bundle windowFn _ _ => .bundle windowFn
  | element invocation _ _ => invocation.emission

/-- The records that reach the sink of a channel while the request is answered. -/
def delivered (m : Moment α β) (channel : ChannelId) : List (Record (β ⊕ Value)) :=
  (m.after.router.reached channel).drop (m.before.router.reached channel).length

end Moment

/-- What is not an emission is not about the outputs. -/
theorem OutputRequest.part_ne_outputs {request : OutputRequest β}
    (silent : request.explicit? = none) : request.part ≠ .outputs := by
  cases request with
  | emit value explicit => exact absurd silent (by simp [explicit?])
  | emitTagged tag value explicit => exact absurd silent (by simp [explicit?])
  | shared request => exact Part.ne_of_mem request.part_mem (by decide)
  | _ => simp [part]

/-- An emission delivers at the place that it resolves to. -/
theorem OutputRequest.grows_perform {request : OutputRequest β} {explicit : Option Instant}
    (emission : request.explicit? = some explicit) (scope : Scope α) (s : RunState β) :
    Router.Grows scope explicit s.router (request.perform scope s).1.router := by
  cases request with
  | emit value time =>
    obtain rfl : time = explicit := Option.some.inj emission
    rw [OutputRequest.perform, RunState.emit, RunState.router_deliver]
    exact Router.grows_emitMain s.router scope value time
  | emitTagged tag value time =>
    obtain rfl : time = explicit := Option.some.inj emission
    rw [OutputRequest.perform, RunState.emitTagged, RunState.router_deliver]
    exact Router.grows_emitTagged s.router scope tag value time
  | _ => exact absurd emission (by simp [explicit?])

namespace Moment

/-- A moment without an emission leaves the outputs alone. -/
theorem router_after {m : Moment α β} (silent : m.explicit? = none) :
    m.after.router = m.before.router := by
  refine Event.router_after (e := (.request m : Event α β Unit)) ?_
  cases m with
  | bundle windowFn request s => exact OutputRequest.part_ne_outputs silent
  | element invocation request s =>
    cases request with
    | output request => exact OutputRequest.part_ne_outputs silent
    | _ => simp [Event.part, Moment.part, ElementRequest.part]

/-- A moment with an emission delivers at the place that the emission resolves to. -/
theorem grows_after {m : Moment α β} {explicit : Option Instant}
    (emission : m.explicit? = some explicit) :
    Router.Grows m.scope explicit m.before.router m.after.router := by
  cases m with
  | bundle windowFn request s => exact OutputRequest.grows_perform emission _ s
  | element invocation request s =>
    cases request with
    | output request => exact OutputRequest.grows_perform emission _ s.run
    | _ => exact absurd emission (by simp [explicit?])

/-- What is delivered was not there before, and nothing else changes. -/
theorem reached_after (m : Moment α β) (channel : ChannelId) :
    m.after.router.reached channel = m.before.router.reached channel ++ m.delivered channel := by
  cases emission : m.explicit? with
  | none => simp [delivered, router_after emission]
  | some explicit =>
    obtain ⟨added, grown, _⟩ := grows_after emission channel
    rw [delivered, grown, List.drop_left]

/-- **Placement.** A record is delivered by an emission, and lies at the place that the emission
    resolves to in its scope. -/
theorem placed_of_mem_delivered {m : Moment α β} {channel : ChannelId} {out : Record (β ⊕ Value)}
    (arrives : out ∈ m.delivered channel) :
    ∃ explicit place, m.explicit? = some explicit ∧ m.scope.resolve explicit = .ok place ∧
      out.timestamp = place.timestamp ∧ out.windows = place.windows := by
  cases emission : m.explicit? with
  | none => simp [delivered, router_after emission] at arrives
  | some explicit =>
    obtain ⟨added, grown, placed⟩ := grows_after emission channel
    rw [delivered, grown, List.drop_left] at arrives
    obtain ⟨place, found, timestamp, windows⟩ := placed out arrives
    exact ⟨explicit, place, rfl, found, timestamp, windows⟩

end Moment

/-- What reached a channel accumulates over a run. -/
theorem accumulates_reached (channel : ChannelId) :
    Accumulates (α := α) (fun s : RunState β => s.router.reached channel)
      (fun m => m.delivered channel) where
  outputs main side := Router.reached_congr main side channel
  moment m := m.reached_after channel

/-! ### The scope of an invocation -/

/-- **The bound of a skew is exact.** A permitted timestamp lies at most the whole milliseconds of
    the span before the input, although instants stop at the infinite past. -/
theorem Skew.le_of_permits {span : Span} {input candidate : Instant}
    (permitted : (Skew.bounded span).permits input candidate = true) :
    input.millis - span.millis ≤ candidate.millis := by
  have earliest := Skew.permits_bounded.mp permitted
  -- the earliest instant is cut off at the infinite past, which makes the bound stricter only
  rw [Instant.le_def, Instant.millis_sub] at earliest
  have shift := span.shift_le_millis
  omega

/-- An emission of an invocation keeps the windows, takes the timestamp of the element unless
    another one is given, and goes back no further than the skew allows. -/
theorem Scope.place_of_element {input : Instant} {windows : WindowSet} {skew : Skew}
    {explicit : Option Instant} {place : Placement}
    (found : (element input windows skew : Scope α).resolve explicit = .ok place) :
    place.windows = windows ∧ place.timestamp = explicit.getD input ∧
      ∀ span, skew = .bounded span → input.millis - span.millis ≤ place.timestamp.millis := by
  cases explicit with
  | none =>
    obtain rfl := Except.ok.inj found
    refine ⟨rfl, rfl, fun span _ => ?_⟩
    show input.millis - span.millis ≤ input.millis
    omega
  | some candidate =>
    rw [resolve] at found
    by_cases permitted : skew.permits input candidate = true
    · rw [if_pos permitted] at found
      obtain rfl := Except.ok.inj found
      refine ⟨rfl, rfl, fun span bounded => ?_⟩
      subst bounded
      exact Skew.le_of_permits permitted
    · rw [if_neg permitted] at found
      exact absurd found (by simp)

/-- The requests of an invocation are made in the scope of its record. -/
theorem Visit.scope_of_mem_moments {v : Visit α β σ} {visible : Record α}
    (entered : v.entrance = .process visible) {m : Moment α β} (during : m ∈ v.moments) :
    m.scope = .element visible.timestamp visible.windows v.runner.plan.skew := by
  rw [Visit.moments, entered] at during
  obtain ⟨asked, _, rfl⟩ := List.mem_map.mp during
  rfl

/-- A visit of a call that processes a record is an invocation for the record. -/
theorem Stage.of_mem_visits {st : Stage α β σ} {trigger : Record α}
    (call : st.call = .process trigger) {v : Visit α β σ} (h : v ∈ st.visits) :
    v.runner.plan = st.before.runner.plan ∧ ∃ visible, v.entrance = .process visible ∧
      st.before.runner.plan.descriptor.granularity.Shows trigger visible := by
  obtain ⟨_, fixed⟩ := ready_of_mem_visits h
  refine ⟨congrArg Prod.snd fixed, ?_⟩
  cases begins : st.begun? with
  | none =>
    rw [visits_of_refused begins] at h
    exact absurd h (by simp)
  | some begun =>
    rw [visits_of_begun begins, call] at h
    -- to enter the span of the bundle leaves the plan as it is
    exact (Runner.of_mem_visitElement (r := begun.enter st.before.runner) h).2.2

/-- Nothing has reached the sinks of a new router. -/
theorem Runner.reached_routerOf (binding : Binding α β) (settings : Settings)
    (channel : ChannelId) : (routerOf binding settings).reached channel = [] := by
  cases channel with
  | main => rfl
  | tagged tag =>
    cases found : (routerOf binding settings).side? tag with
    | none => simp [Router.reached, found]
    | some output =>
      obtain ⟨declared, _, rfl⟩ := List.mem_map.mp (List.mem_of_find?_eq_some found)
      rw [Router.reached_tagged found]
      rfl

/-- **Where records arrive from.**  In every run of a runner that was built, whatever the callback
    does and however its phases end, the records that reached the sink of a channel are those that
    the requests of the run delivered, in order.  Each of them has a window.  One that is delivered
    while a record is processed lies in the windows that its invocation sees, and at the time of the
    record unless another time was given, which is then the time of the delivered record and no
    earlier than the skew allows: the callback's own skew, or else the one in the settings. -/
theorem arrivals_placed (callback : Callback α β σ) (state : σ) (binding : Binding α β)
    (settings : Settings) (r : Runner α β σ)
    (built : (Runner.build callback state binding settings).outcome = .done r)
    (calls : List (Call α)) :
    (∀ channel, ((Session.ofRunner r).performAll calls).1.runner.run.router.reached channel =
      ((Session.ofRunner r).stages calls).flatMap fun st =>
        st.moments.flatMap fun m => m.delivered channel) ∧
    ∀ st ∈ (Session.ofRunner r).stages calls, ∀ v ∈ st.visits, ∀ m ∈ v.moments,
      ∀ channel, ∀ out ∈ m.delivered channel,
        0 < out.windows.size ∧
        ∀ trigger, st.call = .process trigger →
          ∃ visible explicit, v.entrance = .process visible ∧
            callback.descriptor.granularity.Shows trigger visible ∧
            out.windows = visible.windows ∧
            m.explicit? = some explicit ∧
            out.timestamp = explicit.getD trigger.timestamp ∧
            ∀ span, callback.skew.getD settings.skew = .bounded span →
              trigger.timestamp.millis - span.millis ≤ out.timestamp.millis := by
  obtain ⟨plan, router⟩ := Runner.of_build built
  constructor
  · intro channel
    have nothing : (Session.ofRunner r).runner.run.router.reached channel = [] := by
      show r.run.router.reached channel = []
      rw [router, Runner.reached_routerOf]
    have accumulated := (accumulates_reached channel).view_performAll (Session.ofRunner r) calls
    rw [accumulated, nothing, List.nil_append]
  · intro st hst v hv m hm channel out arrives
    refine ⟨out.windows.size_pos, fun trigger call => ?_⟩
    -- the plan is the one that the runner was built with, at every stage
    have planned : st.before.runner.plan = r.plan := congrArg Prod.snd (Stage.fixed_of_mem hst)
    obtain ⟨samePlan, visible, entered, shows⟩ := Stage.of_mem_visits call hv
    obtain ⟨explicit, place, emission, found, timestamp, windows⟩ :=
      Moment.placed_of_mem_delivered arrives
    rw [Visit.scope_of_mem_moments entered hm] at found
    obtain ⟨hwindows, htimestamp, hskew⟩ := Scope.place_of_element found
    rw [planned, plan] at shows
    rw [samePlan, planned, plan] at hskew
    rw [shows.timestamp_eq] at htimestamp hskew
    exact ⟨visible, explicit, entered, shows, windows.trans hwindows, emission,
      timestamp.trans htimestamp, fun span bounded => timestamp ▸ hskew span bounded⟩

/-! ### A callback that emits early

A record at 5ms in two windows is emitted two milliseconds early in each of them, which is as early
as the skew of the callback allows.
-/

namespace EarlyEcho

/-- Emits the element two milliseconds early, in one window at a time. -/
def callback : Callback Nat Nat Unit where
  descriptor := { Descriptor.plain with granularity := .perWindow }
  skew := some (.bounded (.ofMillis 2))
  setup state := .stop state (.done ())
  start _ state := .stop state (.done ())
  process view state :=
    .ask (.output (.emit view.element (some (view.timestamp.sub (.ofMillis 2))))) fun result =>
      .stop state (.ofExcept result)
  finish _ state := .stop state (.done ())

/-- The first ten milliseconds after the epoch. -/
def tenMillis : Interval := ⟨.epoch, .clamp 10, by decide⟩

/-- A record at 5ms in the whole of time and in the first ten milliseconds. -/
def record : Record Nat where
  value := 7
  timestamp := .clamp 5
  windows := ⟨[.global, .interval tenMillis], by simp, by simp⟩

/-- One bundle with the record in it. -/
def calls : List (Call Nat) := [.openBundle, .start, .process record, .finish]

end EarlyEcho

/-- Both records of the early callback reach the sink, no earlier than 3ms. -/
theorem arrivals_placed_earlyEcho :
    ∃ r, (Runner.build EarlyEcho.callback () (.ofMain .collecting) .default).outcome = .done r ∧
      (((Session.ofRunner r).performAll EarlyEcho.calls).1.runner.run.router.reached .main).length
        = 2 ∧
      ∀ st ∈ (Session.ofRunner r).stages EarlyEcho.calls, ∀ v ∈ st.visits, ∀ m ∈ v.moments,
        ∀ out ∈ m.delivered .main, st.call = .process EarlyEcho.record →
          5 - 2 ≤ out.timestamp.millis := by
  refine ⟨_, rfl, rfl, ?_⟩
  intro st hst v hv m hm out arrives call
  obtain ⟨_, placed⟩ := arrivals_placed EarlyEcho.callback () (.ofMain .collecting) .default _ rfl
    EarlyEcho.calls
  obtain ⟨_, inside⟩ := placed st hst v hv m hm .main out arrives
  obtain ⟨_, _, _, _, _, _, _, bound⟩ := inside EarlyEcho.record call
  exact bound (.ofMillis 2) rfl

end BundleRunner
