import BundleRunner.Proofs.Arrivals
import BundleRunner.Proofs.Emissions
import BundleRunner.Proofs.TaggedEmissions
import BundleRunner.Window.Fixed
import BundleRunner.Window.Sliding

namespace BundleRunner

/-!
# Emissions outside element processing

At the start and the finish of a bundle there is no element to take windows from, so the window
function is asked for them.  It sees the timestamp of the emission, if one is given, and nothing
else.  This file says what it makes of that, and what becomes of the emission:

* `WindowRule.reads` — what a rule reads, in order;
* `WindowRule.Propagates` — the rule fails with the first refusal that it reads;
* `WindowRule.run_of_hidden` — such a rule fails with the name of the first thing that is hidden;
* `WindowRule.run_of_unhidden` — a rule that reads nothing hidden comes to the same as for an
  element at the given timestamp;
* `Moment.Assigned` — an emission by what the window function assigns;
* `outside_emission_exact` — every emission at the start or the finish of a bundle, in every run.

A rule may ignore a refusal and go on; what it then assigns counts like any other answer.
-/

variable {α β σ : Type}

/-! ### What a window function reads -/

/-- What a window function can read. -/
inductive Accessor where
  | element
  | timestamp
  | windows
deriving DecidableEq

namespace Accessor

/-- The name by which messages call it. -/
def text : Accessor → String
  | element => "element"
  | timestamp => "timestamp"
  | windows => "windows"

/-- Whether it is hidden outside element processing, where at most a timestamp is given. -/
def hidden (explicit : Option Instant) : Accessor → Bool
  | element => true
  | timestamp => explicit.isNone
  | windows => true

end Accessor

namespace WindowRule

/-- What a rule reads in a context, in order. -/
def reads (context : AssignContext α) : WindowRule α → List Accessor
  | answer _ => []
  | readElement next => .element :: (next context.element?).reads context
  | readTimestamp next => .timestamp :: (next context.timestamp?).reads context
  | readWindows next => .windows :: (next context.windows?).reads context

/-- The rule fails with a fault, whatever it reads. -/
def Fails (fault : Fault) (rule : WindowRule α) : Prop :=
  ∀ context, rule.run context = .error fault

/-- After a refusal the rule fails with it, and after anything else it goes on in the same way. -/
def Propagates : WindowRule α → Prop
  | answer _ => True
  | readElement next =>
    (∀ fault, (next (.error fault)).Fails fault) ∧ ∀ value, (next (.ok value)).Propagates
  | readTimestamp next =>
    (∀ fault, (next (.error fault)).Fails fault) ∧ ∀ timestamp, (next (.ok timestamp)).Propagates
  | readWindows next =>
    (∀ fault, (next (.error fault)).Fails fault) ∧ ∀ windows, (next (.ok windows)).Propagates

/-- **Hidden reads.** Outside element processing, a rule that propagates refusals fails with the name
    of the first thing it reads that is hidden. -/
theorem run_of_hidden {rule : WindowRule α} (propagates : rule.Propagates)
    {explicit : Option Instant} {accessor : Accessor}
    (first : (rule.reads (.bundle explicit)).find? (Accessor.hidden explicit) = some accessor) :
    rule.run (.bundle explicit) = .error (AssignContext.refusal accessor.text) := by
  induction rule with
  | answer result => exact absurd first (by simp [reads])
  | readElement next =>
    obtain rfl : .element = accessor := Option.some.inj first
    exact propagates.1 _ _
  | readTimestamp next ih =>
    cases explicit with
    | none =>
      obtain rfl : .timestamp = accessor := Option.some.inj first
      exact propagates.1 _ _
    | some t =>
      -- a timestamp that is given is read, and the rule goes on
      rw [reads, List.find?_cons_of_neg (by simp [Accessor.hidden])] at first
      exact ih _ (propagates.2 t) first
  | readWindows next =>
    obtain rfl : .windows = accessor := Option.some.inj first
    exact propagates.1 _ _

/-- **Open reads.** A rule that reads nothing hidden comes to the same as for any element at the
    given timestamp. -/
theorem run_of_unhidden {rule : WindowRule α} {explicit : Option Instant}
    (unhidden : ∀ accessor ∈ rule.reads (.bundle explicit), accessor.hidden explicit = false)
    (value : α) {t : Instant} (given : ∀ timestamp, explicit = some timestamp → timestamp = t)
    (windows : WindowSet) :
    rule.run (.bundle explicit) = rule.run (.element value t windows) := by
  induction rule with
  | answer result => rfl
  | readElement next =>
    exact absurd (unhidden .element (List.mem_cons_self ..)) (by simp [Accessor.hidden])
  | readTimestamp next ih =>
    have later := fun accessor h => unhidden accessor (List.mem_cons_of_mem _ h)
    cases explicit with
    | none => exact absurd (unhidden .timestamp (List.mem_cons_self ..)) (by decide)
    | some timestamp =>
      obtain rfl := given timestamp rfl
      exact ih _ later
  | readWindows next =>
    exact absurd (unhidden .windows (List.mem_cons_self ..)) (by simp [Accessor.hidden])

/-- A rule that places records by their timestamp propagates the refusal of it. -/
theorem propagates_byTimestamp (place : Instant → Except Fault WindowSet) :
    (byTimestamp place : WindowRule α).Propagates :=
  ⟨fun _ _ => rfl, fun _ => trivial⟩

end WindowRule

/-- Outside element processing the function fails without a timestamp, and places a record at a
    timestamp like any element there. -/
structure WindowFn.NeedsTimestamp (f : WindowFn α) : Prop where
  without : f.assign (.bundle none) =
    .error (.contextMisuse "timestamp" "outside element processing")
  given : ∀ (t : Instant) (value : α) (windows : WindowSet),
    f.assign (.bundle (some t)) = f.assign (.element value t windows)

/-- So does every function that places records by their timestamp. -/
theorem WindowFn.needsTimestamp_of_rule {f : WindowFn α} {place : Instant → Except Fault WindowSet}
    (rule : f.rule = .byTimestamp place) : f.NeedsTimestamp where
  without := by
    rw [assign, rule]
    exact WindowRule.run_of_hidden (WindowRule.propagates_byTimestamp place)
      (show _ = some Accessor.timestamp from rfl)
  given t value windows := by
    rw [assign, assign, rule]
    refine WindowRule.run_of_unhidden (fun accessor h => ?_) value ?_ windows
    · obtain rfl : accessor = .timestamp := List.mem_singleton.mp h
      rfl
    · exact fun _ given => (Option.some.inj given).symm

/-! ### One emission -/

/-- The checks of an emission before it looks for a place: behind a tag, that the tag is declared, and
    that it is in use or the limit leaves room for it. -/
def Router.tagChecks (r : Router β) : ChannelId → List (Except Fault Unit)
  | .main => []
  | .tagged tag =>
    [if tag ∈ r.side.map SideOutput.tag then .ok () else .error (.unknownTag tag),
     if tag ∈ r.used ∨ r.used.length < r.limit then .ok ()
      else .error (.tooManyOutputs r.limit (r.used.length + 1))]

/-- The first fault of checks in two parts. -/
theorem firstFault?_append (first second : List (Except Fault Unit)) :
    firstFault? (first ++ second) = (firstFault? first).or (firstFault? second) := by
  induction first with
  | nil => rfl
  | cons check checks ih =>
    cases check with
    | ok u => exact ih
    | error fault => rfl

/-- After the checks of its tag, a tagged emission needs a place. -/
theorem Router.entryChecks_eq (r : Router β) (scope : Scope α) (tag : String)
    (explicit : Option Instant) :
    r.entryChecks scope tag explicit =
      r.tagChecks (.tagged tag) ++ [(scope.resolve explicit).map fun _ => ()] := rfl

/-- How an emission comes to be handed over: the checks of its tag fail, or its placement does, and
    nothing changes; or its record is handed over at the place that is found. -/
theorem OutputRequest.emission_cases {scope : Scope α} {request : OutputRequest β} {s : RunState β}
    {e : Emission β} (emission : request.emission? scope s = some e) :
    ∃ explicit, request.explicit? = some explicit ∧
      ((∃ fault, firstFault? (s.router.tagChecks e.channel) = some fault ∧
          e.answer = .error fault ∧ (request.perform scope s).1 = s) ∨
       (firstFault? (s.router.tagChecks e.channel) = none ∧ ∃ fault,
          scope.resolve explicit = .error fault ∧
          e.answer = .error fault ∧ (request.perform scope s).1 = s) ∨
       (firstFault? (s.router.tagChecks e.channel) = none ∧ ∃ place record,
          scope.resolve explicit = .ok place ∧ e.handedOver = true ∧ e.record = .ok record ∧
          record.timestamp = place.timestamp ∧ record.windows = place.windows)) := by
  cases request with
  | emit value explicit =>
    refine ⟨explicit, rfl, .inr ?_⟩
    obtain rfl := Option.some.inj emission
    -- the main output has no tag, so that the placement alone decides
    cases found : scope.resolve explicit with
    | error fault =>
      have made : s.emit scope value explicit = (s, .error fault) := by
        rw [RunState.emit, Router.emitMain_of_error found]
        rfl
      exact .inl ⟨rfl, fault, rfl, congrArg Prod.snd made, congrArg Prod.fst made⟩
    | ok place => exact .inr ⟨rfl, place, _, rfl, rfl, rfl, rfl, rfl⟩
  | emitTagged tag value explicit =>
    refine ⟨explicit, rfl, ?_⟩
    obtain rfl := Option.some.inj emission
    rcases s.router.emitTagged_entry scope tag value explicit with
      ⟨fault, first, refused⟩ | ⟨passes, output, place, declared, room, placed⟩
    · have made : s.emitTagged scope tag value explicit = (s, .error fault) := by
        rw [RunState.emitTagged, refused]
        rfl
      rw [Router.entryChecks_eq, firstFault?_append] at first
      -- the fault is of the tag, or else the tag has passed and it is of the placement
      cases checked : firstFault? (s.router.tagChecks (.tagged tag)) with
      | some fault' =>
        rw [checked] at first
        obtain rfl : fault' = fault := Option.some.inj first
        exact .inl ⟨fault', rfl, congrArg Prod.snd made, congrArg Prod.fst made⟩
      | none =>
        rw [checked, Option.none_or] at first
        cases found : scope.resolve explicit with
        | ok place => exact absurd first (by simp [found, Except.map, firstFault?])
        | error fault' =>
          rw [found] at first
          obtain rfl : fault' = fault := Option.some.inj first
          exact .inr (.inl ⟨rfl, fault', rfl, congrArg Prod.snd made, congrArg Prod.fst made⟩)
    · rw [Router.entryChecks_eq, firstFault?_append] at passes
      refine .inr (.inr ⟨(Option.or_eq_none_iff.mp passes).1, place,
        (place.record value).map .inr, placed, ?_, ?_, rfl, rfl⟩)
      · simp [declared, room, placed, Except.isOk, Except.toBool]
      · simp [placed, Except.map]
  | _ => exact absurd emission (by simp [emission?])

/-- What becomes of an emission outside element processing, given the timestamp that it is made with
    and what the window function assigns to it. -/
structure Moment.Assigned (m : Moment α β) (e : Emission β) (explicit : Option Instant)
    (assigned : Except Fault WindowSet) : Prop where
  /-- The emission is made with the timestamp. -/
  time : m.explicit? = some explicit
  /-- If a check of its tag fails, it fails with that and changes nothing. -/
  refused : ∀ fault, firstFault? (m.before.router.tagChecks e.channel) = some fault →
    e.answer = .error fault ∧ m.after = m.before
  /-- Otherwise a fault of the window function is handed on, and nothing changes. -/
  failed : firstFault? (m.before.router.tagChecks e.channel) = none →
    ∀ fault, assigned = .error fault → e.answer = .error fault ∧ m.after = m.before
  /-- If windows are assigned, the record is handed over in these windows, at the timestamp or else
      in the infinite past. -/
  placed : firstFault? (m.before.router.tagChecks e.channel) = none →
    ∀ windows, assigned = .ok windows → e.handedOver = true ∧
      ∃ record, e.record = .ok record ∧ record.windows = windows ∧
        record.timestamp = explicit.getD .min
  /-- So it is with every record that reaches a sink. -/
  delivered : ∀ channel, ∀ out ∈ m.delivered channel,
    assigned = .ok out.windows ∧ out.timestamp = explicit.getD .min
  /-- Counters, sinks and log show this one emission, and show it if it is handed over. -/
  traces : m.before.Emits [e] m.after

/-- **One emission.** An emission outside element processing goes as the window function says. -/
theorem Moment.assigned_of_mem {windowFn : WindowFn α} {request : OutputRequest β}
    {s : RunState β} {e : Emission β} (made : e ∈ (bundle windowFn request s).emissions) :
    ∃ explicit, (bundle windowFn request s).Assigned e explicit
      (windowFn.assign (.bundle explicit)) := by
  have emission : request.emission? (.bundle windowFn) s = some e := Option.mem_toList.mp made
  obtain ⟨explicit, time, goes⟩ := OutputRequest.emission_cases emission
  -- outside of an invocation the placement is what the window function says, and no skew counts
  have resolves : (Scope.bundle windowFn).resolve explicit =
      (windowFn.assign (.bundle explicit)).map fun windows => ⟨explicit.getD .min, windows⟩ := rfl
  refine ⟨explicit, time, ?_, ?_, ?_, ?_, ?_⟩
  · intro fault first
    rcases goes with ⟨fault', first', answer, after⟩ | ⟨passes, -⟩ | ⟨passes, -⟩
    · obtain rfl := Option.some.inj (first'.symm.trans first)
      exact ⟨answer, after⟩
    · exact absurd (passes.symm.trans first) (by simp)
    · exact absurd (passes.symm.trans first) (by simp)
  · intro passes fault fails
    rw [fails] at resolves
    rcases goes with ⟨_, first, -⟩ | ⟨-, fault', unplaced, answer, after⟩ | ⟨-, place, _, found, -⟩
    · exact absurd (first.symm.trans passes) (by simp)
    · obtain rfl : fault' = fault := Except.error.inj (unplaced.symm.trans resolves)
      exact ⟨answer, after⟩
    · exact absurd (found.symm.trans resolves) (by simp [Except.map])
  · intro passes windows assigns
    rw [assigns] at resolves
    rcases goes with ⟨_, first, -⟩ | ⟨-, fault, unplaced, -⟩ |
      ⟨-, place, record, found, handed, placed, timestamp, inside⟩
    · exact absurd (first.symm.trans passes) (by simp)
    · exact absurd (unplaced.symm.trans resolves) (by simp [Except.map])
    · obtain rfl := Except.ok.inj (found.symm.trans resolves)
      exact ⟨handed, record, placed, inside, timestamp⟩
  · intro channel out arrives
    obtain ⟨explicit', place, time', found, timestamp, inside⟩ := placed_of_mem_delivered arrives
    -- a record that arrives was placed by this emission
    obtain rfl : explicit' = explicit := Option.some.inj (time'.symm.trans time)
    rw [show (bundle windowFn request s).scope = .bundle windowFn from rfl, resolves] at found
    cases assigns : windowFn.assign (.bundle explicit') with
    | error fault => exact absurd found (by simp [assigns, Except.map])
    | ok windows =>
      rw [assigns] at found
      obtain rfl := Except.ok.inj found
      rw [timestamp, inside]
      exact ⟨rfl, rfl⟩
  · have traces := (bundle windowFn request s).emits
    have one : (bundle windowFn request s).emissions = [e] := by
      rw [emissions, Option.toList_eq_singleton_iff]
      exact emission
    rw [one] at traces
    exact traces

/-! ### Runs -/

/-- The requests at the start and the finish of a bundle are made where the window function of the
    plan assigns windows. -/
theorem Visit.exists_bundle {v : Visit α β σ} (phase : v.entrance = .start ∨ v.entrance = .finish)
    {m : Moment α β} (during : m ∈ v.moments) :
    ∃ request s, m = .bundle v.runner.plan.windowFn request s := by
  obtain ⟨entrance, r⟩ := v
  rcases phase with rfl | rfl
  · obtain ⟨asked, -, rfl⟩ := List.mem_map.mp during
    exact ⟨asked.1, asked.2, rfl⟩
  · obtain ⟨asked, -, rfl⟩ := List.mem_map.mp during
    exact ⟨asked.1, asked.2, rfl⟩

/-- **Emissions outside element processing.**  In every run of a runner that was built, each emission
    at the start or the finish of a bundle goes as its window function says: its fault is handed on
    and nothing changes, and its windows are those of every record that reaches a sink, at the
    timestamp that is given or else in the infinite past.  If the function propagates refusals and
    reads something that is hidden there, the emission fails with the name of the first such thing,
    once the checks of its tag are passed.  The global windows never fail; fixed and sliding windows
    do without a timestamp, and with one they are those of an element at that time. -/
theorem outside_emission_exact (callback : Callback α β σ) (state : σ) (binding : Binding α β)
    (settings : Settings) (r : Runner α β σ)
    (built : (Runner.build callback state binding settings).outcome = .done r)
    (calls : List (Call α)) :
    (∀ st ∈ (Session.ofRunner r).stages calls, ∀ v ∈ st.visits,
      v.entrance = .start ∨ v.entrance = .finish → ∀ m ∈ v.moments, ∀ e ∈ m.emissions,
        ∃ explicit, m.Assigned e explicit (binding.windowFn.assign (.bundle explicit)) ∧
          (binding.windowFn.rule.Propagates →
            firstFault? (m.before.router.tagChecks e.channel) = none → ∀ accessor,
              (binding.windowFn.rule.reads (.bundle explicit)).find? (Accessor.hidden explicit) =
                some accessor →
              e.answer = .error (.contextMisuse accessor.text "outside element processing") ∧
                m.after = m.before)) ∧
    (∀ explicit, (WindowFn.global : WindowFn α).assign (.bundle explicit) = .ok .global) ∧
    (∀ f : FixedWindows, (f.toWindowFn : WindowFn α).NeedsTimestamp) ∧
    (∀ f : SlidingWindows, (f.toWindowFn : WindowFn α).NeedsTimestamp) := by
  refine ⟨fun st hst v hv phase m during e made => ?_, fun _ => rfl,
    fun f => WindowFn.needsTimestamp_of_rule rfl, fun f => WindowFn.needsTimestamp_of_rule rfl⟩
  -- every visit has the plan of the session, and so the window function of the binding
  have windowFn : v.runner.plan.windowFn = binding.windowFn := by
    rw [Visit.plan_of_build built hst hv]
    rfl
  obtain ⟨request, s, rfl⟩ := Visit.exists_bundle phase during
  rw [windowFn] at made ⊢
  obtain ⟨explicit, assigned⟩ := Moment.assigned_of_mem made
  refine ⟨explicit, assigned, fun propagates passes accessor first => ?_⟩
  exact assigned.failed passes _ (WindowRule.run_of_hidden propagates first)

/-! ### A window function that looks at the element

The window function reads the timestamp and then the element.  The callback emits without a
timestamp at the start of a bundle, and with one at the finish.
-/

namespace LooksAtElement

/-- Reads the timestamp and the element, and puts the record into the whole of time. -/
def windowFn : WindowFn Nat :=
  .unnamed (.readTimestamp fun
    | .error fault => .answer (.error fault)
    | .ok _ => .readElement fun
      | .error fault => .answer (.error fault)
      | .ok _ => .answer (.ok .global))

/-- Emits around its elements, and ignores how that ends. -/
def callback : Callback Nat Nat Unit where
  descriptor := .plain
  skew := none
  setup state := .stop state (.done ())
  start _ state := .ask (.emit 1 none) fun _ => .stop state (.done ())
  process _ state := .stop state (.done ())
  finish _ state := .ask (.emitTagged "late" ⟨.unsigned, (2 : Nat)⟩ (some .epoch)) fun _ =>
    .stop state (.done ())

/-- A transform with the window function, and one side output. -/
def binding : Binding Nat Nat :=
  ⟨{ (Declarations.ofMain .collecting : Declarations Nat Nat) with
      sideOutputs := [⟨"late", .unsigned, .collecting⟩]
      windowFn },
    by decide, List.nodup_nil⟩

/-- One bundle without an element. -/
def calls : List (Call Nat) := [.openBundle, .start, .finish]

theorem propagates_windowFn : windowFn.rule.Propagates :=
  ⟨fun _ _ => rfl, fun _ => ⟨fun _ _ => rfl, fun _ => trivial⟩⟩

end LooksAtElement

/-- At the start the timestamp is missing, and at the finish the element. -/
theorem outside_emission_exact_looksAtElement :
    ∃ r, (Runner.build LooksAtElement.callback () LooksAtElement.binding .default).outcome =
        .done r ∧
      (((Session.ofRunner r).stages LooksAtElement.calls).flatMap Stage.emissions).length = 2 ∧
      ∀ st ∈ (Session.ofRunner r).stages LooksAtElement.calls, ∀ v ∈ st.visits, ∀ m ∈ v.moments,
        ∀ e ∈ m.emissions,
          (v.entrance = .start → m.explicit? = some none → e.channel = .main →
            e.answer = .error (.contextMisuse "timestamp" "outside element processing")) ∧
          (v.entrance = .finish → m.explicit? = some (some .epoch) →
            firstFault? (m.before.router.tagChecks e.channel) = none →
              e.answer = .error (.contextMisuse "element" "outside element processing") ∧
                m.after = m.before) := by
  refine ⟨_, rfl, rfl, fun st hst v hv m during e made => ?_⟩
  obtain ⟨outside, -⟩ := outside_emission_exact LooksAtElement.callback () LooksAtElement.binding
    .default _ rfl LooksAtElement.calls
  constructor
  · intro start time main
    obtain ⟨explicit, assigned, hidden⟩ := outside st hst v hv (.inl start) m during e made
    obtain rfl : explicit = none := Option.some.inj (assigned.time.symm.trans time)
    have passes : firstFault? (m.before.router.tagChecks e.channel) = none := by
      rw [main]
      rfl
    exact (hidden LooksAtElement.propagates_windowFn passes .timestamp rfl).1
  · intro finish time passes
    obtain ⟨explicit, assigned, hidden⟩ := outside st hst v hv (.inr finish) m during e made
    obtain rfl : explicit = some .epoch := Option.some.inj (assigned.time.symm.trans time)
    exact hidden LooksAtElement.propagates_windowFn passes .element rfl

end BundleRunner
