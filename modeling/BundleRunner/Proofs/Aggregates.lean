import BundleRunner.Proofs.Book
import BundleRunner.Proofs.Changes

namespace BundleRunner

/-!
# Aggregates of a run

The registry of a run is used in every phase: in the setup, by the callback in its bundles, and in
between by whoever kept a handle.  This file reads off what was asked of it, with the answers that
were given, and proves that it is kept like a book throughout:

* `Moment.dealings`, `Session.dealings` — the dealings with the registry in a run;
* `SharedRequest.ran_perform`, `Event.ran_dealings` — one request, and one event;
* `Session.ran_dealings`, `Runner.ran_setupDealings` — a sequence of calls, and the setup;
* `Errand` — a call on a session, or a call on its registry in between.
-/

variable {α β σ : Type}

/-! ### Dealings of a run -/

/-- The dealing with the registry that a shared request is in a state, if it is one, with the answer
    that it gets there. -/
def SharedRequest.dealings (request : SharedRequest) (s : RunState β) : List Dealing :=
  match request with
  | create name input output combiner =>
    [⟨.create name input output combiner,
      (perform s (create name input output combiner)).2⟩]
  | add input output aggregator x => [⟨.add input output aggregator x, ()⟩]
  | value input output aggregator =>
    [⟨.value input output aggregator, (perform s (value input output aggregator)).2⟩]
  | raise _ => []
  | clear => []

/-- The dealing with the registry that a request of the setup is in a state. -/
def SetupRequest.dealings (request : SetupRequest) (s : RunState β) : List Dealing :=
  match request with
  | shared request => request.dealings s
  | find name input output =>
    [⟨.get name input output, ((find name input output).perform s).2⟩]

/-- The shared request that a request is, if it is one. -/
def Moment.shared? : Moment α β → Option SharedRequest
  | bundle _ (.shared request) _ => some request
  | element _ (.output (.shared request)) _ => some request
  | _ => none

/-- The dealing with the registry that a request is, if it is one. -/
def Moment.dealings (m : Moment α β) : List Dealing :=
  m.shared?.toList.flatMap fun request => request.dealings m.before

/-- The dealings of an event. -/
def Event.dealings (e : Event α β σ) : List Dealing := e.moments.flatMap Moment.dealings

/-- The dealings of a sequence of calls, in order. -/
def Session.dealings (s : Session α β σ) (calls : List (Call α)) : List Dealing :=
  (s.events calls).flatMap Event.dealings

/-- The dealings of the setup, in order. -/
def Runner.setupDealings (callback : Callback α β σ) (state : σ) (binding : Binding α β)
    (settings : Settings) : List Dealing :=
  ((callback.setup state).requests SetupRequest.perform (freshRun binding settings)).flatMap
    fun asked => asked.1.dealings asked.2

/-! ### One request -/

/-- One call is a history of its own. -/
theorem Registry.ran_single {r : Registry} (call : RegistryCall) :
    r.Ran [⟨call, (r.perform call).2⟩] (r.perform call).1 := ⟨rfl, rfl⟩

/-- A shared request makes of the registry what its dealing does. -/
theorem SharedRequest.ran_perform (request : SharedRequest) (s : RunState β) :
    s.registry.Ran (request.dealings s) (request.perform s).1.registry := by
  cases request with
  | create name input output combiner =>
    have told : (SharedRequest.perform s (.create name input output combiner)).1.registry =
        (s.registry.create name combiner).registry :=
      congrArg RunState.registry (RunState.silent_tellAny _ _)
    rw [told]
    exact Registry.ran_single (.create name input output combiner)
  | add input output aggregator x => exact Registry.ran_single (.add input output aggregator x)
  | value input output aggregator => exact Registry.ran_single (.value input output aggregator)
  | raise reason => rfl
  | clear => rfl

/-- So does a request of the setup. -/
theorem SetupRequest.ran_perform (request : SetupRequest) (s : RunState β) :
    s.registry.Ran (request.dealings s) (request.perform s).1.registry := by
  cases request with
  | shared request => exact request.ran_perform s
  | find name input output => exact Registry.ran_single (.get name input output)

/-- A shared request is answered like one in every phase. -/
theorem Moment.after_of_shared {m : Moment α β} {request : SharedRequest}
    (shared : m.shared? = some request) : m.after = (request.perform m.before).1 := by
  unfold shared? at shared
  split at shared
  next => cases shared; rfl
  next => cases shared; rfl
  next => exact absurd shared (by simp)

/-- No other request reaches the registry. -/
theorem Moment.part_ne_registry {m : Moment α β} (other : m.shared? = none) :
    m.part ≠ .registry := by
  cases output : m.output? with
  | none => exact Part.ne_of_mem (part_mem_of_inner output) (by decide)
  | some asked =>
    obtain ⟨scope, request⟩ := asked
    rw [(after_of_output output).2]
    cases request with
    | shared request =>
      -- a shared request in an emission scope would have been one for `shared?` as well
      unfold output? at output
      split at output
      next => cases output; exact absurd other (by simp [shared?])
      next => cases output; exact absurd other (by simp [shared?])
      next => exact absurd output (by simp)
    | _ => exact Part.noConfusion

/-- An event makes of the registry what its dealings do. -/
theorem Event.ran_dealings (e : Event α β σ) :
    e.before.registry.Ran e.dealings e.after.registry := by
  cases e with
  | request m =>
    rw [dealings, moments, List.flatMap_singleton, Moment.dealings]
    cases shared : m.shared? with
    | some request =>
      rw [Option.toList_some, List.flatMap_singleton, after, Moment.after_of_shared shared]
      exact request.ran_perform m.before
    | none =>
      rw [Option.toList_none, List.flatMap_nil]
      exact (registry_after (e := .request m) (Moment.part_ne_registry shared)).symm
  | _ => exact (registry_after (part_ne_of_silent rfl rfl)).symm

/-! ### A run -/

/-- Steps that each make of the registry what their dealings do, do so together. -/
theorem Leads.ran {ε : Type 1} {before after : ε → RunState β} {dealings : ε → List Dealing}
    {s u : RunState β} {xs : List ε} (leads : Leads before after s xs u)
    (ran : ∀ x ∈ xs, (before x).registry.Ran (dealings x) (after x).registry) :
    s.registry.Ran (xs.flatMap dealings) u.registry := by
  -- steps meet up to the log and the counters, and the registry is part of what they share
  have same : ∀ {s t : RunState β}, s.world = t.world → s.registry = t.registry :=
    fun {s t} h => show s.world.registry = t.world.registry by rw [h]
  induction xs generalizing s with
  | nil => exact same leads
  | cons x xs ih =>
    rw [same leads.1, List.flatMap_cons]
    exact Registry.ran_append.mpr ⟨_, ran x (List.mem_cons_self ..),
      ih leads.2 fun y hy => ran y (List.mem_cons_of_mem _ hy)⟩

/-- **A sequence of calls** makes of the registry what its dealings do. -/
theorem Session.ran_dealings (s : Session α β σ) (calls : List (Call α)) :
    s.runner.run.registry.Ran (s.dealings calls) (s.performAll calls).1.runner.run.registry :=
  (s.leads_events calls).ran fun e _ => e.ran_dealings

/-- The requests of a setup make of the registry what their dealings do. -/
theorem Program.ran_requests_setup (program : Program SetupRequest.Answer σ) (s : RunState β) :
    s.registry.Ran
      ((program.requests SetupRequest.perform s).flatMap fun asked => asked.1.dealings asked.2)
      (program.run SetupRequest.perform s).env.registry := by
  induction program generalizing s with
  | stop state outcome => rfl
  | ask request next ih =>
    rw [requests_ask, List.flatMap_cons]
    exact Registry.ran_append.mpr ⟨_, request.ran_perform s, ih _ _⟩

/-- **The setup** makes of an empty registry what its dealings do. -/
theorem Runner.ran_setupDealings {callback : Callback α β σ} {state : σ} {binding : Binding α β}
    {settings : Settings} {r : Runner α β σ}
    (built : (build callback state binding settings).outcome = .done r) :
    Registry.empty.Ran (setupDealings callback state binding settings) r.run.registry := by
  obtain ⟨-, -, -, -, -, run⟩ := build_eq_done built
  rw [run]
  exact Program.ran_requests_setup (callback.setup state) (freshRun binding settings)

/-! ### Errands -/

/-- A call on a session, or a call on its registry by someone who kept a handle. -/
inductive Errand (α : Type) : Type 1 where
  | call (call : Call α)
  | use (call : RegistryCall)

namespace Session

/-- Run an errand, and tell the dealings that it had with the registry. -/
def runErrand (s : Session α β σ) : Errand α → Session α β σ × List Dealing
  | .call call => ((s.perform call).1, s.dealings [call])
  | .use call =>
    let made := s.runner.run.registry.perform call
    ({ s with runner := s.runner.mapRun fun run => { run with registry := made.1 } },
      [⟨call, made.2⟩])

/-- Run errands one after the other. -/
def runErrands (s : Session α β σ) : List (Errand α) → Session α β σ × List Dealing
  | [] => (s, [])
  | errand :: errands =>
    let first := s.runErrand errand
    let rest := first.1.runErrands errands
    (rest.1, first.2 ++ rest.2)

theorem ran_runErrand (s : Session α β σ) (errand : Errand α) :
    s.runner.run.registry.Ran (s.runErrand errand).2
      (s.runErrand errand).1.runner.run.registry := by
  cases errand with
  | call call => exact s.ran_dealings [call]
  | use call => exact Registry.ran_single call

/-- **Errands** make of the registry what their dealings do. -/
theorem ran_runErrands (s : Session α β σ) (errands : List (Errand α)) :
    s.runner.run.registry.Ran (s.runErrands errands).2
      (s.runErrands errands).1.runner.run.registry := by
  induction errands generalizing s with
  | nil => rfl
  | cons errand errands ih => exact Registry.ran_append.mpr ⟨_, s.ran_runErrand errand, ih _⟩

end Session

/-- **Aggregates as a map.** However the calls and the uses of handles follow one another, over any
    number of bundles, the registry of a run is kept like a book from the setup on: wherever the
    history is cut, the past has led from an empty registry to one that its book describes, every
    account of the past stays and takes all inputs of the future, and the next call is answered like
    the book answers it. -/
theorem registry_refines_map (callback : Callback α β σ) (state : σ) (binding : Binding α β)
    (settings : Settings) (r : Runner α β σ)
    (built : (Runner.build callback state binding settings).outcome = .done r)
    (errands : List (Errand α)) (past future : List Dealing)
    (cut : Runner.setupDealings callback state binding settings ++
      ((Session.ofRunner r).runErrands errands).2 = past ++ future) :
    ∃ registry, Registry.empty.Ran past registry ∧
      registry.Ran future ((Session.ofRunner r).runErrands errands).1.runner.run.registry ∧
      Registry.Keeps past future registry
        ((Session.ofRunner r).runErrands errands).1.runner.run.registry := by
  -- the setup begins with an empty registry, and the errands go on from there
  have whole := Registry.ran_append.mpr
    ⟨_, Runner.ran_setupDealings built, (Session.ofRunner r).ran_runErrands errands⟩
  rw [cut] at whole
  obtain ⟨registry, first, second⟩ := Registry.ran_append.mp whole
  exact ⟨registry, first, second, Registry.keeps_of_ran first second⟩

/-! ### A total over two bundles

The setup registers a total, tries to register it once more, and keeps the handle.  Every element is
added to the total, and a copy of the handle is used between two bundles.
-/

namespace Totals

/-- The handle on the total. -/
abbrev Handle := Aggregator .unsigned .unsigned

/-- Registers a total, and adds every element to it. -/
def callback : Callback Nat Nat (Option Handle) where
  descriptor := .plain
  skew := none
  setup _ :=
    .ask (.shared (.create "total" .unsigned .unsigned .sum)) fun made =>
      .ask (.shared (.create "total" .signed .signed .sum)) fun _ =>
        .stop made.toOption (.done ())
  start _ state := .stop state (.done ())
  process view state :=
    match state with
    | some handle =>
      .ask (.output (.shared (.add .unsigned .unsigned handle view.element))) fun _ =>
        .stop state (.done ())
    | none => .stop none (.panicked "no handle")
  finish _ state := .stop state (.done ())

/-- No side inputs, and no side outputs. -/
def binding : Binding Nat Nat :=
  ⟨Declarations.ofMain .collecting, List.nodup_nil, List.nodup_nil⟩

/-- A record of a number at the epoch, in the whole of time. -/
def record (n : Nat) : Record Nat := ⟨n, .epoch, .single .global⟩

/-- A bundle over one record. -/
def bundle (n : Nat) : List (Errand Nat) :=
  [.call .openBundle, .call .start, .call (.process (record n)), .call .finish]

/-- Two bundles, and dealings between them and after them. -/
def errands : List (Errand Nat) :=
  bundle 3 ++
    [.use (.copy .unsigned .unsigned ⟨"total"⟩), .use (.add .unsigned .unsigned ⟨"total"⟩ 4),
      .use (.createSimple " " .text String.join)] ++
    bundle 5 ++
    [.use (.get "total" .unsigned .signed), .use (.value .unsigned .unsigned ⟨"total"⟩)]

end Totals

/-- With the setup as the past, the first registration counts, and its account has all three inputs
    in the end. -/
theorem registry_refines_map_totals :
    ∃ r, (Runner.build Totals.callback none Totals.binding .default).outcome = .done r ∧
      ∃ past future final,
        Runner.setupDealings Totals.callback none Totals.binding .default = past ∧
        ((Session.ofRunner r).runErrands Totals.errands).2 = future ∧
        ((Session.ofRunner r).runErrands Totals.errands).1.runner.run.registry = final ∧
        past.length = 2 ∧ future.length = 7 ∧
        final.get? "total" .unsigned .signed = none ∧
        final.value? (⟨"total"⟩ : Totals.Handle) = some 12 ∧
        ∃ registry, Registry.Keeps past future registry final ∧
          final.find? "total" =
            some ((⟨.unsigned, .unsigned, .sum, [3, 4, 5]⟩ : Account).entry "total") := by
  refine ⟨_, rfl, _, _, _, rfl, rfl, rfl, rfl, rfl, rfl, rfl, ?_⟩
  obtain ⟨registry, -, -, keeps⟩ :=
    registry_refines_map Totals.callback none Totals.binding .default _ rfl Totals.errands _ _ rfl
  have recorded : (⟨.unsigned, .unsigned, .sum, []⟩ : Account).Recorded "total"
      (Runner.setupDealings Totals.callback none Totals.binding .default) :=
    ⟨[], [⟨.create "total" .signed .signed .sum, .error (.duplicateName "aggregator" "total")⟩],
      ⟨"total"⟩, rfl, rfl⟩
  exact ⟨registry, keeps, keeps.stays "total" _ recorded⟩

end BundleRunner
