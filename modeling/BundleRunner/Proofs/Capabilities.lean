import BundleRunner.Proofs.Changes

namespace BundleRunner

/-!
# Capabilities are asked for once

An invocation may ask for the same capability again and again.  This file proves that the provider
hears of it once at most, and what everybody else is answered.

The three capabilities differ in their checks and in what they are answered, and in nothing else.
An `Access` is therefore one thing with a capability in it, and what is proved of it is proved
once.  An answer is kept even when it is a failure of the provider; that a check fails is not kept,
since the signal may be cleared before the next access.

* `Access` — a request for a capability, with its checks in order and the first that fails;
* `Access.perform_eq` — the three ways in which an access can go;
* `Moment.quiet_or_asks` — what one request of an invocation comes to, in terms of accesses;
* `Visit.AsksOnce`, `Visit.asksOnce` — in a visit, the first access that passes asks the provider;
* `capabilities_asked_once` — the same in every run, with all queries that reach the provider.
-/

variable {α β σ : Type}

/-! ### Accesses -/

/-- What a callback is given when it asks for a capability. -/
inductive Grant where
  | state (handle : StateHandle)
  | window (window : Window)
  | internals (handle : InternalsHandle)
deriving DecidableEq

/-- A request for a capability, the invocation that makes it, and the state that it finds. -/
structure Access (α β : Type) : Type 1 where
  invocation : Invocation α
  capability : Capability
  state : ElementState β

/-- The checks for a capability, in order. -/
def Invocation.checks (i : Invocation α) (s : ElementState β) :
    Capability → List (Except Fault Unit)
  | .keyedState => [s.run.interrupt.check, i.declared .keyedState,
      if i.plan.keyed then .ok () else .error .noKey]
  | .window => [i.declared .window,
      if i.record.windows.size = 1 then .ok ()
      else .error (.ambiguousWindow i.record.windows.size)]
  | .windowingInternals => [i.declared .windowingInternals]

/-- The fault of the first check that fails. -/
def firstFault? : List (Except Fault Unit) → Option Fault
  | [] => none
  | .ok () :: checks => firstFault? checks
  | .error fault :: _ => some fault

namespace Access

/-- The fault of the first check that the access fails. -/
def obstacle? (a : Access α β) : Option Fault :=
  firstFault? (a.invocation.checks a.state a.capability)

/-- What the access leaves behind, and what it is answered. -/
def perform (a : Access α β) : ElementState β × Except Fault Grant :=
  match a.capability with
  | .keyedState =>
    let made := a.invocation.keyedState a.state
    (made.1, made.2.map .state)
  | .window =>
    let made := a.invocation.window a.state
    (made.1, made.2.map .window)
  | .windowingInternals =>
    let made := a.invocation.internals a.state
    (made.1, made.2.map .internals)

/-- What the access is answered. -/
def answer (a : Access α β) : Except Fault Grant := a.perform.2

/-- The query that tells the provider of the access. -/
def query (a : Access α β) : Query := ⟨a.capability, a.invocation.scope⟩

/-- What the provider answers when it is asked at the time of the access.  A handle is made out
    under the lease of the invocation. -/
def provided (a : Access α β) : Except Fault Grant :=
  let i := a.invocation
  match a.capability with
  | .keyedState =>
    ((i.plan.provider.keyedState a.state.run.queries i.scope).map (⟨·, i.lease⟩)).map .state
  | .window => (i.plan.provider.window a.state.run.queries i.scope).map .window
  | .windowingInternals =>
    ((i.plan.provider.internals a.state.run.queries i.scope).map (⟨·, i.lease⟩)).map .internals

end Access

/-- The answer that serves an invocation for a capability, when there is one already. -/
def Invocation.cached? (i : Invocation α) (s : ElementState β) :
    Capability → Option (Except Fault Grant)
  | .keyedState => s.answers.keyedState.map fun answer => (answer.map (⟨·, i.lease⟩)).map .state
  | .window => s.answers.window.map fun answer => answer.map .window
  | .windowingInternals =>
    s.answers.internals.map fun answer => (answer.map (⟨·, i.lease⟩)).map .internals

/-! ### One access -/

namespace Invocation

/-- The checks for keyed state fail with the first of them that fails. -/
theorem checkKeyedState_eq (i : Invocation α) (s : ElementState β) :
    i.checkKeyedState s = ((firstFault? (i.checks s .keyedState)).map .error).getD (.ok ()) := by
  unfold checkKeyedState checks
  -- one check after the other, each of them passed or failed
  cases s.run.interrupt.check with
  | error fault => rfl
  | ok u =>
    cases i.declared .keyedState with
    | error fault => rfl
    | ok u => cases i.plan.keyed <;> rfl

/-- The checks for the window fail with the first of them that fails. -/
theorem checkWindow_eq (i : Invocation α) (s : ElementState β) :
    i.checkWindow = ((firstFault? (i.checks s .window)).map .error).getD (.ok ()) := by
  unfold checkWindow checks
  cases i.declared .window with
  | error fault => rfl
  | ok u =>
    by_cases single : i.record.windows.size = 1
    · rw [if_pos single]
      rfl
    · rw [if_neg single]
      rfl

/-- The check for internals fails when it fails. -/
theorem declared_internals_eq (i : Invocation α) (s : ElementState β) :
    i.declared .windowingInternals =
      ((firstFault? (i.checks s .windowingInternals)).map .error).getD (.ok ()) := by
  unfold checks
  cases i.declared .windowingInternals with
  | error fault => rfl
  | ok u => rfl

end Invocation

namespace Access

/-- The state after the provider was asked: with one query more, and with an answer that serves the
    invocation from now on. -/
def asking (a : Access α β) : ElementState β :=
  let i := a.invocation
  let past := a.state.run.queries
  ⟨i.queried a.capability a.state.run,
    match a.capability with
    | .keyedState =>
      { a.state.answers with keyedState := some (i.plan.provider.keyedState past i.scope) }
    | .window => { a.state.answers with window := some (i.plan.provider.window past i.scope) }
    | .windowingInternals =>
      { a.state.answers with internals := some (i.plan.provider.internals past i.scope) }⟩

/-- **One access.** The checks come first; then an answer that is there already serves again; and
    only then the provider is asked. -/
theorem perform_eq (a : Access α β) :
    a.perform =
      match a.obstacle? with
      | some fault => (a.state, .error fault)
      | none =>
        match a.invocation.cached? a.state a.capability with
        | some answer => (a.state, answer)
        | none => (a.asking, a.provided) := by
  obtain ⟨i, capability, s⟩ := a
  cases capability with
  | keyedState =>
    simp only [perform, obstacle?, Invocation.keyedState, i.checkKeyedState_eq s]
    cases firstFault? (i.checks s .keyedState) with
    | some fault => rfl
    | none =>
      simp only [Option.map_none, Option.getD_none, Invocation.askKeyedState, Invocation.cached?]
      cases s.answers.keyedState <;> rfl
  | window =>
    simp only [perform, obstacle?, Invocation.window, i.checkWindow_eq s]
    cases firstFault? (i.checks s .window) with
    | some fault => rfl
    | none =>
      simp only [Option.map_none, Option.getD_none, Invocation.askWindow, Invocation.cached?]
      cases s.answers.window <;> rfl
  | windowingInternals =>
    simp only [perform, obstacle?, Invocation.internals, i.declared_internals_eq s]
    cases firstFault? (i.checks s .windowingInternals) with
    | some fault => rfl
    | none =>
      simp only [Option.map_none, Option.getD_none, Invocation.askInternals, Invocation.cached?]
      cases s.answers.internals <;> rfl

variable {a : Access α β}

/-- An access that fails a check changes nothing, and is answered with the fault of the check. -/
theorem perform_of_obstacle {fault : Fault} (fails : a.obstacle? = some fault) :
    a.perform = (a.state, .error fault) := by
  rw [perform_eq, fails]

/-- An access that passes its checks when there is an answer already changes nothing, and is given
    this answer. -/
theorem perform_of_cached {answer : Except Fault Grant} (passes : a.obstacle? = none)
    (cached : a.invocation.cached? a.state a.capability = some answer) :
    a.perform = (a.state, answer) := by
  rw [perform_eq, passes, cached]

/-- An access that passes its checks when there is no answer yet asks the provider. -/
theorem perform_of_missing (passes : a.obstacle? = none)
    (missing : a.invocation.cached? a.state a.capability = none) :
    a.perform = (a.asking, a.provided) := by
  rw [perform_eq, passes, missing]

@[simp] theorem queries_asking (a : Access α β) :
    a.asking.run.queries = a.state.run.queries ++ [a.query] := rfl

/-- What the provider has answered serves the invocation. -/
theorem cached?_asking (a : Access α β) :
    a.invocation.cached? a.asking a.capability = some a.provided := by
  obtain ⟨i, capability, s⟩ := a
  cases capability <;> rfl

/-- The answers about other capabilities stay. -/
theorem cached?_asking_of_ne {c : Capability} (other : c ≠ a.capability) :
    a.invocation.cached? a.asking c = a.invocation.cached? a.state c := by
  obtain ⟨i, capability, s⟩ := a
  cases capability <;> cases c <;> first | rfl | exact absurd rfl other

end Access

/-! ### Accesses of a visit -/

/-- The capability that a request asks for. -/
def ElementRequest.capability? : ElementRequest β → Option Capability
  | keyedState => some .keyedState
  | window => some .window
  | internals => some .windowingInternals
  | _ => none

/-- Whether the access is one to a capability, and passes its checks. -/
def Access.passesFor (c : Capability) (a : Access α β) : Bool :=
  decide (a.capability = c) && a.obstacle?.isNone

theorem Access.passesFor_iff {c : Capability} {a : Access α β} :
    a.passesFor c = true ↔ a.capability = c ∧ a.obstacle? = none := by
  simp [passesFor]

namespace Moment

/-- The access that a request is, if it is one. -/
def accesses : Moment α β → List (Access α β)
  | bundle .. => []
  | element i request s => (request.capability?.map fun c => ⟨i, c, s⟩).toList

/-- The queries that reach the provider while the request is answered. -/
def asked (m : Moment α β) : List Query := m.after.queries.drop m.before.queries.length

end Moment

namespace Visit

/-- The accesses of a visit, in order. -/
def accesses (v : Visit α β σ) : List (Access α β) := v.moments.flatMap Moment.accesses

/-- The queries that reach the provider during a visit. -/
def asked (v : Visit α β σ) : List Query := v.moments.flatMap Moment.asked

/-- The queries about a capability that reach the provider during a visit. -/
def askedFor (v : Visit α β σ) (c : Capability) : List Query :=
  v.asked.filter fun query => query.capability = c

/-- The first access to a capability that passes its checks. -/
def firstAccess? (v : Visit α β σ) (c : Capability) : Option (Access α β) :=
  v.accesses.find? (Access.passesFor c)

end Visit

/-- What is added to the queries is what was asked. -/
theorem Moment.asked_eq {m : Moment α β} {queries : List Query}
    (added : m.after.queries = m.before.queries ++ queries) : m.asked = queries := by
  rw [asked, added, List.drop_left]

/-- The request does not ask the provider.  If it is an access that passes, its answer was there. -/
structure Moment.Quiet (i : Invocation α) (request : ElementRequest β) (s : ElementState β) :
    Prop where
  queries : (request.perform i s).1.run.queries = s.run.queries ++ []
  cached : ∀ c, i.cached? (request.perform i s).1 c = i.cached? s c
  served : ∀ a ∈ (element i request s).accesses, a.obstacle? = none →
    i.cached? s a.capability = some a.answer

/-- The request is an access that asks the provider.  There is no answer before, and afterwards the
    provider's. -/
structure Moment.Asks (i : Invocation α) (request : ElementRequest β) (s : ElementState β)
    (a : Access α β) : Prop where
  accesses : (element i request s).accesses = [a]
  passes : a.obstacle? = none
  queries : (request.perform i s).1.run.queries = s.run.queries ++ [a.query]
  answer : a.answer = a.provided
  missing : i.cached? s a.capability = none
  cached : i.cached? (request.perform i s).1 a.capability = some a.provided
  others : ∀ c, c ≠ a.capability → i.cached? (request.perform i s).1 c = i.cached? s c

theorem Moment.Quiet.asked {i : Invocation α} {request : ElementRequest β} {s : ElementState β}
    (h : Quiet i request s) : (element i request s).asked = [] := asked_eq h.queries

theorem Moment.Asks.asked {i : Invocation α} {request : ElementRequest β} {s : ElementState β}
    {a : Access α β} (h : Asks i request s a) : (element i request s).asked = [a.query] :=
  asked_eq h.queries

/-- At the start and the finish of a bundle no request is one to the provider. -/
theorem OutputRequest.part_ne_queries (request : OutputRequest β) : request.part ≠ .queries :=
  Part.ne_of_mem request.part_mem (by decide)

/-- What an access leaves behind is what its request leaves behind. -/
theorem Access.perform_fst {i : Invocation α} {request : ElementRequest β} {c : Capability}
    (asks : request.capability? = some c) (s : ElementState β) :
    (Access.mk i c s).perform.1 = (request.perform i s).1 := by
  cases request with
  | keyedState => obtain rfl : .keyedState = c := Option.some.inj asks; rfl
  | window => obtain rfl : .window = c := Option.some.inj asks; rfl
  | internals => obtain rfl : .windowingInternals = c := Option.some.inj asks; rfl
  | _ => exact absurd asks (by simp [ElementRequest.capability?])

/-- A request that is no access leaves the queries and the answers alone. -/
theorem Moment.quiet_of_none (i : Invocation α) {request : ElementRequest β}
    (other : request.capability? = none) (s : ElementState β) : Quiet i request s := by
  have queries : (request.perform i s).1.run.queries = s.run.queries := by
    -- accesses alone have the queries for their part
    have part : request.part ≠ .queries := by
      cases request with
      | output request => exact request.part_ne_queries
      | keyedState => exact absurd other (by simp [ElementRequest.capability?])
      | window => exact absurd other (by simp [ElementRequest.capability?])
      | internals => exact absurd other (by simp [ElementRequest.capability?])
      | _ => simp [ElementRequest.part]
    exact Event.queries_after (e := (.request (.element i request s) : Event α β Unit)) part
  have answers : (request.perform i s).1.answers = s.answers := by
    cases request with
    | sideInput view type =>
      simp only [ElementRequest.perform, Invocation.sideInput]
      split <;> rfl
    | keyedState => exact absurd other (by simp [ElementRequest.capability?])
    | window => exact absurd other (by simp [ElementRequest.capability?])
    | internals => exact absurd other (by simp [ElementRequest.capability?])
    | _ => rfl
  refine ⟨queries.trans (List.append_nil _).symm, fun c => ?_, ?_⟩
  · cases c <;> simp only [Invocation.cached?, answers]
  · simp [accesses, other]

/-- **One request.** A request of an invocation is an access that asks the provider, or the provider
    does not hear of it. -/
theorem Moment.quiet_or_asks (i : Invocation α) (request : ElementRequest β)
    (s : ElementState β) : Quiet i request s ∨ ∃ a, Asks i request s a := by
  cases asks : request.capability? with
  | none => exact Or.inl (quiet_of_none i asks s)
  | some c =>
    have accesses : (element i request s).accesses = [⟨i, c, s⟩] := by
      simp [Moment.accesses, asks]
    have left := Access.perform_fst (i := i) asks s
    generalize access : Access.mk i c s = a at accesses left
    obtain rfl : a.invocation = i := access ▸ rfl
    obtain rfl : a.capability = c := access ▸ rfl
    obtain rfl : a.state = s := access ▸ rfl
    -- what is served without the provider leaves the state as it is
    have quiet : ∀ {answer}, a.perform = (a.state, answer) →
        (a.obstacle? = none → a.invocation.cached? a.state a.capability = some answer) →
        Quiet a.invocation request a.state := by
      intro answer performs served
      rw [performs] at left
      refine ⟨by rw [← left, List.append_nil], fun c => by rw [← left], fun b hb passes => ?_⟩
      rw [accesses, List.mem_singleton] at hb
      subst hb
      rw [Access.answer, performs]
      exact served passes
    -- the three ways in which an access can go
    cases fails : a.obstacle? with
    | some fault =>
      exact Or.inl (quiet (Access.perform_of_obstacle fails) fun passes =>
        absurd (fails.symm.trans passes) (by simp))
    | none =>
      cases found : a.invocation.cached? a.state a.capability with
      | some answer =>
        exact Or.inl (quiet (Access.perform_of_cached fails found) fun _ => found)
      | none =>
        have performs := Access.perform_of_missing fails found
        rw [performs] at left
        refine Or.inr ⟨a, accesses, fails, ?_, ?_, found, ?_, ?_⟩
        · rw [← left, a.queries_asking]
        · rw [Access.answer, performs]
        · rw [← left, a.cached?_asking]
        · intro other differs
          rw [← left, Access.cached?_asking_of_ne differs]

/-! ### All accesses of an invocation -/

namespace Invocation

/-- The requests that a program makes in an invocation, from a state on. -/
def moments (i : Invocation α) (program : Program (@ElementRequest.Answer β) σ)
    (s : ElementState β) : List (Moment α β) :=
  (program.requests (ElementRequest.perform i) s).map fun asked => .element i asked.1 asked.2

theorem moments_ask (i : Invocation α) (request : ElementRequest β)
    (next : request.Answer → Program (@ElementRequest.Answer β) σ) (s : ElementState β) :
    i.moments (.ask request next) s =
      .element i request s :: i.moments (next (request.perform i s).2) (request.perform i s).1 :=
  rfl

/-- **When there is an answer already.** The provider does not hear of the capability any more, and
    all accesses that pass are given this answer. -/
theorem asked_of_cached {i : Invocation α} (program : Program (@ElementRequest.Answer β) σ)
    {s : ElementState β} {c : Capability} {answer : Except Fault Grant}
    (cached : i.cached? s c = some answer) :
    ((i.moments program s).flatMap Moment.asked).filter (fun q => q.capability = c) = [] ∧
      ∀ a ∈ (i.moments program s).flatMap Moment.accesses, a.passesFor c = true →
        a.answer = answer := by
  -- by the requests of the program: the answer is kept by each of them
  induction program generalizing s with
  | stop state outcome => exact ⟨rfl, by simp [moments]⟩
  | ask request next ih =>
    rw [moments_ask, List.flatMap_cons, List.flatMap_cons, List.filter_append]
    rcases Moment.quiet_or_asks i request s with quiet | ⟨first, asks⟩
    · obtain ⟨none, later⟩ := ih _ ((quiet.cached c).trans cached)
      refine ⟨by rw [quiet.asked, none]; rfl, fun a ha passes => ?_⟩
      rcases List.mem_append.mp ha with now | ha
      · obtain ⟨rfl, passed⟩ := Access.passesFor_iff.mp passes
        exact Option.some.inj ((quiet.served a now passed).symm.trans cached)
      · exact later a ha passes
    · -- the access that asks is one to another capability
      have differs : c ≠ first.capability := by
        rintro rfl
        exact absurd (asks.missing.symm.trans cached) (by simp)
      obtain ⟨none, later⟩ := ih _ ((asks.others c differs).trans cached)
      refine ⟨?_, fun a ha passes => ?_⟩
      · rw [asks.asked, none]
        simp [Access.query, differs.symm]
      · rcases List.mem_append.mp ha with now | ha
        · rw [asks.accesses, List.mem_singleton] at now
          subst now
          exact absurd (Access.passesFor_iff.mp passes).1.symm differs
        · exact later a ha passes

/-- **When there is no answer yet.** The provider hears of the capability by the first access that
    passes, and all accesses that pass are given what it answers then. -/
theorem asked_of_missing {i : Invocation α} (program : Program (@ElementRequest.Answer β) σ)
    {s : ElementState β} {c : Capability} (missing : i.cached? s c = none) :
    ((i.moments program s).flatMap Moment.asked).filter (fun q => q.capability = c) =
        ((((i.moments program s).flatMap Moment.accesses).find? (Access.passesFor c)).map
          Access.query).toList ∧
      ∀ a ∈ (i.moments program s).flatMap Moment.accesses, a.passesFor c = true →
        ∃ first, ((i.moments program s).flatMap Moment.accesses).find? (Access.passesFor c) =
          some first ∧ a.answer = first.provided := by
  -- by the requests of the program, up to the first access that passes
  induction program generalizing s with
  | stop state outcome => exact ⟨rfl, by simp [moments]⟩
  | ask request next ih =>
    rw [moments_ask, List.flatMap_cons, List.flatMap_cons, List.filter_append, List.find?_append]
    rcases Moment.quiet_or_asks i request s with quiet | ⟨first, asks⟩
    · -- no access that passes is served when there is no answer
      have fails : ∀ a ∈ (Moment.element i request s).accesses, ¬ a.passesFor c = true := by
        intro a now passes
        obtain ⟨rfl, passed⟩ := Access.passesFor_iff.mp passes
        exact absurd ((quiet.served a now passed).symm.trans missing) (by simp)
      rw [quiet.asked, List.find?_eq_none.mpr fails]
      obtain ⟨asked, answered⟩ := ih _ ((quiet.cached c).trans missing)
      refine ⟨asked, fun a ha passes => ?_⟩
      rcases List.mem_append.mp ha with now | ha
      · exact absurd passes (fails a now)
      · exact answered a ha passes
    · rw [asks.accesses, asks.asked]
      by_cases same : first.capability = c
      · subst same
        -- from now on there is an answer, and the provider hears no more of the capability
        obtain ⟨none, later⟩ := asked_of_cached (next (request.perform i s).2) asks.cached
        have found : [first].find? (Access.passesFor first.capability) = some first :=
          List.find?_cons_of_pos (Access.passesFor_iff.mpr ⟨rfl, asks.passes⟩)
        rw [found, none]
        refine ⟨by simp [Access.query], fun a ha passes => ⟨first, rfl, ?_⟩⟩
        rcases List.mem_append.mp ha with now | ha
        · rw [List.mem_singleton] at now
          subst now
          exact asks.answer
        · exact later a ha passes
      · -- the access that asks is one to another capability, for which there is still no answer
        have skipped : [first].find? (Access.passesFor c) = none :=
          List.find?_cons_of_neg fun passes => same (Access.passesFor_iff.mp passes).1
        obtain ⟨asked, answered⟩ := ih _ ((asks.others c (Ne.symm same)).trans missing)
        rw [skipped]
        refine ⟨?_, fun a ha passes => ?_⟩
        · rw [asked]
          simp [Access.query, same]
        · rcases List.mem_append.mp ha with now | ha
          · rw [List.mem_singleton] at now
            subst now
            exact absurd (Access.passesFor_iff.mp passes).1 same
          · exact answered a ha passes

end Invocation

/-! ### Visits and runs -/

namespace Moment

/-- At the start and the finish of a bundle nothing is asked. -/
theorem queries_bundle (windowFn : WindowFn α) (request : OutputRequest β) (s : RunState β) :
    (bundle windowFn request s).after.queries = s.queries ++ [] := by
  have same := Event.queries_after (e := (.request (.bundle windowFn request s) : Event α β Unit))
    request.part_ne_queries
  exact same.trans (List.append_nil _).symm

/-- What a request asks is added to the queries. -/
theorem queries_after (m : Moment α β) : m.after.queries = m.before.queries ++ m.asked := by
  cases m with
  | bundle windowFn request s =>
    have same := queries_bundle windowFn request s
    rw [asked_eq same]
    exact same
  | element i request s =>
    rcases quiet_or_asks i request s with quiet | ⟨a, asks⟩
    · rw [quiet.asked]
      exact quiet.queries
    · rw [asks.asked]
      exact asks.queries

/-- An access that fails a check is answered with the fault of the check, and does not ask. -/
theorem asked_of_obstacle {m : Moment α β} {a : Access α β} {fault : Fault}
    (access : a ∈ m.accesses) (fails : a.obstacle? = some fault) :
    a.answer = .error fault ∧ m.asked = [] := by
  refine ⟨by rw [Access.answer, Access.perform_of_obstacle fails], ?_⟩
  cases m with
  | bundle windowFn request s => exact asked_eq (queries_bundle windowFn request s)
  | element i request s =>
    rcases quiet_or_asks i request s with quiet | ⟨first, asks⟩
    · exact quiet.asked
    · rw [asks.accesses, List.mem_singleton] at access
      subst access
      exact absurd (fails.symm.trans asks.passes) (by simp)

/-- A request that asks is an access that passes its checks. -/
theorem access_of_asked {m : Moment α β} (asks : m.asked ≠ []) :
    ∃ a, m.accesses = [a] ∧ a.obstacle? = none ∧ m.asked = [a.query] := by
  cases m with
  | bundle windowFn request s =>
    exact absurd (asked_eq (queries_bundle windowFn request s)) asks
  | element i request s =>
    rcases quiet_or_asks i request s with quiet | ⟨a, asked⟩
    · exact absurd quiet.asked asks
    · exact ⟨a, asked.accesses, asked.passes, asked.asked⟩

/-- An access belongs to the invocation of its request, and finds the same state. -/
theorem of_mem_accesses {m : Moment α β} {a : Access α β} (access : a ∈ m.accesses) :
    ∃ request, m = .element a.invocation request a.state := by
  cases m with
  | bundle windowFn request s => exact absurd access (by simp [accesses])
  | element i request s =>
    obtain ⟨c, -, rfl⟩ : ∃ c, request.capability? = some c ∧ ⟨i, c, s⟩ = a := by
      simpa [accesses, Option.mem_toList] using access
    exact ⟨request, rfl⟩

end Moment

/-- In a visit, the provider is asked once for each capability that can be had. -/
structure Visit.AsksOnce (v : Visit α β σ) : Prop where
  /-- Capabilities are accessed by invocations only, each for its own record. -/
  invocation : ∀ a ∈ v.accesses, ∃ visible, v.entrance = .process visible ∧
    a.invocation = v.runner.invocation visible
  /-- An access that fails a check is answered with the fault of the first check that fails, and
      does not ask. -/
  refused : ∀ m ∈ v.moments, ∀ a ∈ m.accesses, ∀ fault, a.obstacle? = some fault →
    a.answer = .error fault ∧ m.asked = []
  /-- A request that asks is an access that passes. -/
  passing : ∀ m ∈ v.moments, m.asked ≠ [] →
    ∃ a, m.accesses = [a] ∧ a.obstacle? = none ∧ m.asked = [a.query]
  /-- For each capability, the first access that passes asks, and no other access does. -/
  first : ∀ c, v.askedFor c = ((v.firstAccess? c).map Access.query).toList
  /-- All accesses that pass are given what the provider answered to the first of them. -/
  served : ∀ a ∈ v.accesses, a.obstacle? = none →
    ∃ first, v.firstAccess? a.capability = some first ∧ a.answer = first.provided

namespace Visit

/-- The start and the finish of a bundle access nothing, and do not ask. -/
theorem quiet_of_bundle {v : Visit α β σ} (phase : v.entrance = .start ∨ v.entrance = .finish) :
    v.accesses = [] ∧ v.asked = [] := by
  -- all requests of a bundle phase are in the scope of the bundle
  have bundle : ∀ m ∈ v.moments, ∃ windowFn request s, m = .bundle windowFn request s := by
    intro m hm
    rw [moments] at hm
    rcases phase with entered | entered
    · rw [entered] at hm
      obtain ⟨asked, -, rfl⟩ := List.mem_map.mp hm
      exact ⟨_, _, _, rfl⟩
    · rw [entered] at hm
      obtain ⟨asked, -, rfl⟩ := List.mem_map.mp hm
      exact ⟨_, _, _, rfl⟩
  constructor
  · refine List.flatMap_eq_nil_iff.mpr fun m hm => ?_
    obtain ⟨windowFn, request, s, rfl⟩ := bundle m hm
    rfl
  · refine List.flatMap_eq_nil_iff.mpr fun m hm => ?_
    obtain ⟨windowFn, request, s, rfl⟩ := bundle m hm
    exact Moment.asked_eq (Moment.queries_bundle windowFn request s)

theorem asksOnce_of_bundle {v : Visit α β σ} (phase : v.entrance = .start ∨ v.entrance = .finish) :
    v.AsksOnce := by
  obtain ⟨accesses, asked⟩ := quiet_of_bundle phase
  refine ⟨by simp [accesses], fun m _ a ha fault => Moment.asked_of_obstacle ha,
    fun m _ => Moment.access_of_asked, fun c => ?_, by simp [accesses]⟩
  rw [askedFor, asked, firstAccess?, accesses]
  rfl

theorem asksOnce_of_process (visible : Record α) (r : Runner α β σ) :
    (Visit.mk (.process visible) r).AsksOnce := by
  -- there are no answers when the invocation begins
  have missing : ∀ c, (r.invocation visible).cached?
      (⟨Runner.lease r.run, .none⟩ : ElementState β) c = none := by
    intro c
    cases c <;> rfl
  have all := fun c => Invocation.asked_of_missing
    (r.callback.process (r.invocation visible).view r.state) (missing c)
  refine ⟨fun a ha => ⟨visible, rfl, ?_⟩, fun m _ a ha fault => Moment.asked_of_obstacle ha,
    fun m _ => Moment.access_of_asked, fun c => (all c).1, fun a ha passes => ?_⟩
  · obtain ⟨m, hm, ha⟩ := List.mem_flatMap.mp ha
    obtain ⟨asked, -, rfl⟩ := List.mem_map.mp hm
    obtain ⟨request, same⟩ := Moment.of_mem_accesses ha
    exact (Moment.element.inj same).1.symm
  · exact (all a.capability).2 a ha (Access.passesFor_iff.mpr ⟨rfl, passes⟩)

/-- **One visit.** In every visit the provider is asked once for each capability that can be had. -/
theorem asksOnce (v : Visit α β σ) : v.AsksOnce := by
  obtain ⟨entrance, r⟩ := v
  cases entrance with
  | start => exact asksOnce_of_bundle (Or.inl rfl)
  | process visible => exact asksOnce_of_process visible r
  | finish => exact asksOnce_of_bundle (Or.inr rfl)

end Visit

/-- **Capabilities are asked for once.**  In every visit of every run, whatever the callback
    accesses and in whatever order: an access that fails a check is answered with the fault of the
    first check that fails, and the provider does not hear of it; the first access to a capability
    that passes its checks asks the provider; and all accesses to it that pass are given the
    provider's answer to this query, a failure as well.  The next visit begins without answers, so
    that its first access that passes asks again.  At the start and the finish of a bundle nothing
    is asked, and nothing but the visits of the run asks the provider at all. -/
theorem capabilities_asked_once (s : Session α β σ) (calls : List (Call α)) :
    (∀ st ∈ s.stages calls, ∀ v ∈ st.visits, v.AsksOnce ∧
      (v.entrance = .start ∨ v.entrance = .finish → v.accesses = [] ∧ v.asked = [])) ∧
    (s.performAll calls).1.runner.run.queries =
      s.runner.run.queries ++ (s.stages calls).flatMap fun st => st.visits.flatMap Visit.asked := by
  constructor
  · intro st _ v _
    exact ⟨v.asksOnce, Visit.quiet_of_bundle⟩
  · have all := s.view_performAll RunState.queries Moment.asked (fun _ => rfl)
      (fun e silent => e.queries_after (Event.part_ne_of_silent silent rfl))
      Moment.queries_after calls
    rw [all]
    congr 2
    funext st
    exact List.flatMap_assoc

/-! ### A provider that fails once

The callback raises the signal, asks for keyed state in vain, clears the signal and asks twice more,
in each of two windows.  The provider fails the first time that it is asked, and has keyed state
from then on.
-/

namespace AsksAgain

/-- Asks for keyed state while the signal is raised, and twice after it was cleared. -/
def callback : Callback Nat Nat Unit where
  descriptor :=
    { Descriptor.plain with process := .ofList [.keyedState], granularity := .perWindow }
  skew := none
  setup state := .stop state (.done ())
  start _ state := .stop state (.done ())
  process _ state :=
    .ask (.output (.shared (.raise "stop"))) fun _ =>
      .ask .keyedState fun _ =>
        .ask (.output (.shared .clear)) fun _ =>
          .ask .keyedState fun _ => .ask .keyedState fun _ => .stop state (.done ())
  finish _ state := .stop state (.done ())

/-- Fails the first query for keyed state with a message. -/
def provider : Provider :=
  { Provider.minimal with
    keyedState := fun past _ =>
      Outage.guard (some ⟨"down", some 1⟩) .keyedState past (.ok .cells) }

/-- A keyed transform with this provider. -/
def binding : Binding Nat Nat :=
  ⟨{ Declarations.ofMain .collecting with keyed := true, provider := provider },
    List.nodup_nil, List.nodup_nil⟩

/-- A session of the callback with this provider. -/
def session : Session Nat Nat Unit :=
  .ofRunner ⟨callback, Runner.planOf callback binding .default, (),
    Runner.freshRun binding .default, 0⟩

/-- A record in the whole of time and in the first sixty milliseconds after the epoch. -/
def record : Record Nat where
  value := 7
  timestamp := .epoch
  windows := ⟨[.global, .interval ⟨.epoch, .clamp 60, by decide⟩], by simp, by simp⟩

/-- One bundle with the record in it. -/
def calls : List (Call Nat) := [.openBundle, .start, .process record, .finish]

end AsksAgain

/-- In the first window the failure is given twice; in the second the provider is asked again, and
    its keyed state is given twice. -/
theorem capabilities_asked_once_asksAgain :
    (AsksAgain.session.performAll AsksAgain.calls).1.runner.run.queries.length = 2 ∧
      (AsksAgain.session.stages AsksAgain.calls).flatMap (fun st =>
        st.visits.flatMap fun v => v.accesses.map Access.answer) =
          [.error (.interrupted "stop"), .error (.collaborator "provider" "down"),
            .error (.collaborator "provider" "down"), .error (.interrupted "stop"),
            .ok (.state ⟨.cells, 1⟩), .ok (.state ⟨.cells, 1⟩)] ∧
      ∃ st ∈ AsksAgain.session.stages AsksAgain.calls, ∃ v ∈ st.visits,
        v.entrance = .process (AsksAgain.record.narrow .global) ∧
        v.askedFor .keyedState = [⟨.keyedState, (v.runner.invocation
          (AsksAgain.record.narrow .global)).scope⟩] := by
  obtain ⟨all, -⟩ := capabilities_asked_once AsksAgain.session AsksAgain.calls
  -- the third call processes the record, first in the whole of time
  let st : Stage Nat Nat Unit :=
    ⟨(AsksAgain.session.performAll [.openBundle, .start]).1, .process AsksAgain.record⟩
  have stage : st ∈ AsksAgain.session.stages AsksAgain.calls :=
    List.mem_cons_of_mem _ (List.mem_cons_of_mem _ (List.mem_cons_self ..))
  obtain ⟨once, -⟩ := all st stage _ (List.mem_cons_self ..)
  refine ⟨rfl, rfl, st, stage, _, List.mem_cons_self .., rfl, ?_⟩
  rw [once.first]
  rfl

end BundleRunner
