import BundleRunner.Proofs.Capabilities

namespace BundleRunner

/-!
# Leases

A handle is good for the invocation that it was obtained in.  A callback can keep it, and use it
whenever it runs, or hand it to others.  A handle knows nothing of invocations: it bears a lease,
which is a number, and its use is refused unless this number is the one that is live.

The invariant that ties the two is in two parts.  Between the acts of a run no lease is live,
however the act before has ended, and the number of leases made out never falls.  So a lease is
live in the one visit that it was made out for, and no two visits share a lease.  Both parts say
nothing of the signal, which is looked at only when the lease is found to be live.  This file
proves what comes of that:

* `HandleUse` — the use of a handle, with its result;
* `Act.le_of_live` — a lease that is live during an act was not made out before the act;
* `Visit.of_obtained` — a handle is obtained in an invocation, and bears its lease;
* `Visit.writes` — what an invocation writes through its own handles;
* `handles_stale_after_invocation` — a handle is stale after its invocation and not before, and
  what is written through live handles is all that keyed state holds.
-/

variable {α β σ : Type}

/-! ### The use of handles -/

/-- The use of a handle, and its result. -/
inductive HandleUse where
  | state (handle : StateHandle) (call : StateCall) (result : Except Fault (Option (List UInt8)))
  | internals (handle : InternalsHandle) (result : Except Fault Internals)

namespace HandleUse

/-- The handle that is used, as it was obtained. -/
def grant : HandleUse → Grant
  | state handle _ _ => .state handle
  | internals handle _ => .internals handle

/-- The lease of the handle. -/
def lease : HandleUse → Nat
  | state handle _ _ => handle.lease
  | internals handle _ => handle.lease

/-- The name under which the handle is obtained. -/
def accessor : HandleUse → String
  | state .. => "keyed_state"
  | internals .. => "windowing_internals"

/-- How the use fails, if it does. -/
def fault? : HandleUse → Option Fault
  | state _ _ (.error fault) => some fault
  | internals _ (.error fault) => some fault
  | _ => none

end HandleUse

/-- The use of a handle that a request is, if it is one. -/
def OutputRequest.use? (request : OutputRequest β) (s : RunState β) : Option HandleUse :=
  match request with
  | useState handle call => some (.state handle call (s.useState handle call).2)
  | useInternals handle => some (.internals handle (s.useInternals handle))
  | _ => none

/-- The use of a handle that a request is, if it is one. -/
def Moment.use? (m : Moment α β) : Option HandleUse :=
  m.output?.bind fun asked => asked.2.use? m.before

/-- The use of a handle that a call is, if it is one. -/
def Stage.use? (st : Stage α β σ) : Option HandleUse :=
  match st.call, st.reply with
  | .useState handle call, .state result => some (.state handle call result)
  | .useInternals handle, .internals result => some (.internals handle result)
  | _, _ => none

/-- The use of a handle that an event is, if it is one. -/
def Event.use? : Event α β σ → Option HandleUse
  | .request m => m.use?
  | .outside st _ => st.use?
  | _ => none

/-- What a call on keyed state makes of the cells. -/
def StateCall.apply (c : Cells) : StateCall → Cells
  | .lookup _ => c
  | .store name bytes => c.store name bytes
  | .remove name => c.remove name

/-- Whether a call on keyed state can change the cells. -/
def StateCall.isWrite : StateCall → Bool
  | .lookup _ => false
  | .store .. => true
  | .remove _ => true

namespace RunState

variable {s : RunState β} {handle : StateHandle}

/-- The use of a handle whose lease is not live fails before anything else is looked at. -/
theorem useState_of_stale (stale : s.live ≠ some handle.lease) (call : StateCall) :
    s.useState handle call = (s, .error (.staleContext "keyed_state")) := by
  unfold useState ensureLive
  rw [if_neg stale]
  rfl

theorem useState_of_live (live : s.live = some handle.lease) (call : StateCall) :
    s.useState handle call =
      match s.interrupt.check with
      | .error fault => (s, .error fault)
      | .ok () =>
        ({ s with cells := (handle.access.perform call s.cells).1 },
          (handle.access.perform call s.cells).2) := by
  have checked : s.ensureLive handle.lease Capability.keyedState.text = .ok () := if_pos live
  unfold useState
  split
  next fault failed => exact absurd (checked.symm.trans failed) (by simp)
  next => rfl

/-- A live handle on cells reads and writes them, unless the run is interrupted. -/
theorem cells_useState_of_live (live : s.live = some handle.lease) (access : handle.access = .cells)
    (call : StateCall) :
    (s.useState handle call).1.cells =
      if s.interrupt.raised = false then call.apply s.cells else s.cells := by
  rw [useState_of_live live, access]
  cases raised : s.interrupt.raised with
  | false =>
    rw [Interrupt.check_eq_ok_iff.mpr raised, if_pos rfl]
    cases call <;> rfl
  | true =>
    simp [Interrupt.check, raised]

/-- So does the use of a handle on internals. -/
theorem useInternals_of_stale {handle : InternalsHandle} (stale : s.live ≠ some handle.lease) :
    s.useInternals handle = .error (.staleContext "windowing_internals") := by
  unfold useInternals ensureLive
  rw [if_neg stale]
  rfl

theorem useInternals_of_live {handle : InternalsHandle} (live : s.live = some handle.lease) :
    s.useInternals handle = .ok handle.internals := by
  unfold useInternals ensureLive
  rw [if_pos live]
  rfl

end RunState

/-- What the use of a handle comes to in the state that it finds. -/
theorem OutputRequest.use_cases {request : OutputRequest β} {s : RunState β} {u : HandleUse}
    (used : request.use? s = some u) (scope : Scope α) :
    (∃ handle call, u = .state handle call (s.useState handle call).2 ∧
      (request.perform scope s).1.cells = (s.useState handle call).1.cells) ∨
    (∃ handle, u = .internals handle (s.useInternals handle) ∧
      (request.perform scope s).1.cells = s.cells) := by
  cases request with
  | useState handle call =>
    obtain rfl := Option.some.inj used
    exact Or.inl ⟨handle, call, rfl, rfl⟩
  | useInternals handle =>
    obtain rfl := Option.some.inj used
    exact Or.inr ⟨handle, rfl, rfl⟩
  | _ => exact absurd used (by simp [use?])

namespace Event

/-- What the use of a handle comes to in the state that it finds. -/
theorem use_cases {e : Event α β σ} {u : HandleUse} (used : e.use? = some u) :
    (∃ handle call, u = .state handle call (e.before.useState handle call).2 ∧
      e.after.cells = (e.before.useState handle call).1.cells) ∨
    (∃ handle, u = .internals handle (e.before.useInternals handle) ∧
      e.after.cells = e.before.cells) := by
  cases e with
  | enter v => exact absurd used (by simp [use?])
  | leave v => exact absurd used (by simp [use?])
  | request m =>
    obtain ⟨asked, output, used⟩ := Option.bind_eq_some_iff.mp used
    have after := (Moment.after_of_output output).1
    rw [Event.after, after]
    exact OutputRequest.use_cases used asked.1
  | outside st idle =>
    obtain ⟨s, call⟩ := st
    cases call with
    | useState handle call =>
      obtain rfl := Option.some.inj used
      exact Or.inl ⟨handle, call, rfl, rfl⟩
    | useInternals handle =>
      obtain rfl := Option.some.inj used
      exact Or.inr ⟨handle, rfl, rfl⟩
    | start => exact absurd idle (by simp [Call.operation?])
    | process record => exact absurd idle (by simp [Call.operation?])
    | finish => exact absurd idle (by simp [Call.operation?])
    | _ => exact absurd used (by simp [use?, Stage.use?])

/-- The use of a handle whose lease is not live is stale, whatever the signal says, and leaves the
    cells alone. -/
theorem stale_of_use {e : Event α β σ} {u : HandleUse} (used : e.use? = some u)
    (stale : e.before.live ≠ some u.lease) :
    u.fault? = some (.staleContext u.accessor) ∧ e.after.cells = e.before.cells := by
  -- both kinds of handles look at the lease before anything else
  rcases e.use_cases used with ⟨handle, call, rfl, cells⟩ | ⟨handle, rfl, cells⟩
  · have refused := RunState.useState_of_stale stale call
    rw [refused] at cells ⊢
    exact ⟨rfl, cells⟩
  · have refused := RunState.useInternals_of_stale stale
    rw [refused]
    exact ⟨rfl, cells⟩

/-- The use of a handle whose lease is live is not stale, as long as the access behind the handle is
    not one that refuses. -/
theorem not_stale_of_use {e : Event α β σ} {u : HandleUse} (used : e.use? = some u)
    (live : e.before.live = some u.lease)
    (access : ∀ handle, u.grant = .state handle → handle.access = .cells) (accessor : String) :
    u.fault? ≠ some (.staleContext accessor) := by
  rcases e.use_cases used with ⟨handle, call, rfl, -⟩ | ⟨handle, rfl, -⟩
  · rw [RunState.useState_of_live live, access handle rfl]
    -- what is left is to succeed, or to fail with the reason of the signal
    cases raised : e.before.interrupt.raised with
    | false =>
      rw [Interrupt.check_eq_ok_iff.mpr raised]
      cases call <;> simp [HandleUse.fault?, StateAccess.perform]
    | true => simp [Interrupt.check, raised, HandleUse.fault?]
  · have served := RunState.useInternals_of_live live
    rw [served]
    simp [HandleUse.fault?]

end Event

/-- What is no use of keyed state leaves the cells alone. -/
theorem Event.cells_of_unused {e : Event α β σ}
    (unused : ∀ handle call result, e.use? ≠ some (.state handle call result)) :
    e.after.cells = e.before.cells := by
  -- an event whose part is the cells is the use of a handle on keyed state
  refine e.cells_after fun part => ?_
  cases e with
  | enter v => exact absurd part (Part.ne_of_mem v.entrance.part_mem (by decide))
  | leave v => exact absurd part (Part.ne_of_mem v.entrance.part_mem (by decide))
  | request m =>
    cases output : m.output? with
    | none => exact absurd part (Part.ne_of_mem (Moment.part_mem_of_inner output) (by decide))
    | some asked =>
      obtain ⟨scope, request⟩ := asked
      have same : request.part = .cells := (Moment.after_of_output output).2.symm.trans part
      cases request with
      | useState handle call =>
        exact unused handle call _ (Option.bind_eq_some_iff.mpr ⟨_, output, rfl⟩)
      | shared request => exact absurd same (Part.ne_of_mem request.part_mem (by decide))
      | _ => exact absurd same (by simp [OutputRequest.part])
  | outside st idle =>
    obtain ⟨s, call⟩ := st
    cases call with
    | useState handle call => exact unused handle call _ rfl
    | _ => exact absurd part (by simp [Event.part, Call.part])

/-! ### Which lease is live -/

/-- The requests of a visit leave the leases alone. -/
theorem Visit.lease_of_mem_moments (v : Visit α β σ) :
    (∀ m ∈ v.moments, m.before.live = v.opened.live ∧ m.before.leases = v.opened.leases) ∧
      v.stopped.live = v.opened.live ∧ v.stopped.leases = v.opened.leases := by
  have kept := v.leads_requests.invariant
    (fun s => s.live = v.opened.live ∧ s.leases = v.opened.leases)
    (by
      intro e he same
      obtain ⟨m, -, rfl⟩ := List.mem_map.mp he
      have frame := Event.lease_after (e := (.request m : Event α β σ)) m.part_ne_lease
      exact ⟨(congrArg Prod.fst frame).trans same.1, (congrArg Prod.snd frame).trans same.2⟩)
    ⟨rfl, rfl⟩
  exact ⟨fun m hm => (kept.1 (.request m) (List.mem_map_of_mem hm)).1, kept.2⟩

/-- When nothing is live before a visit, then during the visit only the lease of the visit is, which
    is an invocation then. -/
theorem Visit.eq_of_opened {v : Visit α β σ} (idle : v.runner.run.live = none) {lease : Nat}
    (live : v.opened.live = some lease) :
    lease = v.runner.run.leases ∧ ∃ visible, v.entrance = .process visible := by
  obtain ⟨entrance, r⟩ := v
  cases entrance with
  | process visible => exact ⟨(Option.some.inj live).symm, visible, rfl⟩
  | start => exact absurd (idle.symm.trans live) (by simp)
  | finish => exact absurd (idle.symm.trans live) (by simp)

/-- An invocation runs under the lease that it was made for. -/
theorem Visit.live_of_process {v : Visit α β σ} (process : ∃ visible, v.entrance = .process visible)
    {m : Moment α β} (hm : m ∈ v.moments) : m.before.live = some v.runner.run.leases := by
  have opened : v.opened.live = some v.runner.run.leases := by
    obtain ⟨visible, entered⟩ := process
    rw [opened, entered]
    rfl
  exact (v.lease_of_mem_moments.1 m hm).1.trans opened

namespace Act

/-- The lease of a visit ends with it. -/
theorem live_after {a : Act α β σ} (idle : a.before.live = none) : a.after.live = none := by
  cases a with
  | visit v =>
    obtain ⟨-, live, -⟩ := v.lease_of_mem_moments
    obtain ⟨entrance, r⟩ := v
    -- an invocation ends its lease itself, and a bundle phase has none
    cases entrance with
    | process visible => rfl
    | start => exact live.trans idle
    | finish => exact live.trans idle
  | outside st performs =>
    have part : (Event.outside st performs).part ≠ .lease :=
      Part.ne_of_mem st.call.part_mem (by decide)
    exact (congrArg Prod.fst (Event.lease_after part)).trans idle

/-- The number of leases never falls. -/
theorem leases_le (a : Act α β σ) : a.before.leases ≤ a.after.leases := by
  cases a with
  | visit v =>
    obtain ⟨-, -, leases⟩ := v.lease_of_mem_moments
    obtain ⟨entrance, r⟩ := v
    cases entrance with
    | process visible => exact Nat.le_trans (Nat.le_succ _) (Nat.le_of_eq leases.symm)
    | start => exact Nat.le_of_eq leases.symm
    | finish => exact Nat.le_of_eq leases.symm
  | outside st performs =>
    have part : (Event.outside st performs).part ≠ .lease :=
      Part.ne_of_mem st.call.part_mem (by decide)
    exact Nat.le_of_eq (congrArg Prod.snd (Event.lease_after part)).symm

/-- A lease that is live during an act was not made out before the act. -/
theorem le_of_live {a : Act α β σ} (idle : a.before.live = none) {e : Event α β σ}
    (during : e ∈ a.events) {lease : Nat} (live : e.before.live = some lease) :
    a.before.leases ≤ lease := by
  cases a with
  | visit v =>
    obtain ⟨requests, stopped, -⟩ := v.lease_of_mem_moments
    -- nothing is live yet when the visit is entered, and from then on it is the lease of the visit
    rcases List.mem_cons.mp during with rfl | later
    · exact absurd (idle.symm.trans live) (by simp)
    · have opened : v.opened.live = some lease := by
        rcases List.mem_append.mp later with request | leave
        · obtain ⟨m, hm, rfl⟩ := List.mem_map.mp request
          exact (requests m hm).1.symm.trans live
        · obtain rfl := List.mem_singleton.mp leave
          exact stopped.symm.trans live
      exact Nat.le_of_eq (Visit.eq_of_opened idle opened).1.symm
  | outside st performs =>
    obtain rfl := List.mem_singleton.mp during
    exact absurd (idle.symm.trans live) (by simp)

end Act

namespace Session

variable {s : Session α β σ} {calls : List (Call α)}

/-- No lease is live between the acts of a run. -/
theorem live_of_mem_acts (idle : s.runner.run.live = none) :
    ∀ a ∈ s.acts calls, a.before.live = none := by
  have kept := (s.leads_acts calls).invariant (fun s => s.live = none)
    (fun a _ idle => a.live_after idle) idle
  exact fun a ha => (kept.1 a ha).1

/-- The lease of an invocation is made out before those of all later acts. -/
theorem lease_lt_of_later {xs ys : List (Act α β σ)} {v : Visit α β σ}
    (split : s.acts calls = xs ++ .visit v :: ys)
    (process : ∃ visible, v.entrance = .process visible) {a : Act α β σ} (later : a ∈ ys) :
    v.runner.run.leases < a.before.leases := by
  have leads := s.leads_acts calls
  rw [split] at leads
  -- the number after the visit is a lower bound from there on
  have kept := leads.split.2.invariant (fun s => v.closed.leases ≤ s.leases)
    (fun a _ le => Nat.le_trans le a.leases_le) (Nat.le_refl _)
  have closed : v.closed.leases = v.runner.run.leases + 1 := by
    obtain ⟨-, -, leases⟩ := v.lease_of_mem_moments
    obtain ⟨visible, entered⟩ := process
    rw [Visit.closed, entered]
    rw [Visit.opened, entered] at leases
    exact leases
  have le : v.closed.leases ≤ a.before.leases := (kept.1 a later).1
  omega

/-- No two invocations of a run have one lease. -/
theorem eq_of_lease {v w : Visit α β σ} (hv : .visit v ∈ s.acts calls)
    (hw : .visit w ∈ s.acts calls) (hv' : ∃ visible, v.entrance = .process visible)
    (hw' : ∃ visible, w.entrance = .process visible)
    (same : v.runner.run.leases = w.runner.run.leases) : v = w := by
  obtain ⟨xs, ys, split⟩ := List.append_of_mem hv
  rw [split] at hw
  -- whichever comes later has the greater number
  rcases List.mem_append.mp hw with earlier | here
  · obtain ⟨us, zs, rfl⟩ := List.append_of_mem earlier
    rw [List.append_assoc, List.cons_append] at split
    have later : Act.visit v ∈ zs ++ .visit v :: ys :=
      List.mem_append_right _ (List.mem_cons_self ..)
    have lt : w.runner.run.leases < v.runner.run.leases := lease_lt_of_later split hw' later
    omega
  · rcases List.mem_cons.mp here with equal | later
    · exact (Act.visit.inj equal).symm
    · have lt : v.runner.run.leases < w.runner.run.leases := lease_lt_of_later split hv' later
      omega

end Session

/-! ### Handles that are obtained -/

/-- What the callback is given for a request, if the request is an access that succeeds. -/
def Moment.granted (m : Moment α β) : List Grant :=
  m.accesses.flatMap fun a => a.answer.toOption.toList

/-- What a visit obtains. -/
def Visit.obtained (v : Visit α β σ) : List Grant := v.moments.flatMap Moment.granted

/-- What is granted bears the lease of its invocation, and opens what the provider has to offer. -/
structure Visit.Grants (v : Visit α β σ) (g : Grant) : Prop where
  process : ∃ visible, v.entrance = .process visible
  lease : ∀ u : HandleUse, u.grant = g → u.lease = v.runner.run.leases
  access : ∀ handle, g = .state handle →
    ∃ past scope, v.runner.plan.provider.keyedState past scope = .ok handle.access

/-- A provider's answer grants what it says, under the lease of the invocation that asks. -/
theorem Access.of_provided {a : Access α β} {g : Grant} (given : a.provided = .ok g) :
    (∃ access, g = .state ⟨access, a.invocation.lease⟩ ∧
      a.invocation.plan.provider.keyedState a.state.run.queries a.invocation.scope = .ok access) ∨
    (∃ w, g = .window w ∧
      a.invocation.plan.provider.window a.state.run.queries a.invocation.scope = .ok w) ∨
    (∃ internals, g = .internals ⟨internals, a.invocation.lease⟩ ∧
      a.invocation.plan.provider.internals a.state.run.queries a.invocation.scope =
        .ok internals) := by
  obtain ⟨i, capability, s⟩ := a
  cases capability with
  | keyedState =>
    cases answer : i.plan.provider.keyedState s.run.queries i.scope with
    | error fault => simp [provided, answer, Except.map] at given
    | ok access =>
      simp only [provided, answer, Except.map, Except.ok.injEq] at given
      exact Or.inl ⟨access, given.symm, rfl⟩
  | window =>
    cases answer : i.plan.provider.window s.run.queries i.scope with
    | error fault => simp [provided, answer, Except.map] at given
    | ok w =>
      simp only [provided, answer, Except.map, Except.ok.injEq] at given
      exact Or.inr (Or.inl ⟨w, given.symm, rfl⟩)
  | windowingInternals =>
    cases answer : i.plan.provider.internals s.run.queries i.scope with
    | error fault => simp [provided, answer, Except.map] at given
    | ok internals =>
      simp only [provided, answer, Except.map, Except.ok.injEq] at given
      exact Or.inr (Or.inr ⟨internals, given.symm, rfl⟩)

/-- What a visit obtains, the provider has answered to an access of the visit. -/
theorem Visit.provided_of_obtained {v : Visit α β σ} {g : Grant} (obtained : g ∈ v.obtained) :
    ∃ visible a, v.entrance = .process visible ∧
      a.invocation = v.runner.invocation visible ∧
      (a : Access α β).provided = .ok g := by
  obtain ⟨m, hm, granted⟩ := List.mem_flatMap.mp obtained
  obtain ⟨a, ha, given⟩ := List.mem_flatMap.mp granted
  have access : a ∈ v.accesses := List.mem_flatMap.mpr ⟨m, hm, ha⟩
  have answer : a.answer = .ok g := by
    cases answer : a.answer with
    | error fault => simp [answer, Except.toOption] at given
    | ok g' => simpa [answer, Except.toOption, eq_comm] using given
  have once := v.asksOnce
  -- an access that succeeds has passed, and was served by the first one that did
  have passes : a.obstacle? = none := by
    cases fails : a.obstacle? with
    | none => rfl
    | some fault =>
      have refused := (once.refused m hm a ha fault fails).1
      exact absurd (refused.symm.trans answer) (by simp)
  obtain ⟨first, found, served⟩ := once.served a access passes
  obtain ⟨visible, entered, invocation⟩ := once.invocation first (List.mem_of_find?_eq_some found)
  exact ⟨visible, first, entered, invocation, served.symm.trans answer⟩

/-- What a visit obtains, it obtains as an invocation, under its own lease. -/
theorem Visit.of_obtained {v : Visit α β σ} {g : Grant} (obtained : g ∈ v.obtained) :
    v.Grants g := by
  obtain ⟨visible, a, entered, invocation, given⟩ := Visit.provided_of_obtained obtained
  have provided := Access.of_provided given
  rw [invocation] at provided
  refine ⟨⟨visible, entered⟩, fun u used => ?_, fun handle held => ?_⟩
  · subst used
    rcases provided with ⟨access, given, -⟩ | ⟨w, given, -⟩ | ⟨internals, given, -⟩
    · cases u with
      | state handle call result => exact congrArg StateHandle.lease (Grant.state.inj given)
      | internals handle result => exact absurd given (by simp [HandleUse.grant])
    · cases u <;> exact absurd given (by simp [HandleUse.grant])
    · cases u with
      | state handle call result => exact absurd given (by simp [HandleUse.grant])
      | internals handle result => exact congrArg InternalsHandle.lease (Grant.internals.inj given)
  · subst held
    rcases provided with ⟨access, given, answered⟩ | ⟨w, given, -⟩ | ⟨internals, given, -⟩
    · obtain rfl := Grant.state.inj given
      exact ⟨_, _, answered⟩
    · exact absurd given (by simp)
    · exact absurd given (by simp)

/-- A provider with fixed answers has nothing but the cells to offer as keyed state. -/
theorem StaticProvider.access_eq {static : StaticProvider} {past : List Query}
    {scope : InvocationScope} {access : StateAccess}
    (answer : static.toProvider.keyedState past scope = .ok access) : access = .cells := by
  unfold toProvider at answer
  cases has : static.hasState with
  | true => simpa [has, eq_comm] using answer
  | false => simp [has] at answer

/-! ### What is written -/

/-- What a request writes to the cells through one of the handles that were obtained: nothing, as
    long as the run is interrupted. -/
def Moment.writes (obtained : List Grant) (m : Moment α β) : List StateCall :=
  match m.use? with
  | some (.state handle call _) =>
    if .state handle ∈ obtained ∧ m.before.interrupt.raised = false ∧ call.isWrite = true then
      [call]
    else []
  | _ => []

/-- What a visit writes through handles that are live, which are those that it obtained itself. -/
def Visit.writes (v : Visit α β σ) : List StateCall := v.moments.flatMap (Moment.writes v.obtained)

/-- What is written during an act. -/
def Act.writes : Act α β σ → List StateCall
  | visit v => v.writes
  | outside .. => []

/-- What a visit obtains, for an act that is one. -/
def Act.obtained : Act α β σ → List Grant
  | visit v => v.obtained
  | outside .. => []

/-- **One request.** A request of a visit does to the cells what it writes, provided that the
    handles that are live in the visit are those that it obtained, and that they open the cells. -/
theorem Visit.cells_after {v : Visit α β σ} {m : Moment α β} (hm : m ∈ v.moments)
    (own : ∀ handle call result, m.use? = some (.state handle call result) →
      m.before.live = some handle.lease → .state handle ∈ v.obtained)
    (opens : ∀ handle, .state handle ∈ v.obtained → handle.access = .cells) :
    m.after.cells = (m.writes v.obtained).foldl StateCall.apply m.before.cells := by
  by_cases used : ∃ handle call result, m.use? = some (.state handle call result)
  · obtain ⟨handle, call, result, used⟩ := used
    have made : m.after.cells = (m.before.useState handle call).1.cells := by
      rcases Event.use_cases (e := (.request m : Event α β σ)) used with
        ⟨handle', call', same, cells⟩ | ⟨handle', same, -⟩
      · obtain ⟨rfl, rfl, -⟩ := HandleUse.state.inj same
        exact cells
      · exact absurd same (by simp)
    by_cases live : m.before.live = some handle.lease
    · have obtained := own handle call result used live
      rw [made, RunState.cells_useState_of_live live (opens handle obtained)]
      unfold Moment.writes
      rw [used]
      cases raised : m.before.interrupt.raised with
      | true => simp
      | false =>
        simp only [obtained, true_and]
        cases call <;> rfl
    · -- a handle that the visit obtained would be live
      have strange : .state handle ∉ v.obtained := by
        intro obtained
        have grants := Visit.of_obtained obtained
        have lease : handle.lease = v.runner.run.leases :=
          grants.lease (.state handle call result) rfl
        exact live ((Visit.live_of_process grants.process hm).trans (congrArg some lease.symm))
      rw [made, RunState.useState_of_stale live]
      unfold Moment.writes
      rw [used]
      simp [strange]
  · have nothing : m.writes v.obtained = [] := by
      unfold Moment.writes
      split
      next handle call result here => exact absurd ⟨handle, call, result, here⟩ used
      next => rfl
    rw [nothing]
    exact Event.cells_of_unused (e := (.request m : Event α β σ)) fun handle call result here =>
      used ⟨handle, call, result, here⟩

/-- **One visit.** So does a visit as a whole. -/
theorem Visit.cells_closed {v : Visit α β σ}
    (own : ∀ m ∈ v.moments, ∀ handle call result, m.use? = some (.state handle call result) →
      m.before.live = some handle.lease → .state handle ∈ v.obtained)
    (opens : ∀ handle, .state handle ∈ v.obtained → handle.access = .cells) :
    v.closed.cells = v.writes.foldl StateCall.apply v.runner.run.cells := by
  have requests := v.leads_requests.fold RunState.cells
    (fun e c => (e.moments.flatMap (Moment.writes v.obtained)).foldl StateCall.apply c)
    (by
      intro e he
      obtain ⟨m, hm, rfl⟩ := List.mem_map.mp he
      rw [Event.moments, List.flatMap_singleton]
      exact Visit.cells_after hm (own m hm) opens)
  have opened : v.opened.cells = v.runner.run.cells := by
    obtain ⟨entrance, r⟩ := v
    cases entrance <;> rfl
  have closed : v.closed.cells = v.stopped.cells := by
    obtain ⟨entrance, r⟩ := v
    cases entrance <;> rfl
  have stopped : v.stopped.cells = v.writes.foldl StateCall.apply v.opened.cells := by
    rw [List.foldl_map] at requests
    simp only [Event.moments, List.flatMap_singleton] at requests
    rw [Visit.writes, List.foldl_flatMap]
    exact requests
  rw [closed, stopped, opened]

/-- **One act.** So does an act: outside of the visits nothing is written when no lease is live. -/
theorem Act.cells_after {a : Act α β σ} (idle : a.before.live = none)
    (own : ∀ v, a = .visit v → ∀ m ∈ v.moments, ∀ handle call result,
      m.use? = some (.state handle call result) → m.before.live = some handle.lease →
      .state handle ∈ v.obtained)
    (opens : ∀ v, a = .visit v → ∀ handle, .state handle ∈ v.obtained → handle.access = .cells) :
    a.after.cells = a.writes.foldl StateCall.apply a.before.cells := by
  cases a with
  | visit v => exact Visit.cells_closed (own v rfl) (opens v rfl)
  | outside st performs =>
    -- outside of the visits no lease is live, so that every use is stale
    by_cases used : ∃ handle call result,
        (Event.outside st performs).use? = some (.state handle call result)
    · obtain ⟨handle, call, result, used⟩ := used
      have stale : st.before.runner.run.live ≠ some handle.lease := by
        rw [show st.before.runner.run.live = none from idle]
        simp
      exact (Event.stale_of_use used stale).2
    · exact Event.cells_of_unused fun handle call result here => used ⟨handle, call, result, here⟩

/-- A handle that is live during a visit, if it was obtained at all, was obtained by the visit. -/
theorem Session.obtained_of_live {s : Session α β σ} {calls : List (Call α)} {v : Visit α β σ}
    (idle : s.runner.run.live = none) (hv : .visit v ∈ s.acts calls) {m : Moment α β}
    (hm : m ∈ v.moments) {handle : StateHandle} (live : m.before.live = some handle.lease)
    (obtained : .state handle ∈ (s.acts calls).flatMap Act.obtained) :
    .state handle ∈ v.obtained := by
  obtain ⟨b, hb, obtained⟩ := List.mem_flatMap.mp obtained
  cases b with
  | outside st performs => exact absurd obtained (by simp [Act.obtained])
  | visit w =>
    have grants := Visit.of_obtained (v := w) obtained
    have lease : handle.lease = w.runner.run.leases :=
      grants.lease (.state handle (.lookup "") (.ok none)) rfl
    have opened := (v.lease_of_mem_moments.1 m hm).1.symm.trans live
    obtain ⟨own, process⟩ := Visit.eq_of_opened (live_of_mem_acts idle _ hv) opened
    -- the visit that obtained it has the lease of this one, and so it is this one
    rw [eq_of_lease hv hb process grants.process (own.symm.trans lease)]
    exact obtained

/-- **Handles and their invocations.**  A runner was built with a provider of fixed answers.  In
    every run, whatever a visit obtains: during all later acts, which are the next windows of the
    record, later elements, the finish of the bundle, later bundles, and what is done outside,
    however the visit ended and whether the run is interrupted or not, the use of it is stale and
    leaves the cells alone; and during the visit itself the use of it is never stale.  If all
    handles on keyed state that are used were obtained in the run, then in the end the cells hold
    what the visits have written, in order, through handles of their own while the run was not
    interrupted. -/
theorem handles_stale_after_invocation (callback : Callback α β σ) (state : σ)
    (binding : Binding α β) (settings : Settings) (static : StaticProvider)
    (bound : binding.provider = static.toProvider) (r : Runner α β σ)
    (built : (Runner.build callback state binding settings).outcome = .done r)
    (calls : List (Call α)) :
    (∀ before v after, (Session.ofRunner r).acts calls = before ++ .visit v :: after →
      ∀ g ∈ v.obtained,
        (∀ a ∈ after, ∀ e ∈ a.events, ∀ u, e.use? = some u → u.grant = g →
          u.fault? = some (.staleContext u.accessor) ∧ e.after.cells = e.before.cells) ∧
        (∀ m ∈ v.moments, ∀ u, m.use? = some u → u.grant = g →
          ∀ accessor, u.fault? ≠ some (.staleContext accessor))) ∧
    ((∀ e ∈ (Session.ofRunner r).events calls, ∀ handle call result,
        e.use? = some (.state handle call result) →
        .state handle ∈ ((Session.ofRunner r).acts calls).flatMap Act.obtained) →
      ((Session.ofRunner r).performAll calls).1.runner.run.cells =
        (((Session.ofRunner r).acts calls).flatMap Act.writes).foldl StateCall.apply .empty) := by
  obtain ⟨plan, -⟩ := Runner.of_build built
  obtain ⟨registry, interrupt, fresh⟩ := Runner.silent_of_build built
  have start : (Session.ofRunner r).runner.run.live = none := congrArg RunState.live fresh
  have empty : (Session.ofRunner r).runner.run.world.cells = .empty :=
    congrArg RunState.cells fresh
  have idle : ∀ a ∈ (Session.ofRunner r).acts calls, a.before.live = none :=
    Session.live_of_mem_acts start
  -- every visit has the plan of the session, and so the provider of the binding
  have opens : ∀ v, .visit v ∈ (Session.ofRunner r).acts calls →
      ∀ handle, .state handle ∈ v.obtained → handle.access = .cells := by
    intro v hv handle obtained
    obtain ⟨-, -, fixed⟩ := Session.of_visit_mem_acts hv
    have provider : v.runner.plan.provider = static.toProvider := by
      rw [show v.runner.plan = r.plan from congrArg Prod.snd fixed, plan]
      exact bound
    obtain ⟨past, scope, answer⟩ := (Visit.of_obtained obtained).access handle rfl
    rw [provider] at answer
    exact StaticProvider.access_eq answer
  constructor
  · intro before v after split g obtained
    have grants := Visit.of_obtained obtained
    have member : ∀ a ∈ Act.visit v :: after, a ∈ (Session.ofRunner r).acts calls := by
      intro a ha
      rw [split]
      exact List.mem_append_right _ ha
    constructor
    · intro a later e during u used same
      refine Event.stale_of_use used fun live => ?_
      -- a lease that is live during a later act is a later one
      have le : a.before.leases ≤ u.lease :=
        Act.le_of_live (idle a (member a (List.mem_cons_of_mem _ later))) during live
      have lt : v.runner.run.leases < a.before.leases :=
        Session.lease_lt_of_later split grants.process later
      have lease : u.lease = v.runner.run.leases := grants.lease u same
      omega
    · intro m hm u used same accessor
      have live : m.before.live = some u.lease := by
        rw [grants.lease u same]
        exact Visit.live_of_process grants.process hm
      refine Event.not_stale_of_use (e := (.request m : Event α β σ)) used live ?_ accessor
      intro handle held
      obtain rfl : g = .state handle := same.symm.trans held
      exact opens v (member _ (List.mem_cons_self ..)) handle obtained
  · intro handed
    have folded := ((Session.ofRunner r).leads_acts calls).fold RunState.cells
      (fun a c => a.writes.foldl StateCall.apply c)
      (by
        intro a ha
        refine Act.cells_after (idle a ha) ?_ fun v here => opens v (here ▸ ha)
        rintro v rfl m hm handle call result used live
        have event : (.request m : Event α β σ) ∈ (Session.ofRunner r).events calls :=
          List.mem_flatMap.mpr ⟨.visit v, ha, List.mem_cons_of_mem _
            (List.mem_append_left _ (List.mem_map_of_mem hm))⟩
        exact Session.obtained_of_live start ha hm live (handed _ event handle call result used))
    rw [empty] at folded
    rw [List.foldl_flatMap]
    exact folded

/-! ### A callback that keeps its handle

The callback obtains keyed state for its first element, stores a byte, and keeps the handle.  For
later elements it tries to clear the cell through the handle that it kept.
-/

namespace KeepsHandle

/-- Stores a byte for the first element, and clears the cell for every other one. -/
def callback : Callback Nat Nat (Option StateHandle) where
  descriptor := { Descriptor.plain with process := .ofList [.keyedState] }
  skew := none
  setup state := .stop state (.done ())
  start _ state := .stop state (.done ())
  process _ state :=
    match state with
    | none =>
      .ask .keyedState fun
        | .error fault => .stop none (.failed fault)
        | .ok handle =>
          .ask (.output (.useState handle (.store "cell" [1]))) fun _ =>
            .stop (some handle) (.done ())
    | some handle =>
      .ask (.output (.useState handle (.remove "cell"))) fun _ => .stop (some handle) (.done ())
  finish _ state := .stop state (.done ())

/-- A provider with keyed state. -/
def static : StaticProvider := ⟨true, .notFired⟩

/-- A keyed transform with this provider. -/
def binding : Binding Nat Nat :=
  ⟨{ Declarations.ofMain .collecting with keyed := true, provider := static.toProvider },
    List.nodup_nil, List.nodup_nil⟩

/-- The handle that the callback keeps. -/
def handle : StateHandle := ⟨.cells, 0⟩

/-- A record at the epoch, in the whole of time. -/
def record : Record Nat := ⟨1, .epoch, .single .global⟩

/-- Two records, and the handle used once more, outside, while the run is interrupted. -/
def calls : List (Call Nat) :=
  [.openBundle, .start, .process record, .process record, .raise "stop",
    .useState handle (.remove "cell")]

end KeepsHandle

/-- The byte is still there: after the third act, which obtains the handle, its use is refused. -/
theorem handles_stale_after_invocation_keepsHandle :
    ∃ r, (Runner.build KeepsHandle.callback none KeepsHandle.binding .default).outcome = .done r ∧
      ((Session.ofRunner r).events KeepsHandle.calls).filterMap Event.use? =
        [.state KeepsHandle.handle (.store "cell" [1]) (.ok none),
          .state KeepsHandle.handle (.remove "cell") (.error (.staleContext "keyed_state")),
          .state KeepsHandle.handle (.remove "cell") (.error (.staleContext "keyed_state"))] ∧
      (∃ first second v after, (Session.ofRunner r).acts KeepsHandle.calls =
          [first, second] ++ .visit v :: after ∧
        ∀ a ∈ after, ∀ e ∈ a.events, ∀ u, e.use? = some u →
          u.grant = .state KeepsHandle.handle → u.fault? = some (.staleContext u.accessor)) ∧
      ((Session.ofRunner r).performAll KeepsHandle.calls).1.runner.run.cells =
        Cells.empty.store "cell" [1] := by
  refine ⟨_, rfl, rfl, ?_⟩
  obtain ⟨stale, holds⟩ := handles_stale_after_invocation KeepsHandle.callback none
    KeepsHandle.binding .default KeepsHandle.static rfl _ rfl KeepsHandle.calls
  constructor
  · obtain ⟨later, -⟩ := stale [_, _] _ [_, _, _] rfl (.state KeepsHandle.handle)
      (List.mem_singleton_self _)
    exact ⟨_, _, _, _, rfl, fun a ha e he u used same => (later a ha e he u used same).1⟩
  · refine (holds fun e he handle call result used => ?_).trans rfl
    -- every use is one of the same handle, which the third act obtained
    have uses := List.mem_filterMap.mpr ⟨e, he, used⟩
    replace uses : HandleUse.state handle call result ∈
        [.state KeepsHandle.handle (.store "cell" [1]) (.ok none),
          .state KeepsHandle.handle (.remove "cell") (.error (.staleContext "keyed_state")),
          .state KeepsHandle.handle (.remove "cell") (.error (.staleContext "keyed_state"))] := uses
    have same : handle = KeepsHandle.handle := by
      simp only [List.mem_cons, HandleUse.state.injEq, List.not_mem_nil, or_false] at uses
      rcases uses with ⟨same, -⟩ | ⟨same, -⟩ | ⟨same, -⟩ <;> exact same
    subst same
    exact List.mem_singleton_self _

end BundleRunner
