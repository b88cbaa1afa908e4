import BundleRunner.Proofs.Arrivals
import BundleRunner.Proofs.Leases

namespace BundleRunner

/-!
# Views of the current window

The windows and the time of an element go four ways: to the callback, to the provider of
capabilities, to the emissions, and to the reader of side inputs.  This file proves that all of them
come back with the same windows and the same time, as long as the provider and the reader are
built in.  Whether there is only one window is tested in two ways, by counting and by taking the
single one, and both tests agree as well.

* `Provider.BuiltIn`, `Reader.BuiltIn` — the collaborators that are built in;
* `Moment.read` — the reads that reach the reader while one request is answered;
* `Visit.Agrees` — in an invocation, every view of the current windows and time is the callback's;
* `Visit.ambiguous_iff` — a request fails for want of a single window exactly when it comes as far
  as the test, and there is more than one;
* `views_agree` — the same in every run, with all reads that reach the reader.

A provider of one's own may answer what it likes.  So the window that it gives is only known to be
the element's when the provider is built in, and so are the internals.  Agreement would mean little
if nothing were ever given, so it says as well when the window and the internals are given.
-/

variable {α β σ : Type}

/-! ### Collaborators that are built in -/

/-- The providers that are built in. -/
inductive Provider.BuiltIn : Provider → Prop where
  | minimal : BuiltIn .minimal
  | static (s : StaticProvider) : BuiltIn s.toProvider

/-- The readers of side inputs that are built in. -/
inductive Reader.BuiltIn : Reader → Prop where
  | none : BuiltIn .none
  | static (s : StaticReader) : BuiltIn s.toReader

/-- A provider that is built in answers with the only window of the scope. -/
theorem Provider.BuiltIn.window_eq {p : Provider} (h : p.BuiltIn) (past : List Query)
    (scope : InvocationScope) : p.window past scope = scope.onlyWindow := by
  cases h <;> rfl

/-- A provider that is built in does not mind what it was asked before. -/
theorem Provider.BuiltIn.forgets {p : Provider} (h : p.BuiltIn) (past past' : List Query)
    (scope : InvocationScope) :
    p.keyedState past scope = p.keyedState past' scope ∧
      p.window past scope = p.window past' scope ∧
      p.internals past scope = p.internals past' scope := by
  cases h <;> exact ⟨rfl, rfl, rfl⟩

/-- A provider that is built in answers with the windows and the time of the scope. -/
theorem Provider.BuiltIn.of_internals {p : Provider} (h : p.BuiltIn) {past : List Query}
    {scope : InvocationScope} {internals : Internals}
    (answer : p.internals past scope = .ok internals) :
    internals.windows = scope.windows ∧ internals.timestamp = scope.timestamp := by
  cases h with
  | minimal => exact absurd answer (by simp [Provider.minimal])
  | static s =>
    obtain rfl := Except.ok.inj answer
    exact ⟨rfl, rfl⟩

/-- A reader that is built in does not mind windows. -/
theorem Reader.BuiltIn.ne_ambiguous {reader : Reader} (h : reader.BuiltIn) (past : List ViewRead)
    (read : ViewRead) (count : Nat) : reader.answer past read ≠ .error (.ambiguousWindow count) := by
  cases h with
  | none => simp [Reader.none]
  | static s =>
    cases found : s.find? read with
    | none => simp [StaticReader.toReader, found, StaticReader.missing]
    | some value => simp [StaticReader.toReader, found]

/-! ### The only window -/

namespace WindowSet

theorem size_single (w : Window) : (single w).size = 1 := rfl

theorem exists_single {s : WindowSet} (one : s.size = 1) : ∃ w, s = single w := by
  obtain ⟨w, only⟩ := List.length_eq_one_iff.mp one
  exact ⟨w, WindowSet.ext only⟩

theorem only?_eq_none_iff {s : WindowSet} : s.only? = none ↔ 1 < s.size := by
  have filled := s.size_pos
  obtain ⟨windows, sorted, nonempty⟩ := s
  match windows with
  | [] => exact absurd rfl nonempty
  | [w] => simp [only?, size]
  | u :: w :: ws => simp [only?, size]

end WindowSet

namespace InvocationScope

theorem onlyWindow_eq_ok_iff {scope : InvocationScope} {w : Window} :
    scope.onlyWindow = .ok w ↔ scope.windows = .single w := by
  rw [← WindowSet.only?_eq_some_iff]
  unfold onlyWindow
  cases scope.windows.only? <;> simp

theorem onlyWindow_eq_error_iff {scope : InvocationScope} {fault : Fault} :
    scope.onlyWindow = .error fault ↔
      fault = .ambiguousWindow scope.windows.size ∧ 1 < scope.windows.size := by
  rw [← WindowSet.only?_eq_none_iff]
  unfold onlyWindow
  cases scope.windows.only? <;> simp [eq_comm]

end InvocationScope

/-! ### Reads -/

/-- The reads that reach the reader of side inputs while the request is answered. -/
def Moment.read (m : Moment α β) : List ViewRead := m.after.reads.drop m.before.reads.length

/-- The window that a side input is read for is the only one of the element, and it is looked for
    after the signal and the name of the view. -/
theorem Invocation.readWindow_eq (i : Invocation α) (s : ElementState β) (view : String) :
    i.readWindow s view =
      match s.run.interrupt.check with
      | .error fault => .error fault
      | .ok () =>
        match i.plan.sideInputs.ensureDeclared view with
        | .error fault => .error fault
        | .ok () => i.scope.onlyWindow := by
  unfold readWindow
  cases s.run.interrupt.check with
  | error fault => rfl
  | ok u =>
    cases i.plan.sideInputs.ensureDeclared view with
    | error fault => rfl
    | ok u => rfl

namespace Moment

/-- What is added to the reads is what was read. -/
theorem read_eq {m : Moment α β} {reads : List ViewRead}
    (added : m.after.reads = m.before.reads ++ reads) : m.read = reads := by
  rw [read, added, List.drop_left]

/-- A request reads nothing, unless it is for a side input and a window is found for it. -/
theorem read_cases (m : Moment α β) :
    m.after.reads = m.before.reads ++ [] ∨
      ∃ i view type s window, m = .element i (.sideInput view type) s ∧
        i.readWindow s view = .ok window ∧
        m.after.reads = m.before.reads ++ [⟨view, window⟩] := by
  by_cases part : m.part = .reads
  · cases m with
    | bundle windowFn request s => exact absurd part (Part.ne_of_mem request.part_mem (by decide))
    | element i request s =>
      cases request with
      | sideInput view type =>
        cases found : i.readWindow s view with
        | error fault =>
          refine Or.inl ?_
          simp [after, before, ElementRequest.perform, Invocation.sideInput, found]
        | ok window =>
          refine Or.inr ⟨i, view, type, s, window, rfl, found, ?_⟩
          simp [after, before, ElementRequest.perform, Invocation.sideInput, found]
      | output request => exact absurd part (Part.ne_of_mem request.part_mem (by decide))
      | _ => exact absurd part (by simp [Moment.part, ElementRequest.part])
  · have same := Event.reads_after (e := (.request m : Event α β Unit)) part
    exact Or.inl (same.trans (List.append_nil _).symm)

/-- What a request reads is added to the reads. -/
theorem reads_after (m : Moment α β) : m.after.reads = m.before.reads ++ m.read := by
  rcases m.read_cases with added | ⟨_, _, _, _, _, -, -, added⟩
  · rw [read_eq added]
    exact added
  · rw [read_eq added]
    exact added

/-- A read that reaches the reader is made for the only window of the element. -/
theorem window_of_mem_read {m : Moment α β} {read : ViewRead} (reaches : read ∈ m.read) :
    ∃ i request s, m = .element i request s ∧ i.record.windows = .single read.window := by
  rcases m.read_cases with added | ⟨i, view, type, s, window, rfl, found, added⟩
  · rw [read_eq added] at reaches
    exact absurd reaches (by simp)
  · rw [read_eq added, List.mem_singleton] at reaches
    subst reaches
    refine ⟨i, _, s, rfl, ?_⟩
    rw [i.readWindow_eq] at found
    split at found
    · exact absurd found (by simp)
    · split at found
      · exact absurd found (by simp)
      · exact InvocationScope.onlyWindow_eq_ok_iff.mp found

end Moment

/-! ### Requests for the window -/

/-- The fault of an answer, if it is one. -/
def Fault.of? {τ : Type} : Except Fault τ → Option Fault
  | .error fault => some fault
  | .ok _ => none

namespace Moment

/-- How a request fails that needs a single window: one for the window, or one for a side input. -/
def windowFault? : Moment α β → Option Fault
  | element i .window s => Fault.of? (i.window s).2
  | element i (.sideInput view type) s => Fault.of? (i.sideInput view type s).2
  | _ => none

/-- The request needs a single window, and passes the checks before the one for it. -/
def ReachesWindow : Moment α β → Prop
  | element i .window _ => i.declared .window = .ok ()
  | element i (.sideInput view _) s =>
    s.run.interrupt.check = .ok () ∧ i.plan.sideInputs.ensureDeclared view = .ok ()
  | _ => False

end Moment

@[simp] theorem Fault.of?_eq_some_iff {τ : Type} {answer : Except Fault τ} {fault : Fault} :
    Fault.of? answer = some fault ↔ answer = .error fault := by
  cases answer <;> simp [Fault.of?]

theorem Interrupt.check_ne_ambiguous (i : Interrupt) (count : Nat) :
    i.check ≠ .error (.ambiguousWindow count) := by
  unfold check
  split <;> simp

theorem SideInputs.ensureDeclared_ne_ambiguous (s : SideInputs) (view : String) (count : Nat) :
    s.ensureDeclared view ≠ .error (.ambiguousWindow count) := by
  unfold ensureDeclared
  split <;> simp

/-- The check of the type finds no fault in the windows. -/
theorem SideInputs.error_of_typed {view : String} {type : ValueType} {answer : Except Fault Value}
    {count : Nat} (fails : typed view type answer = .error (.ambiguousWindow count)) :
    answer = .error (.ambiguousWindow count) := by
  cases answer with
  | error fault => exact congrArg Except.error (Except.error.inj fails)
  | ok value =>
    unfold typed at fails
    cases typed : value.as? type with
    | some x => simp [typed] at fails
    | none => simp [typed] at fails

namespace Invocation

theorem declared_ne_ambiguous (i : Invocation α) (capability : Capability) (count : Nat) :
    i.declared capability ≠ .error (.ambiguousWindow count) := by
  unfold declared Signature.require
  split <;> simp

/-- **Side inputs.** A side input is refused for want of a single window exactly when the request
    comes as far as the test, and there is more than one. -/
theorem sideInput_ambiguous_iff {i : Invocation α} (builtIn : i.plan.sideInputs.reader.BuiltIn)
    (view : String) (type : ValueType) (s : ElementState β) (count : Nat) :
    (i.sideInput view type s).2 = .error (.ambiguousWindow count) ↔
      (s.run.interrupt.check = .ok () ∧ i.plan.sideInputs.ensureDeclared view = .ok ()) ∧
        i.record.windows.size = count ∧ 1 < count := by
  unfold sideInput
  rw [i.readWindow_eq]
  cases checked : s.run.interrupt.check with
  | error fault =>
    have other : fault ≠ .ambiguousWindow count := by
      rintro rfl
      exact Interrupt.check_ne_ambiguous _ count checked
    simp [other]
  | ok u =>
    cases declared : i.plan.sideInputs.ensureDeclared view with
    | error fault =>
      have other : fault ≠ .ambiguousWindow count := by
        rintro rfl
        exact SideInputs.ensureDeclared_ne_ambiguous _ view count declared
      simp [other]
    | ok u =>
      cases found : i.scope.onlyWindow with
      | error fault =>
        -- all checks before are passed, and there is more than one window
        obtain ⟨rfl, many⟩ := InvocationScope.onlyWindow_eq_error_iff.mp found
        replace many : 1 < i.record.windows.size := many
        show (Except.error _ = Except.error _ ↔ _)
        constructor
        · intro same
          obtain rfl := Fault.ambiguousWindow.inj (Except.error.inj same)
          exact ⟨⟨rfl, rfl⟩, rfl, many⟩
        · rintro ⟨-, rfl, -⟩
          rfl
      | ok window =>
        -- the reader is asked, which fails for other reasons if it fails
        have single := InvocationScope.onlyWindow_eq_ok_iff.mp found
        replace single : i.record.windows = .single window := single
        constructor
        · intro fails
          exact absurd (SideInputs.error_of_typed fails) (builtIn.ne_ambiguous _ _ count)
        · rintro ⟨-, rfl, many⟩
          rw [single, WindowSet.size_single] at many
          exact absurd many (by omega)

/-- **The window.** As long as a single window is given when there is one, the window is refused for
    want of a single one exactly when the request comes as far as the test, and there is more than
    one. -/
theorem window_ambiguous_iff {i : Invocation α} {s : ElementState β}
    (given : i.declared .window = .ok () → ∀ w, i.record.windows = .single w →
      (i.window s).2 = .ok w) (count : Nat) :
    (i.window s).2 = .error (.ambiguousWindow count) ↔
      i.declared .window = .ok () ∧ i.record.windows.size = count ∧ 1 < count := by
  have filled := i.record.windows.size_pos
  cases declared : i.declared .window with
  | error fault =>
    have other : fault ≠ .ambiguousWindow count := by
      rintro rfl
      exact i.declared_ne_ambiguous _ count declared
    have refused : i.checkWindow = .error fault := by
      unfold checkWindow
      rw [declared]
      rfl
    unfold window
    rw [refused]
    simp [other]
  | ok u =>
    -- `checkWindow` counts the windows, where the provider looks for the only one
    by_cases one : i.record.windows.size = 1
    · obtain ⟨w, single⟩ := WindowSet.exists_single one
      rw [given declared w single]
      simp only [reduceCtorEq, true_and, false_iff, not_and]
      omega
    · have refused : i.checkWindow = .error (.ambiguousWindow i.record.windows.size) := by
        unfold checkWindow
        rw [declared, if_neg one]
        rfl
      unfold window
      rw [refused]
      simp only [Except.error.injEq, Fault.ambiguousWindow.injEq, true_and]
      omega

end Invocation

/-! ### One invocation -/

/-- In an invocation for a record, every view of the current windows and time is the one that the
    callback has. -/
structure Visit.Agrees (v : Visit α β σ) (view : ElementView α) : Prop where
  /-- Internals that are obtained have the callback's windows and time. -/
  internals : ∀ handle, .internals handle ∈ v.obtained →
    handle.internals.windows = view.windows ∧ handle.internals.timestamp = view.timestamp
  /-- As long as the invocation runs, internals that it obtained can be read. -/
  legible : ∀ m ∈ v.moments, ∀ handle result, m.use? = some (.internals handle result) →
    .internals handle ∈ v.obtained → result = .ok handle.internals
  /-- Whatever is emitted lies in the callback's windows. -/
  windows : ∀ m ∈ v.moments, ∀ channel, ∀ out ∈ m.delivered channel, out.windows = view.windows
  /-- What is emitted without a time of its own lies at the callback's time. -/
  timestamp : ∀ m ∈ v.moments, ∀ channel, ∀ out ∈ m.delivered channel,
    m.explicit? = some none → out.timestamp = view.timestamp
  /-- A window that is obtained is the only one of the callback's windows. -/
  window : ∀ w, .window w ∈ v.obtained → view.windows = .single w
  /-- The only one of the callback's windows is given whenever the window is declared. -/
  given : ∀ i s, .element i .window s ∈ v.moments → i.declared .window = .ok () →
    ∀ w, view.windows = .single w → (i.window s).2 = .ok w
  /-- A provider with fixed answers gives internals whenever they are declared. -/
  offered : ∀ static : StaticProvider, v.runner.plan.provider = static.toProvider →
    ∀ i s, .element i .internals s ∈ v.moments → i.declared .windowingInternals = .ok () →
      ∃ handle, (i.internals s).2 = .ok handle
  /-- A read that reaches the reader is made for the only one of the callback's windows. -/
  reads : ∀ m ∈ v.moments, ∀ read ∈ m.read, view.windows = .single read.window

namespace Visit

variable {v : Visit α β σ} {visible : Record α}

/-- The requests of an invocation are made in it. -/
theorem exists_element (entered : v.entrance = .process visible) {m : Moment α β}
    (during : m ∈ v.moments) : ∃ request s, m = .element (v.runner.invocation visible) request s := by
  rw [Visit.moments, entered] at during
  obtain ⟨asked, -, rfl⟩ := List.mem_map.mp during
  exact ⟨asked.1, asked.2, rfl⟩

/-- With a provider that is built in, an access that passes its checks is answered as if the
    provider were asked there and then. -/
theorem answer_eq_provided (builtIn : v.runner.plan.provider.BuiltIn) {a : Access α β}
    (access : a ∈ v.accesses) (passes : a.obstacle? = none) : a.answer = a.provided := by
  -- in fact the answer is the one that the provider gave to the first such access in the visit
  obtain ⟨first, found, served⟩ := v.asksOnce.served a access passes
  obtain ⟨visible, entered, invocation⟩ := v.asksOnce.invocation a access
  obtain ⟨visible', entered', invocation'⟩ :=
    v.asksOnce.invocation first (List.mem_of_find?_eq_some found)
  obtain rfl := Entrance.process.inj (entered.symm.trans entered')
  have capability : first.capability = a.capability :=
    (Access.passesFor_iff.mp (List.find?_some found)).1
  rw [served]
  obtain ⟨i, c, s⟩ := a
  obtain ⟨i', c', s'⟩ := first
  obtain rfl : i = v.runner.invocation visible := invocation
  obtain rfl : i' = v.runner.invocation visible := invocation'
  obtain rfl : c' = c := capability
  have forgets := builtIn.forgets s'.run.queries s.run.queries (v.runner.invocation visible).scope
  have plan : (v.runner.invocation visible).plan = v.runner.plan := rfl
  obtain ⟨keyedState, window, internals⟩ := forgets
  cases c' with
  | keyedState => simp only [Access.provided, plan, keyedState]
  | window => simp only [Access.provided, plan, window]
  | windowingInternals => simp only [Access.provided, plan, internals]

/-- A request for a capability is an access of the visit. -/
theorem mem_accesses {i : Invocation α} {request : ElementRequest β} {s : ElementState β}
    {c : Capability} (during : .element i request s ∈ v.moments)
    (asks : request.capability? = some c) : ⟨i, c, s⟩ ∈ v.accesses :=
  List.mem_flatMap.mpr ⟨_, during, by simp [Moment.accesses, asks]⟩

/-- All accesses are made under the plan of the visit. -/
theorem plan_of_mem_accesses {a : Access α β} (access : a ∈ v.accesses) :
    a.invocation.plan = v.runner.plan := by
  obtain ⟨visible, -, invocation⟩ := v.asksOnce.invocation a access
  exact congrArg Invocation.plan invocation

/-- A provider that is built in gives the window, if it is declared and there is only one. -/
theorem window_of_single (builtIn : v.runner.plan.provider.BuiltIn) {i : Invocation α}
    {s : ElementState β} (during : .element i .window s ∈ v.moments)
    (declared : i.declared .window = .ok ()) {w : Window} (single : i.record.windows = .single w) :
    (i.window s).2 = .ok w := by
  have access : ⟨i, .window, s⟩ ∈ v.accesses := mem_accesses during rfl
  have passes : (Access.mk i .window s).obstacle? = none := by
    simp [Access.obstacle?, Invocation.checks, declared, single, WindowSet.size_single, firstFault?]
  have plan : i.plan = v.runner.plan := plan_of_mem_accesses access
  have only : i.scope.onlyWindow = .ok w := InvocationScope.onlyWindow_eq_ok_iff.mpr single
  have answer : (i.window s).2.map Grant.window = .ok (.window w) := by
    refine (answer_eq_provided builtIn access passes).trans ?_
    simp only [Access.provided, plan, builtIn.window_eq, only, Except.map]
  cases made : (i.window s).2 with
  | error fault => simp [made, Except.map] at answer
  | ok w' =>
    rw [made] at answer
    exact congrArg Except.ok (Grant.window.inj (Except.ok.inj answer))

/-- A provider with fixed answers gives internals, if they are declared. -/
theorem exists_internals {static : StaticProvider}
    (provider : v.runner.plan.provider = static.toProvider) {i : Invocation α} {s : ElementState β}
    (during : .element i .internals s ∈ v.moments)
    (declared : i.declared .windowingInternals = .ok ()) :
    ∃ handle, (i.internals s).2 = .ok handle := by
  have access : ⟨i, .windowingInternals, s⟩ ∈ v.accesses := mem_accesses during rfl
  have passes : (Access.mk i .windowingInternals s).obstacle? = none := by
    simp [Access.obstacle?, Invocation.checks, declared, firstFault?]
  have plan : i.plan = v.runner.plan := plan_of_mem_accesses access
  have builtIn : v.runner.plan.provider.BuiltIn := provider ▸ .static static
  have answer := answer_eq_provided builtIn access passes
  replace answer : (i.internals s).2.map Grant.internals = _ := answer
  simp only [Access.provided, plan, provider, StaticProvider.toProvider, Except.map] at answer
  cases made : (i.internals s).2 with
  | error fault => simp [made] at answer
  | ok handle => exact ⟨handle, rfl⟩

/-- **Want of a single window.** With collaborators that are built in, a request of an invocation
    fails for want of a single window exactly when it comes as far as the test, and the invocation
    sees more than one. -/
theorem ambiguous_iff (provider : v.runner.plan.provider.BuiltIn)
    (reader : v.runner.plan.sideInputs.reader.BuiltIn) (entered : v.entrance = .process visible)
    {m : Moment α β} (during : m ∈ v.moments) (count : Nat) :
    m.windowFault? = some (.ambiguousWindow count) ↔
      m.ReachesWindow ∧ visible.windows.size = count ∧ 1 < count := by
  obtain ⟨request, s, rfl⟩ := exists_element entered during
  cases request with
  | window =>
    have given := Invocation.window_ambiguous_iff
      (fun declared w single => window_of_single provider during declared single) count
    rw [Moment.windowFault?, Fault.of?_eq_some_iff, given]
    rfl
  | sideInput view type =>
    have test := Invocation.sideInput_ambiguous_iff (i := v.runner.invocation visible) reader
      view type s count
    rw [Moment.windowFault?, Fault.of?_eq_some_iff, test]
    rfl
  | _ => simp [Moment.windowFault?, Moment.ReachesWindow]

/-- What an invocation obtains comes from the provider, which was told of the scope of the
    invocation. -/
theorem exists_provided (entered : v.entrance = .process visible) {g : Grant}
    (obtained : g ∈ v.obtained) :
    ∃ a : Access α β, a.provided = .ok g ∧ a.invocation = v.runner.invocation visible := by
  obtain ⟨visible', a, entered', invocation, given⟩ := provided_of_obtained obtained
  obtain rfl := Entrance.process.inj (entered.symm.trans entered')
  exact ⟨a, given, invocation⟩

/-- A provider that is built in gives internals with the windows and the time that are seen. -/
theorem internals_of_obtained (provider : v.runner.plan.provider.BuiltIn)
    (entered : v.entrance = .process visible) {handle : InternalsHandle}
    (obtained : .internals handle ∈ v.obtained) :
    handle.internals.windows = visible.windows ∧
      handle.internals.timestamp = visible.timestamp := by
  obtain ⟨a, given, invocation⟩ := exists_provided entered obtained
  rcases Access.of_provided given with ⟨_, other, -⟩ | ⟨_, other, -⟩ | ⟨internals, same, answer⟩
  · exact absurd other (by simp)
  · exact absurd other (by simp)
  · obtain rfl := Grant.internals.inj same
    rw [invocation] at answer
    exact provider.of_internals answer

/-- A provider that is built in gives a window only where no other is seen. -/
theorem window_of_obtained (provider : v.runner.plan.provider.BuiltIn)
    (entered : v.entrance = .process visible) {w : Window} (obtained : .window w ∈ v.obtained) :
    visible.windows = .single w := by
  obtain ⟨a, given, invocation⟩ := exists_provided entered obtained
  rcases Access.of_provided given with ⟨_, other, -⟩ | ⟨w', same, answer⟩ | ⟨_, other, -⟩
  · exact absurd other (by simp)
  · obtain rfl := Grant.window.inj same
    rw [invocation] at answer
    exact InvocationScope.onlyWindow_eq_ok_iff.mp ((provider.window_eq ..).symm.trans answer)
  · exact absurd other (by simp)

/-- Internals that an invocation obtained can be read until it ends, because their lease is the one
    that the invocation took. -/
theorem read_of_obtained (entered : v.entrance = .process visible) {m : Moment α β}
    (during : m ∈ v.moments) {handle : InternalsHandle} {result : Except Fault Internals}
    (used : m.use? = some (.internals handle result))
    (obtained : .internals handle ∈ v.obtained) : result = .ok handle.internals := by
  have lease : handle.lease = v.runner.run.leases :=
    (of_obtained obtained).lease (.internals handle result) rfl
  have live : m.before.live = some handle.lease := by
    rw [lease]
    exact live_of_process ⟨visible, entered⟩ during
  rcases Event.use_cases (e := (.request m : Event α β σ)) used with
    ⟨_, _, other, -⟩ | ⟨handle', same, -⟩
  · exact absurd other (by simp)
  · obtain ⟨rfl, rfl⟩ := HandleUse.internals.inj same
    exact RunState.useInternals_of_live live

/-- What an invocation emits lies in the windows that are seen, and at the time that is seen unless
    it is emitted at another. -/
theorem place_of_delivered (entered : v.entrance = .process visible) {m : Moment α β}
    (during : m ∈ v.moments) {channel : ChannelId} {out : Record (β ⊕ Value)}
    (arrives : out ∈ m.delivered channel) :
    out.windows = visible.windows ∧
      (m.explicit? = some none → out.timestamp = visible.timestamp) := by
  obtain ⟨explicit, place, emission, found, timestamp, windows⟩ :=
    Moment.placed_of_mem_delivered arrives
  rw [scope_of_mem_moments entered during] at found
  obtain ⟨inWindows, atTime, -⟩ := Scope.place_of_element found
  refine ⟨windows.trans inWindows, fun untimed => ?_⟩
  obtain rfl := Option.some.inj (emission.symm.trans untimed)
  exact timestamp.trans atTime

/-- **One invocation.** With a provider that is built in, all views of the current windows and time
    agree. -/
theorem agrees (provider : v.runner.plan.provider.BuiltIn)
    (entered : v.entrance = .process visible) :
    v.Agrees (v.runner.invocation visible).view := by
  -- the requests of the visit are those of this invocation, so their element is the one seen
  have own : ∀ {i : Invocation α} {request s}, .element i request s ∈ v.moments →
      i = v.runner.invocation visible := by
    intro i request s during
    obtain ⟨request', s', same⟩ := exists_element entered during
    exact (Moment.element.inj same).1
  exact {
    internals := fun handle => internals_of_obtained provider entered
    legible := fun m during handle result => read_of_obtained entered during
    windows := fun m during channel out arrives => (place_of_delivered entered during arrives).1
    timestamp := fun m during channel out arrives => (place_of_delivered entered during arrives).2
    window := fun w => window_of_obtained provider entered
    given := by
      intro i s during declared w single
      obtain rfl := own during
      exact window_of_single provider during declared single
    offered := fun static fixed i s => exists_internals fixed
    reads := by
      intro m during read reaches
      obtain ⟨i, request, s, rfl, single⟩ := Moment.window_of_mem_read reaches
      obtain rfl := own during
      exact single }

end Visit

/-! ### Runs -/

/-- **All views agree.**  A runner was built with a provider and a reader that are built in.  In
    every run, the reads that reach the reader are those of the requests, in order.  While a record
    is processed, whatever the callback asks for and in whatever order, it obtains the windows and
    the time that it sees, what it emits lies in these windows, and at this time unless it gives
    another, and a window that it is given or that a side input is read for is the only one that it
    sees.  A window that is declared is given whenever it is the only one.  Under one invocation for
    each window, no request fails for want of a single window; under one invocation for each record,
    a request that needs a single window and passes the checks before fails with the number of
    windows exactly when the record lies in more than one. -/
theorem views_agree (callback : Callback α β σ) (state : σ) (binding : Binding α β)
    (settings : Settings) (provider : binding.provider.BuiltIn) (reader : binding.reader.BuiltIn)
    (r : Runner α β σ) (built : (Runner.build callback state binding settings).outcome = .done r)
    (calls : List (Call α)) :
    ((Session.ofRunner r).performAll calls).1.runner.run.reads =
        ((Session.ofRunner r).stages calls).flatMap (fun st => st.moments.flatMap Moment.read) ∧
    ∀ st ∈ (Session.ofRunner r).stages calls, ∀ trigger, st.call = .process trigger →
      ∀ v ∈ st.visits, ∃ visible, v.entrance = .process visible ∧
        callback.descriptor.granularity.Shows trigger visible ∧
        v.Agrees (v.runner.invocation visible).view ∧
        ∀ m ∈ v.moments, ∀ count,
          (callback.descriptor.granularity = .perWindow →
            m.windowFault? ≠ some (.ambiguousWindow count)) ∧
          (callback.descriptor.granularity = .perRecord →
            (m.windowFault? = some (.ambiguousWindow count) ↔
              m.ReachesWindow ∧ trigger.windows.size = count ∧ 1 < count)) := by
  obtain ⟨plan, -⟩ := Runner.of_build built
  obtain ⟨registry, interrupt, fresh⟩ := Runner.silent_of_build built
  constructor
  · have none : (Session.ofRunner r).runner.run.reads = [] := congrArg RunState.reads fresh
    have read := (Session.ofRunner r).view_performAll RunState.reads Moment.read (fun _ => rfl)
      (fun e silent => e.reads_after (Event.part_ne_of_silent silent rfl)) Moment.reads_after calls
    rw [read, none, List.nil_append]
  · intro st hst trigger call v hv
    -- the plan is the one that the runner was built with, at every visit
    have planned : st.before.runner.plan = r.plan := congrArg Prod.snd (Stage.fixed_of_mem hst)
    obtain ⟨samePlan, visible, entered, shows⟩ := Stage.of_mem_visits call hv
    have visited : v.runner.plan = Runner.planOf callback binding settings :=
      samePlan.trans (planned.trans plan)
    have builtIn : v.runner.plan.provider.BuiltIn := by
      rw [visited]
      exact provider
    have readerBuiltIn : v.runner.plan.sideInputs.reader.BuiltIn := by
      rw [visited]
      exact reader
    replace shows : callback.descriptor.granularity.Shows trigger visible := by
      rw [planned, plan] at shows
      exact shows
    refine ⟨visible, entered, shows, Visit.agrees builtIn entered, fun m during count => ?_⟩
    have ambiguous := Visit.ambiguous_iff builtIn readerBuiltIn entered during count
    constructor
    · intro perWindow fails
      obtain ⟨-, size, many⟩ := ambiguous.mp fails
      rw [perWindow] at shows
      obtain ⟨w, -, rfl⟩ := shows
      -- a record in one of its windows lies in a single one
      have one : count = 1 := size.symm
      omega
    · intro perRecord
      rw [perRecord] at shows
      obtain rfl : visible = trigger := shows
      exact ambiguous

/-! ### A callback that looks around

The callback asks for its window, reads internals and a side input, and emits its element.  It is
given two records, the first of them in two windows.
-/

namespace LooksAround

/-- Asks for everything that depends on the window, and then emits the element. -/
def callback : Callback Nat Nat Unit where
  descriptor := { Descriptor.plain with process := .ofList [.window, .windowingInternals] }
  skew := none
  setup state := .stop state (.done ())
  start _ state := .stop state (.done ())
  process view state :=
    .ask .window fun _ =>
      .ask (.sideInput "rates" .unsigned) fun _ =>
        .ask .internals fun
          | .error fault => .stop state (.failed fault)
          | .ok handle =>
            .ask (.output (.useInternals handle)) fun _ =>
              .ask (.output (.emit view.element none)) fun _ => .stop state (.done ())
  finish _ state := .stop state (.done ())

/-- A transform with one view, a value for it in any window, and a provider of internals. -/
def binding : Binding Nat Nat :=
  ⟨{ Declarations.ofMain .collecting with
      views := ["rates"]
      reader := (StaticReader.empty.withValue "rates" ⟨.unsigned, (3 : Nat)⟩).toReader
      provider := (StaticProvider.mk false .notFired).toProvider },
    List.nodup_nil, by decide⟩

/-- A record at 5ms in the whole of time and in the first ten milliseconds. -/
def wide : Record Nat := EarlyEcho.record

/-- A record at the epoch, in the whole of time. -/
def narrow : Record Nat := ⟨1, .epoch, .single .global⟩

/-- One bundle with both records. -/
def calls : List (Call Nat) := [.openBundle, .start, .process wide, .process narrow, .finish]

end LooksAround

/-- For the first record, the window and the side input are refused; for the second, the side input
    is read for the window that the callback obtains. -/
theorem views_agree_looksAround :
    ∃ r, (Runner.build LooksAround.callback () LooksAround.binding .default).outcome = .done r ∧
      ((Session.ofRunner r).performAll LooksAround.calls).1.runner.run.reads =
        [⟨"rates", .global⟩] ∧
      ((Session.ofRunner r).stages LooksAround.calls).flatMap
          (fun st => st.moments.filterMap Moment.windowFault?) =
        [.ambiguousWindow 2, .ambiguousWindow 2] ∧
      (∀ st ∈ (Session.ofRunner r).stages LooksAround.calls, st.call = .process LooksAround.wide →
        ∀ v ∈ st.visits, ∀ m ∈ v.moments,
          (m.windowFault? = some (.ambiguousWindow 2) ↔ m.ReachesWindow)) ∧
      ∀ st ∈ (Session.ofRunner r).stages LooksAround.calls, st.call = .process LooksAround.narrow →
        ∀ v ∈ st.visits, ∀ w, .window w ∈ v.obtained → w = .global := by
  refine ⟨_, rfl, rfl, rfl, ?_⟩
  obtain ⟨-, during⟩ := views_agree LooksAround.callback () LooksAround.binding .default
    (.static _) (.static _) _ rfl LooksAround.calls
  constructor
  · intro st hst call v hv m hm
    obtain ⟨visible, -, -, -, ambiguous⟩ := during st hst _ call v hv
    rw [(ambiguous m hm 2).2 rfl]
    exact and_iff_left ⟨rfl, by decide⟩
  · intro st hst call v hv w obtained
    obtain ⟨visible, -, shows, agrees, -⟩ := during st hst _ call v hv
    obtain rfl : visible = LooksAround.narrow := shows
    have only : WindowSet.single .global = .single w := agrees.window w obtained
    exact (List.singleton_inj.mp (congrArg WindowSet.windows only)).symm

end BundleRunner
