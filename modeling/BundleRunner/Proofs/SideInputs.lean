import BundleRunner.Proofs.Views

namespace BundleRunner

/-!
# The value of a side input

A side input is read from values that were registered in advance, some for one window and some for
any.  This file says which of them is read, and what a callback is answered that asks for it:

* `StaticReader.ofRegistrations` — the reader that comes of a sequence of registrations;
* `Registration.consulted?` — the value that counts for a read: the last one registered for its
  window, or else the last one for any window;
* `StaticReader.find?_ofRegistrations` — this is the value that the reader finds;
* `Invocation.readChecks`, `Registration.valueChecks` — the checks before and after a read;
* `Invocation.AnswersRead` — what a request comes to, by these checks;
* `side_input_exact` — every request for a side input in a run, and the number of reads.

The two kinds of registration go into two tables, so how they are interleaved cannot matter.  A value
for the window hides the one for any window whatever its type is, because the type is compared only
after the value was found.
-/

variable {α β σ : Type}

/-! ### Registrations -/

/-- A value registered with a reader. -/
inductive Registration where
  /-- For a view in any window. -/
  | anyWindow (view : String) (value : Value)
  /-- For a view in one window. -/
  | oneWindow (view : String) (window : Window) (value : Value)

namespace Registration

/-- The value registered for the window of a read, if it is one. -/
def valueIn? (read : ViewRead) : Registration → Option Value
  | oneWindow view window value => if ⟨view, window⟩ = read then some value else none
  | anyWindow _ _ => none

/-- The value registered for a view in any window, if it is one. -/
def valueAnywhere? (view : String) : Registration → Option Value
  | anyWindow view' value => if view' = view then some value else none
  | oneWindow .. => none

/-- The value that counts for a read: the last one registered for its window, or else the last one
    registered for its view in any window. -/
def consulted? (registered : List Registration) (read : ViewRead) : Option Value :=
  (registered.filterMap (valueIn? read)).getLast?.or
    (registered.filterMap (valueAnywhere? read.view)).getLast?

/-- The last value of a list that starts with one entry more. -/
theorem getLast?_filterMap_cons (f : Registration → Option Value) (first : Registration)
    (rest : List Registration) (otherwise : Option Value) :
    ((first :: rest).filterMap f).getLast?.or otherwise =
      (rest.filterMap f).getLast?.or ((f first).or otherwise) := by
  cases found : f first with
  | none => rw [List.filterMap_cons_none found, Option.none_or]
  | some value =>
    rw [List.filterMap_cons_some found, List.getLast?_cons]
    cases (rest.filterMap f).getLast? <;> rfl

end Registration

namespace StaticReader

/-- The reader with one value more. -/
def register (s : StaticReader) : Registration → StaticReader
  | .anyWindow view value => s.withValue view value
  | .oneWindow view window value => s.withWindowValue view window value

/-- The reader that comes of registrations, one after the other. -/
def ofRegistrations (registered : List Registration) : StaticReader :=
  registered.foldl register empty

/-- The value for the window of a read. -/
def valueIn? (s : StaticReader) (read : ViewRead) : Option Value :=
  (s.perWindow.find? (·.1 == read)).map (·.2)

/-- The value for a view in any window. -/
def valueAnywhere? (s : StaticReader) (view : String) : Option Value :=
  (s.anyWindow.find? (·.1 == view)).map (·.2)

theorem find?_eq (s : StaticReader) (read : ViewRead) :
    s.find? read = (s.valueIn? read).or (s.valueAnywhere? read.view) := by
  unfold find? valueIn? valueAnywhere?
  cases s.perWindow.find? (·.1 == read) <;> rfl

/-- A registration for a window counts before those that were there, and no other does. -/
theorem valueIn?_register (s : StaticReader) (r : Registration) (read : ViewRead) :
    (s.register r).valueIn? read = (r.valueIn? read).or (s.valueIn? read) := by
  cases r with
  | anyWindow view value => rfl
  | oneWindow view window value =>
    by_cases same : ⟨view, window⟩ = read
    · simp [register, withWindowValue, valueIn?, Registration.valueIn?, same]
    · simp [register, withWindowValue, valueIn?, Registration.valueIn?, same]

/-- So does a registration for any window. -/
theorem valueAnywhere?_register (s : StaticReader) (r : Registration) (view : String) :
    (s.register r).valueAnywhere? view = (r.valueAnywhere? view).or (s.valueAnywhere? view) := by
  cases r with
  | oneWindow view' window value => rfl
  | anyWindow view' value =>
    by_cases same : view' = view
    · simp [register, withValue, valueAnywhere?, Registration.valueAnywhere?, same]
    · simp [register, withValue, valueAnywhere?, Registration.valueAnywhere?, same]

/-- A table to which each registration adds what it says finds the last that was added. -/
theorem foldl_register (table : StaticReader → Option Value) (f : Registration → Option Value)
    (adds : ∀ s r, table (s.register r) = (f r).or (table s)) (registered : List Registration)
    (s : StaticReader) :
    table (registered.foldl register s) = (registered.filterMap f).getLast?.or (table s) := by
  -- by the registrations, from the reader that each of them finds
  induction registered generalizing s with
  | nil => rfl
  | cons r registered ih =>
    rw [List.foldl_cons, ih, adds, Registration.getLast?_filterMap_cons]

/-- **The value found.** A reader finds the value that counts, in whatever order the two kinds of
    values were registered. -/
theorem find?_ofRegistrations (registered : List Registration) (read : ViewRead) :
    (ofRegistrations registered).find? read = Registration.consulted? registered read := by
  -- each table is filled by the registrations of its own kind, whatever stands between them
  have inWindow := foldl_register (·.valueIn? read) (·.valueIn? read)
    (fun s r => s.valueIn?_register r read) registered empty
  have anywhere := foldl_register (·.valueAnywhere? read.view) (·.valueAnywhere? read.view)
    (fun s r => s.valueAnywhere?_register r read.view) registered empty
  have none : empty.valueIn? read = none ∧ empty.valueAnywhere? read.view = none := ⟨rfl, rfl⟩
  rw [none.1, Option.or_none] at inWindow
  rw [none.2, Option.or_none] at anywhere
  rw [find?_eq, Registration.consulted?, ofRegistrations, inWindow, anywhere]

end StaticReader

/-! ### One request -/

/-- The checks before a read: the signal is not raised, the view is declared, and there are not
    several windows. -/
def Invocation.readChecks (i : Invocation α) (s : ElementState β) (view : String) :
    List (Except Fault Unit) :=
  [s.run.interrupt.check,
   if view ∈ i.plan.sideInputs.declared then .ok () else .error (.notASideInput view),
   if 1 < i.record.windows.size then .error (.ambiguousWindow i.record.windows.size) else .ok ()]

/-- The checks after a read: a value was registered, and it is of the type that is asked for. -/
def Registration.valueChecks (registered : List Registration) (read : ViewRead)
    (type : ValueType) : List (Except Fault Unit) :=
  match consulted? registered read with
  | none => [.error (StaticReader.missing read)]
  | some value =>
    [if value.type = type then .ok () else .error (.sideInputTypeMismatch read.view type.name)]

namespace Invocation

/-- The window of a read is the only one of the element, and the first check that fails is the one
    that the request fails with. -/
theorem readWindow_cases (i : Invocation α) (s : ElementState β) (view : String) :
    (∃ fault, firstFault? (i.readChecks s view) = some fault ∧ i.readWindow s view = .error fault) ∨
    (∃ w, firstFault? (i.readChecks s view) = none ∧ i.readWindow s view = .ok w ∧
      i.record.windows = .single w) := by
  rw [i.readWindow_eq, readChecks]
  -- the signal, the declaration, and the number of windows, in this order
  cases s.run.interrupt.check with
  | error fault => exact .inl ⟨fault, rfl, rfl⟩
  | ok u =>
    by_cases declared : view ∈ i.plan.sideInputs.declared
    · have passes : i.plan.sideInputs.ensureDeclared view = .ok () := by
        simp [SideInputs.ensureDeclared, declared]
      rw [passes, if_pos declared]
      cases only : i.scope.onlyWindow with
      | error fault =>
        obtain ⟨rfl, many⟩ := InvocationScope.onlyWindow_eq_error_iff.mp only
        have several : 1 < i.record.windows.size := many
        rw [if_pos several]
        exact .inl ⟨_, rfl, rfl⟩
      | ok w =>
        have single : i.record.windows = .single w := InvocationScope.onlyWindow_eq_ok_iff.mp only
        have one : ¬ 1 < i.record.windows.size := by
          rw [single]
          exact Nat.lt_irrefl 1
        rw [if_neg one]
        exact .inr ⟨w, rfl, rfl, single⟩
    · have fails : i.plan.sideInputs.ensureDeclared view = .error (.notASideInput view) := by
        simp [SideInputs.ensureDeclared, declared]
      rw [fails, if_neg declared]
      exact .inl ⟨_, rfl, rfl⟩

/-- What a request for a side input leaves behind and is answered, when the values of the views are
    registered ones. -/
structure AnswersRead (i : Invocation α) (registered : List Registration) (view : String)
    (type : ValueType) (s s' : ElementState β) (answer : Except Fault type.Carrier) : Prop where
  /-- Nothing but the reads changes. -/
  rest : s' = ⟨{ s.run with reads := s'.run.reads }, s.answers⟩
  /-- A check before the read fails: nothing is read. -/
  refused : ∀ fault, firstFault? (i.readChecks s view) = some fault →
    answer = .error fault ∧ s'.run.reads = s.run.reads
  /-- All checks before the read are passed: there is one window, and the view is read for it.  The
      checks after the read decide on the answer, and the value that counts is the answer. -/
  passed : firstFault? (i.readChecks s view) = none →
    ∃ w, i.record.windows = .single w ∧ s'.run.reads = s.run.reads ++ [⟨view, w⟩] ∧
      (∀ fault, firstFault? (Registration.valueChecks registered ⟨view, w⟩ type) = some fault →
        answer = .error fault) ∧
      (∀ x, Registration.consulted? registered ⟨view, w⟩ = some ⟨type, x⟩ → answer = .ok x) ∧
      -- a value for the window hides those for any window, even if it is of another type
      (∀ value, (registered.filterMap (·.valueIn? ⟨view, w⟩)).getLast? = some value →
        value.type ≠ type → answer = .error (.sideInputTypeMismatch view type.name))

/-- The reader's answer, as a value of the type that is asked for. -/
theorem typed_toReader (registered : List Registration) (past : List ViewRead) (read : ViewRead)
    (type : ValueType) :
    SideInputs.typed read.view type
        ((StaticReader.ofRegistrations registered).toReader.answer past read) =
      match Registration.consulted? registered read with
      | none => .error (StaticReader.missing read)
      | some value =>
        match value.as? type with
        | some x => .ok x
        | none => .error (.sideInputTypeMismatch read.view type.name) := by
  simp only [StaticReader.toReader, StaticReader.find?_ofRegistrations]
  cases Registration.consulted? registered read <;> rfl

/-- The first check of the value that fails is the fault of the reader's answer. -/
theorem typed_of_valueChecks {registered : List Registration} {read : ViewRead} {type : ValueType}
    {fault : Fault} (first : firstFault? (Registration.valueChecks registered read type) = some fault)
    (past : List ViewRead) :
    SideInputs.typed read.view type
        ((StaticReader.ofRegistrations registered).toReader.answer past read) = .error fault := by
  rw [typed_toReader]
  cases counts : Registration.consulted? registered read with
  | none =>
    simp only [Registration.valueChecks, counts, firstFault?] at first
    obtain rfl := Option.some.inj first
    rfl
  | some value =>
    simp only [Registration.valueChecks, counts] at first
    by_cases same : value.type = type
    · rw [if_pos same] at first
      exact absurd first (by simp [firstFault?])
    · rw [if_neg same] at first
      obtain rfl := Option.some.inj first
      simp only [Value.as?_eq_none_iff.mpr same]

/-- **One request.** A request for a side input is answered as its checks and the registrations
    say. -/
theorem answersRead_sideInput {i : Invocation α} {registered : List Registration}
    (reader : i.plan.sideInputs.reader = (StaticReader.ofRegistrations registered).toReader)
    (view : String) (type : ValueType) (s : ElementState β) :
    i.AnswersRead registered view type s (i.sideInput view type s).1
      (i.sideInput view type s).2 := by
  rcases i.readWindow_cases s view with ⟨fault, first, fails⟩ | ⟨w, passes, found, single⟩
  · simp only [sideInput, fails]
    refine ⟨rfl, fun fault' first' => ?_, fun passes => absurd (first.symm.trans passes) (by simp)⟩
    obtain rfl := Option.some.inj (first.symm.trans first')
    exact ⟨rfl, rfl⟩
  · simp only [sideInput, found, reader]
    refine ⟨rfl, fun fault first => absurd (passes.symm.trans first) (by simp), fun _ => ?_⟩
    -- the reader is asked, and what it answers does not depend on the reads before
    have answer := typed_toReader registered s.run.reads ⟨view, w⟩ type
    dsimp only at answer
    refine ⟨w, single, rfl, ?_, ?_, ?_⟩
    · intro fault first
      exact typed_of_valueChecks first s.run.reads
    · intro x counts
      rw [answer, counts]
      simp only [Value.as?_mk]
    · intro value last other
      have counts : Registration.consulted? registered ⟨view, w⟩ = some value := by
        rw [Registration.consulted?, last]
        rfl
      rw [answer, counts]
      simp only [Value.as?_eq_none_iff.mpr other]

end Invocation

/-! ### Runs -/

namespace Moment

/-- The request is for a side input, and passes the checks before the read. -/
def consults : Moment α β → Bool
  | element i (.sideInput view _) s => (firstFault? (i.readChecks s view)).isNone
  | _ => false

/-- One read more reaches the reader where a request passes the checks before, and none where it is
    for something else or does not pass. -/
theorem length_read (m : Moment α β) : m.read.length = if m.consults then 1 else 0 := by
  cases m with
  | bundle windowFn request s =>
    rcases read_cases (.bundle windowFn request s) with none | ⟨_, _, _, _, _, other, -⟩
    · rw [read_eq none]
      rfl
    · exact absurd other (by simp)
  | element i request s =>
    cases request with
    | sideInput view type =>
      -- a check that fails comes before the read, and a type that is wrong after it
      rcases i.readWindow_cases s view with ⟨fault, first, fails⟩ | ⟨w, passes, found, -⟩
      · have none : (element i (.sideInput view type) s).after.reads = s.run.reads ++ [] := by
          simp [after, ElementRequest.perform, Invocation.sideInput, fails]
        rw [read_eq none, consults, first]
        rfl
      · have one : (element i (.sideInput view type) s).after.reads = s.run.reads ++ [⟨view, w⟩] := by
          simp [after, ElementRequest.perform, Invocation.sideInput, found]
        rw [read_eq one, consults, passes]
        rfl
    | _ =>
      rcases read_cases (.element i _ s) with none | ⟨_, _, _, _, _, other, -⟩
      · rw [read_eq none]
        rfl
      · exact absurd other (by simp)

/-- So many reads reach the reader as there are requests that pass the checks before. -/
theorem length_flatMap_read (ms : List (Moment α β)) :
    (ms.flatMap read).length = ms.countP consults := by
  induction ms with
  | nil => rfl
  | cons m ms ih =>
    rw [List.flatMap_cons, List.length_append, ih, length_read, List.countP_cons, Nat.add_comm]

end Moment

/-- Requests of an invocation are made while a record is processed, and in the invocation for it. -/
theorem Visit.process_of_element {v : Visit α β σ} {i : Invocation α} {request : ElementRequest β}
    {s : ElementState β} (during : .element i request s ∈ v.moments) :
    v.entrance = .process i.record ∧ i = v.runner.invocation i.record := by
  obtain ⟨entrance, r⟩ := v
  cases entrance with
  | process visible =>
    obtain ⟨request', s', same⟩ := exists_element (v := ⟨.process visible, r⟩) rfl during
    obtain ⟨rfl, -⟩ := Moment.element.inj same
    exact ⟨rfl, rfl⟩
  | start =>
    obtain ⟨asked, -, other⟩ := List.mem_map.mp during
    exact absurd other (by simp)
  | finish =>
    obtain ⟨asked, -, other⟩ := List.mem_map.mp during
    exact absurd other (by simp)

/-- **The value of a side input.**  A runner was built with registered values of views.  In every
    run, each request for a side input is answered by the first check that fails: the signal is not
    raised, the view is declared, the element lies in one window, a value was registered, and it is
    of the type that is asked for.  If none fails, the answer is the value that counts.  A read
    reaches the reader exactly when the first three are passed, so the number of reads is the number
    of these requests. -/
theorem side_input_exact (callback : Callback α β σ) (state : σ) (binding : Binding α β)
    (settings : Settings) (registered : List Registration)
    (reader : binding.reader = (StaticReader.ofRegistrations registered).toReader)
    (r : Runner α β σ) (built : (Runner.build callback state binding settings).outcome = .done r)
    (calls : List (Call α)) :
    (∀ st ∈ (Session.ofRunner r).stages calls, ∀ v ∈ st.visits, ∀ i view type s,
      .element i (.sideInput view type) s ∈ v.moments →
        i.plan.sideInputs.declared = binding.views ∧ v.entrance = .process i.record ∧
        i.AnswersRead registered view type s (i.sideInput view type s).1
          (i.sideInput view type s).2) ∧
    (∀ m : Moment α β,
      m.after.reads.length = m.before.reads.length + if m.consults then 1 else 0) ∧
    ((Session.ofRunner r).performAll calls).1.runner.run.reads.length =
      (((Session.ofRunner r).stages calls).flatMap Stage.moments).countP Moment.consults := by
  obtain ⟨_, _, fresh⟩ := Runner.silent_of_build built
  refine ⟨fun st hst v hv i view type s during => ?_, fun m => ?_, ?_⟩
  · obtain ⟨entered, invocation⟩ := Visit.process_of_element during
    have same : i.plan = Runner.planOf callback binding settings := by
      rw [invocation]
      exact Visit.plan_of_build built hst hv
    have declared : i.plan.sideInputs = ⟨binding.views, binding.reader⟩ := by
      rw [same]
      rfl
    have registers : i.plan.sideInputs.reader =
        (StaticReader.ofRegistrations registered).toReader := by
      rw [declared]
      exact reader
    exact ⟨congrArg SideInputs.declared declared, entered,
      Invocation.answersRead_sideInput registers view type s⟩
  · rw [m.reads_after, List.length_append, m.length_read]
  · have none : (Session.ofRunner r).runner.run.reads = [] := congrArg RunState.reads fresh
    have read := (Session.ofRunner r).view_performAll RunState.reads Moment.read (fun _ => rfl)
      (fun e silent => e.reads_after (Event.part_ne_of_silent silent rfl)) Moment.reads_after calls
    rw [read, none, List.nil_append, ← Moment.length_flatMap_read, List.flatMap_assoc]

/-! ### A callback that looks values up

Rates are registered for any window, before and after a text for the whole of time.  The callback
looks the rates of its element up as a number, and then prices, which are not declared.
-/

namespace LooksUp

/-- Looks rates and prices up, and is done. -/
def callback : Callback Nat Nat Unit :=
  .ofProcess fun _ state =>
    .ask (.sideInput "rates" .unsigned) fun _ =>
      .ask (.sideInput "prices" .unsigned) fun _ => .stop state (.done ())

/-- Two rates for any window, and between them a text for the whole of time. -/
def registered : List Registration :=
  [.anyWindow "rates" ⟨.unsigned, (2 : Nat)⟩, .oneWindow "rates" .global ⟨.text, "none"⟩,
    .anyWindow "rates" ⟨.unsigned, (3 : Nat)⟩]

/-- A transform with the view of the rates. -/
def binding : Binding Nat Nat :=
  ⟨{ Declarations.ofMain .collecting with
      views := ["rates"]
      reader := (StaticReader.ofRegistrations registered).toReader },
    List.nodup_nil, by decide⟩

/-- A record at the epoch, in the windows that are given. -/
def record (windows : WindowSet) : Record Nat := ⟨1, .epoch, windows⟩

/-- One bundle with a record in two windows, and a record in each of them. -/
def calls : List (Call Nat) :=
  [.openBundle, .start, .process EarlyEcho.record, .process (record .global),
    .process (record (.single (.interval EarlyEcho.tenMillis))), .finish]

end LooksUp

/-- Two reads reach the reader.  In the whole of time the text hides the rates, and in the other
    window the last rate is read. -/
theorem side_input_exact_looksUp :
    ∃ r, (Runner.build LooksUp.callback () LooksUp.binding .default).outcome = .done r ∧
      ((Session.ofRunner r).performAll LooksUp.calls).1.runner.run.reads.length = 2 ∧
      ∀ st ∈ (Session.ofRunner r).stages LooksUp.calls, ∀ v ∈ st.visits, ∀ i s,
        .element i (.sideInput "rates" .unsigned) s ∈ v.moments → s.run.interrupt = .clear →
          (i.record.windows = .global →
            (i.sideInput "rates" .unsigned s).2 = .error (.sideInputTypeMismatch "rates" "u64")) ∧
          (i.record.windows = .single (.interval EarlyEcho.tenMillis) →
            (i.sideInput "rates" .unsigned s).2 = .ok (3 : Nat)) := by
  refine ⟨_, rfl, ?_, ?_⟩
  · obtain ⟨-, -, total⟩ := side_input_exact LooksUp.callback () LooksUp.binding .default
      LooksUp.registered rfl _ rfl LooksUp.calls
    exact total.trans rfl
  · intro st hst v hv i s during clear
    obtain ⟨answered, -⟩ := side_input_exact LooksUp.callback () LooksUp.binding .default
      LooksUp.registered rfl _ rfl LooksUp.calls
    obtain ⟨declared, -, answers⟩ := answered st hst v hv i _ _ s during
    have passes : ∀ w, i.record.windows = .single w →
        firstFault? (i.readChecks s "rates") = none := by
      intro w single
      rw [Invocation.readChecks, clear, Interrupt.check_clear, declared, single,
        WindowSet.size_single]
      rfl
    constructor
    · intro whole
      obtain ⟨w, single, -, -, -, hidden⟩ := answers.passed (passes .global whole)
      obtain rfl : w = .global :=
        (List.singleton_inj.mp (congrArg WindowSet.windows (single.symm.trans whole)))
      exact hidden ⟨.text, "none"⟩ rfl (by decide)
    · intro narrow
      obtain ⟨w, single, -, -, found, -⟩ := answers.passed (passes _ narrow)
      obtain rfl : w = .interval EarlyEcho.tenMillis :=
        (List.singleton_inj.mp (congrArg WindowSet.windows (single.symm.trans narrow)))
      exact found (3 : Nat) rfl

end BundleRunner
