import BundleRunner.Aggregator.Registry

namespace BundleRunner

/-!
# Aggregates as a map

A registry keeps accumulators behind names, and hands out handles that share them.  Seen from
outside it is a map from names to accounts: an account has the types and the combiner that a name
was registered with, and all inputs that were given to it since.  This file says what each call does
to such a map, and proves that a registry answers every sequence of calls like it:

* `RegistryCall` — the calls on a registry and on its handles;
* `Account`, `Book` — a registered name with its inputs, and the map of all of them;
* `Book.Describes` — a registry is what a book says;
* `Book.Describes.perform` — one call: the registry answers like the book, and is described by it
  afterwards;
* `Registry.Ran` — a history of calls with their answers, from one registry to another;
* `Book.Describes.after` — the same for a whole history;
* `Book.after_of_some` — an account never goes, and takes every input that is given under its name;
* `Book.after_eq_some_iff` — the accounts are those that the history records, whatever the book;
* `Dealing.lawful` — what every call of a history does, for each kind of call;
* `Registry.keeps_of_ran` — all of it, wherever a history is cut into a past and a future.
-/

/-! ### Calls -/

/-- A call on a registry, or on a handle that it has handed out. -/
inductive RegistryCall : Type 1 where
  /-- Register a combiner under a name. -/
  | create (name : String) (input output : ValueType)
      (combiner : Combiner input.Carrier output.Carrier)
  /-- Ask for the handle on a name. -/
  | get (name : String) (input output : ValueType)
  /-- Copy a handle. -/
  | copy (input output : ValueType) (handle : Aggregator input output)
  /-- Give one more input through a handle. -/
  | add (input output : ValueType) (handle : Aggregator input output) (x : input.Carrier)
  /-- Read the result through a handle. -/
  | value (input output : ValueType) (handle : Aggregator input output)

namespace RegistryCall

/-- Register a function that reduces a list of values to one. -/
def createSimple (name : String) (type : ValueType)
    (reduce : List type.Carrier → type.Carrier) : RegistryCall :=
  create name type type (.reducing reduce)

/-- The answer to a call. -/
@[reducible] def Answer : RegistryCall → Type
  | create _ input output _ => Except Fault (Aggregator input output)
  | get _ input output => Option (Aggregator input output)
  | copy input output _ => Aggregator input output
  | add .. => Unit
  | value _ output _ => Option output.Carrier

end RegistryCall

/-- What a registry makes of a call, and how it answers. -/
def Registry.perform (r : Registry) : (call : RegistryCall) → Registry × call.Answer
  | .create name _ _ combiner =>
    let made := r.create name combiner
    (made.registry, made.outcome)
  | .get name input output => (r, r.get? name input output)
  | .copy _ _ handle => (r, handle)
  | .add _ _ handle x => (r.add handle x, ())
  | .value _ _ handle => (r, r.value? handle)

/-! ### Accounts -/

/-- What a name was registered with, and the inputs that were given to it since, in order. -/
structure Account : Type 1 where
  input : ValueType
  output : ValueType
  combiner : Combiner input.Carrier output.Carrier
  inputs : List input.Carrier

namespace Account

/-- The account with more inputs. -/
def extend (a : Account) (xs : List a.input.Carrier) : Account :=
  { a with inputs := a.inputs ++ xs }

@[simp] theorem extend_nil (a : Account) : a.extend [] = a := by
  simp [extend]

theorem extend_extend (a : Account) (xs ys : List a.input.Carrier) :
    (a.extend xs).extend ys = a.extend (xs ++ ys) :=
  congrArg (fun inputs => ({ a with inputs } : Account)) (List.append_assoc a.inputs xs ys)

/-- The account with one more input, if it has the type that the account takes. -/
def take (a : Account) {input : ValueType} (x : input.Carrier) : Account :=
  a.extend ((Value.mk input x).as? a.input).toList

/-- The result: what the combiner makes of all inputs, folded in order. -/
def result (a : Account) : a.output.Carrier := a.combiner.output (a.combiner.fold a.inputs)

/-- The entry that a registry has for the account under a name. -/
def entry (name : String) (a : Account) : Aggregation :=
  ⟨name, a.input, a.output, a.combiner, a.combiner.fold a.inputs⟩

@[simp] theorem name_entry (name : String) (a : Account) : (a.entry name).name = name := rfl

theorem entry_take (a : Account) (name : String) {input : ValueType} (x : input.Carrier) :
    (a.take x).entry name = (a.entry name).feed x := by
  obtain ⟨type, output, combiner, inputs⟩ := a
  by_cases same : input = type
  · subst same
    have folded : combiner.fold (inputs ++ [x]) = combiner.add (combiner.fold inputs) x :=
      combiner.fold_append_singleton inputs x
    simp [take, extend, entry, Aggregation.feed, folded]
  · simp [take, extend, entry, Aggregation.feed, Value.as?, same]

end Account

/-- A map from names to accounts. -/
def Book : Type 1 := String → Option Account

namespace Book

/-- No accounts. -/
def empty : Book := fun _ => none

/-- The book with an account under a name. -/
def set (b : Book) (name : String) (a : Account) : Book :=
  fun other => if other = name then some a else b other

/-- Open an account under a name that is neither blank nor taken. -/
def create (b : Book) (name : String) {input output : ValueType}
    (combiner : Combiner input.Carrier output.Carrier) :
    Book × Except Fault (Aggregator input output) :=
  if Text.isBlank name then (b, .error (.nullArgument "name"))
  else if (b name).isSome then (b, .error (.duplicateName "aggregator" name))
  else (b.set name ⟨input, output, combiner, []⟩, .ok ⟨name⟩)

/-- The handle on an account, if its types are the ones asked for. -/
def get? (b : Book) (name : String) (input output : ValueType) :
    Option (Aggregator input output) :=
  match b name with
  | some a => if a.input = input ∧ a.output = output then some ⟨name⟩ else none
  | none => none

/-- Give one more input to the account under a name. -/
def add (b : Book) (name : String) {input : ValueType} (x : input.Carrier) : Book :=
  fun other => (b other).map fun a => if other = name then a.take x else a

/-- The result of the account under a name. -/
def value? (b : Book) (name : String) (output : ValueType) : Option output.Carrier :=
  (b name).bind fun a => (Value.mk a.output a.result).as? output

/-- What a book makes of a call, and how it answers. -/
def perform (b : Book) : (call : RegistryCall) → Book × call.Answer
  | .create name _ _ combiner => b.create name combiner
  | .get name input output => (b, b.get? name input output)
  | .copy _ _ handle => (b, handle)
  | .add _ _ handle x => (b.add handle.name x, ())
  | .value _ output handle => (b, b.value? handle.name output)

/-- A registry is what the book says: one entry for each account, under its name. -/
structure Describes (b : Book) (r : Registry) : Prop where
  different : (r.entries.map Aggregation.name).Nodup
  find : ∀ name, r.find? name = (b name).map (Account.entry name)

end Book

/-! ### One call -/

namespace Registry

theorem contains_eq_isSome_find? (r : Registry) (name : String) :
    r.contains name = (r.find? name).isSome := by
  rw [contains, find?, List.isSome_find?]

/-- The entries under the other names stay as they are. -/
theorem find?_add (r : Registry) {input output : ValueType} (handle : Aggregator input output)
    (x : input.Carrier) (name : String) :
    (r.add handle x).find? name =
      (r.find? name).map fun e => if e.name == handle.name then e.feed x else e := by
  have same : ((fun e : Aggregation => e.name == name) ∘
      fun e : Aggregation => if e.name == handle.name then e.feed x else e) =
        fun e => e.name == name := by
    funext e
    simp only [Function.comp_apply]
    split
    · rw [Aggregation.name_feed]
    · rfl
  rw [find?, find?, add, List.find?_map, same]

theorem names_add (r : Registry) {input output : ValueType} (handle : Aggregator input output)
    (x : input.Carrier) :
    (r.add handle x).entries.map Aggregation.name = r.entries.map Aggregation.name := by
  rw [add, List.map_map]
  refine List.map_congr_left fun e _ => ?_
  simp only [Function.comp_apply]
  split
  · rw [Aggregation.name_feed]
  · rfl

end Registry

namespace Book

/-- The empty registry is what the empty book says. -/
theorem describes_empty : empty.Describes .empty :=
  ⟨List.nodup_nil, fun _ => rfl⟩

variable {b : Book} {r : Registry}

namespace Describes

/-- A name is taken in both or in neither. -/
theorem contains_eq (h : b.Describes r) (name : String) : r.contains name = (b name).isSome := by
  rw [r.contains_eq_isSome_find?, h.find, Option.isSome_map]

/-- A name cannot be registered for the same reason. -/
theorem obstacle?_eq (h : b.Describes r) (name : String) :
    r.obstacle? name =
      if Text.isBlank name then some (.nullArgument "name")
      else if (b name).isSome then some (.duplicateName "aggregator" name)
      else none := by
  rw [Registry.obstacle?, h.contains_eq]

theorem create (h : b.Describes r) (name : String) {input output : ValueType}
    (combiner : Combiner input.Carrier output.Carrier) :
    (r.create name combiner).outcome = (b.create name combiner).2 ∧
      (b.create name combiner).1.Describes (r.create name combiner).registry := by
  have obstacle := h.obstacle?_eq name
  unfold Book.create
  -- the name is blank, or taken, or free: registry and book look in the same order
  by_cases blank : Text.isBlank name = true
  · rw [if_pos blank] at obstacle ⊢
    rw [Registry.create_of_obstacle obstacle]
    exact ⟨rfl, h⟩
  · by_cases taken : (b name).isSome = true
    · rw [if_neg blank, if_pos taken] at obstacle ⊢
      rw [Registry.create_of_obstacle obstacle]
      exact ⟨rfl, h⟩
    · rw [if_neg blank, if_neg taken] at obstacle ⊢
      rw [Registry.create_of_free obstacle]
      have absent : r.find? name = none := by
        rw [h.find, Option.map_eq_none_iff]
        exact Option.not_isSome_iff_eq_none.mp taken
      -- the new entry comes last, so that a lookup of an old name still finds the old entry
      refine ⟨rfl, ?_, fun other => ?_⟩
      · rw [List.map_append, List.nodup_append]
        refine ⟨h.different, List.pairwise_singleton _ _, ?_⟩
        intro used member new hnew same
        obtain rfl : new = name := List.mem_singleton.mp hnew
        obtain ⟨e, he, rfl⟩ := List.mem_map.mp member
        have found := List.find?_eq_none.mp absent e he
        exact found (by simpa using same)
      · show (r.entries ++ [_]).find? (fun e : Aggregation => e.name == other) = _
        rw [List.find?_append]
        show (r.find? other).or _ = (b.set name _ other).map _
        rw [Book.set]
        by_cases same : other = name
        · subst same
          rw [absent, if_pos rfl]
          simp [Account.entry]
        · have differs : (name == other) = false := by simpa using Ne.symm same
          rw [if_neg same, h.find]
          simp [differs]

theorem add (h : b.Describes r) {input output : ValueType} (handle : Aggregator input output)
    (x : input.Carrier) : (b.add handle.name x).Describes (r.add handle x) := by
  refine ⟨(r.names_add handle x).symm ▸ h.different, fun name => ?_⟩
  rw [r.find?_add, h.find, Book.add]
  cases b name with
  | none => rfl
  | some a =>
    simp only [Option.map_some]
    by_cases same : name = handle.name
    · have meets : ((a.entry name).name == handle.name) = true := by simpa using same
      rw [if_pos meets, if_pos same, Account.entry_take]
    · have differs : ¬ ((a.entry name).name == handle.name) = true := by simpa using same
      rw [if_neg differs, if_neg same]

/-- **One call.** A registry that is described by a book answers every call like the book, and is
    described by it afterwards. -/
theorem perform (h : b.Describes r) (call : RegistryCall) :
    (r.perform call).2 = (b.perform call).2 ∧
      (b.perform call).1.Describes (r.perform call).1 := by
  cases call with
  | create name input output combiner => exact h.create name combiner
  | get name input output =>
    refine ⟨?_, h⟩
    simp only [Registry.perform, Registry.get?, Book.perform, Book.get?, h.find]
    cases b name <;> rfl
  | copy input output handle => exact ⟨rfl, h⟩
  | add input output handle x => exact ⟨rfl, h.add handle x⟩
  | value input output handle =>
    refine ⟨?_, h⟩
    simp only [Registry.perform, Registry.value?, Book.perform, Book.value?, h.find]
    cases b handle.name <;> rfl

end Describes

end Book

/-! ### Histories -/

/-- A call, and the answer that was given to it. -/
structure Dealing : Type 1 where
  call : RegistryCall
  answer : call.Answer

namespace Dealing

/-- The input that a dealing gives under a name, if it gives one of the type. -/
def input? (name : String) (type : ValueType) (d : Dealing) : Option type.Carrier :=
  match d.call with
  | .add input _ handle x => if handle.name = name then (Value.mk input x).as? type else none
  | _ => none

/-- The inputs that a history gives under a name, in order. -/
def inputsTo (name : String) (type : ValueType) (history : List Dealing) : List type.Carrier :=
  history.filterMap (·.input? name type)

/-- The name and the types of the handle that a dealing hands out, if it does. -/
def handle? : Dealing → Option (String × ValueType × ValueType)
  | ⟨.create name input output _, .ok _⟩ => some (name, input, output)
  | ⟨.get name input output, some _⟩ => some (name, input, output)
  | _ => none

end Dealing

/-- The calls of a history, with the answers that they were given, lead from one registry to
    another. -/
def Registry.Ran : Registry → List Dealing → Registry → Prop
  | r, [], r' => r = r'
  | r, d :: ds, r' => d.answer = (r.perform d.call).2 ∧ Ran (r.perform d.call).1 ds r'

/-- A history in two parts. -/
theorem Registry.ran_append {r r' : Registry} {xs ys : List Dealing} :
    r.Ran (xs ++ ys) r' ↔ ∃ between, r.Ran xs between ∧ between.Ran ys r' := by
  induction xs generalizing r with
  | nil => exact ⟨fun h => ⟨r, rfl, h⟩, fun ⟨between, same, h⟩ => (show r = between from same) ▸ h⟩
  | cons d ds ih =>
    constructor
    · rintro ⟨answer, rest⟩
      obtain ⟨between, first, second⟩ := ih.mp rest
      exact ⟨between, ⟨answer, first⟩, second⟩
    · rintro ⟨between, ⟨answer, first⟩, second⟩
      exact ⟨answer, ih.mpr ⟨between, first, second⟩⟩

namespace Book

/-- The book after the calls of a history. -/
def after (b : Book) (history : List Dealing) : Book :=
  history.foldl (fun b d => (b.perform d.call).1) b

/-- **Histories.** A registry that is described by a book is so after any history. -/
theorem Describes.after {b : Book} {r r' : Registry} {history : List Dealing} (h : b.Describes r)
    (ran : r.Ran history r') : (b.after history).Describes r' := by
  induction history generalizing b r with
  | nil => exact (show r = r' from ran) ▸ h
  | cons d ds ih => exact ih (h.perform d.call).2 ran.2

/-! ### Accounts over a history -/

variable {b : Book} {name : String} {a : Account}

/-- A registration fails and leaves the book, or opens an account under a free name. -/
theorem create_cases (b : Book) (name : String) {input output : ValueType}
    (combiner : Combiner input.Carrier output.Carrier) :
    (∃ fault, b.create name combiner = (b, .error fault)) ∨
      Text.isBlank name = false ∧ b name = none ∧
        b.create name combiner = (b.set name ⟨input, output, combiner, []⟩, .ok ⟨name⟩) := by
  unfold create
  by_cases blank : Text.isBlank name = true
  · rw [if_pos blank]
    exact Or.inl ⟨_, rfl⟩
  · by_cases taken : (b name).isSome = true
    · rw [if_neg blank, if_pos taken]
      exact Or.inl ⟨_, rfl⟩
    · rw [if_neg blank, if_neg taken]
      exact Or.inr ⟨by simpa using blank, Option.not_isSome_iff_eq_none.mp taken, rfl⟩

/-- To open an account leaves the others. -/
theorem create_of_some (known : b name = some a) (other : String) {input output : ValueType}
    (combiner : Combiner input.Carrier output.Carrier) :
    (b.create other combiner).1 name = some a := by
  rcases b.create_cases other combiner with ⟨fault, fails⟩ | ⟨-, free, opens⟩
  · rw [fails]
    exact known
  · have different : name ≠ other := by
      rintro rfl
      exact absurd (free.symm.trans known) (by simp)
    rw [opens]
    exact (if_neg different).trans known

/-- A call leaves every account, with the input that it gives under the name. -/
theorem perform_of_some (known : b name = some a) (d : Dealing) :
    (b.perform d.call).1 name = some (a.extend (d.input? name a.input).toList) := by
  obtain ⟨call, answer⟩ := d
  cases call with
  | create other input output combiner =>
    show (b.create other combiner).1 name = some (a.extend [])
    rw [Account.extend_nil, create_of_some known]
  | add input output handle x =>
    show (b name).map (fun a => if name = handle.name then a.take x else a) =
      some (a.extend (if handle.name = name then (Value.mk input x).as? a.input else none).toList)
    rw [known, Option.map_some]
    by_cases same : name = handle.name
    · rw [if_pos same, if_pos same.symm, Account.take]
    · rw [if_neg same, if_neg (Ne.symm same), Option.toList_none, Account.extend_nil]
  | get other input output =>
    show b name = some (a.extend [])
    rw [Account.extend_nil, known]
  | copy input output handle =>
    show b name = some (a.extend [])
    rw [Account.extend_nil, known]
  | value input output handle =>
    show b name = some (a.extend [])
    rw [Account.extend_nil, known]

/-- **Nothing goes.** An account stays over any history, and takes all inputs that are given under
    its name. -/
theorem after_of_some (known : b name = some a) (history : List Dealing) :
    b.after history name = some (a.extend (Dealing.inputsTo name a.input history)) := by
  induction history generalizing b a with
  | nil => simpa [after, Dealing.inputsTo] using known
  | cons d ds ih =>
    -- what the first call gives comes before what the rest of the history gives
    have rest := ih (perform_of_some known d)
    have split : Dealing.inputsTo name a.input (d :: ds) =
        (d.input? name a.input).toList ++ Dealing.inputsTo name a.input ds := by
      unfold Dealing.inputsTo
      rw [List.filterMap_cons]
      cases d.input? name a.input <;> rfl
    rw [split, ← Account.extend_extend]
    exact rest

/-- An account that was not there before a call was opened by the call. -/
theorem opened_of_none (unknown : b name = none) {d : Dealing}
    (answer : d.answer = (b.perform d.call).2) (known : (b.perform d.call).1 name = some a) :
    (∃ handle, d = ⟨.create name a.input a.output a.combiner, .ok handle⟩) ∧ a.inputs = [] := by
  obtain ⟨call, given⟩ := d
  -- nothing but a registration opens an account, and it does so under its own name
  cases call with
  | create other input output combiner =>
    obtain rfl : given = (b.create other combiner).2 := answer
    have known : (b.create other combiner).1 name = some a := known
    rcases b.create_cases other combiner with ⟨fault, fails⟩ | ⟨-, -, opens⟩
    · rw [fails] at known
      exact absurd (unknown.symm.trans known) (by simp)
    · rw [opens] at known ⊢
      by_cases same : name = other
      · subst same
        obtain rfl := Option.some.inj ((if_pos rfl).symm.trans known)
        exact ⟨⟨⟨name⟩, rfl⟩, rfl⟩
      · have other := (if_neg same).symm.trans known
        exact absurd (unknown.symm.trans other) (by simp)
  | add input output handle x =>
    have known : (b name).map (fun a => if name = handle.name then a.take x else a) = some a :=
      known
    rw [unknown] at known
    exact absurd known (by simp)
  | get other input output => exact absurd (unknown.symm.trans known) (by simp)
  | copy input output handle => exact absurd (unknown.symm.trans known) (by simp)
  | value input output handle => exact absurd (unknown.symm.trans known) (by simp)

/-- What a registration that succeeds opens. -/
theorem create_eq_ok {input output : ValueType} {combiner : Combiner input.Carrier output.Carrier}
    {handle : Aggregator input output} (opens : (b.create name combiner).2 = .ok handle) :
    Text.isBlank name = false ∧ b name = none ∧
      (b.create name combiner).1 name = some ⟨input, output, combiner, []⟩ := by
  rcases b.create_cases name combiner with ⟨fault, fails⟩ | ⟨blank, free, made⟩
  · rw [fails] at opens
    exact absurd opens (by simp)
  · rw [made]
    exact ⟨blank, free, if_pos rfl⟩

/-- A lookup gives a handle on the name. -/
theorem name_of_get {input output : ValueType} {handle : Aggregator input output}
    (given : b.get? name input output = some handle) : handle.name = name := by
  unfold get? at given
  split at given
  · split at given
    · exact congrArg Aggregator.name (Option.some.inj given).symm
    · exact absurd given (by simp)
  · exact absurd given (by simp)

/-- A lookup succeeds on an account with the types. -/
theorem isSome_get? {input output : ValueType} :
    (b.get? name input output).isSome = true ↔
      ∃ combiner inputs, b name = some ⟨input, output, combiner, inputs⟩ := by
  unfold get?
  cases b name with
  | none => simp
  | some a =>
    obtain ⟨i, o, combiner, inputs⟩ := a
    by_cases same : i = input ∧ o = output
    · obtain ⟨rfl, rfl⟩ := same
      simp
    · simp only [if_neg same]
      refine ⟨fun h => absurd h (by simp), ?_⟩
      rintro ⟨_, _, h⟩
      cases h
      exact absurd ⟨rfl, rfl⟩ same

end Book

/-! ### What a history records -/

/-- By a history, the name was registered with what the account says, and the inputs of the account
    are those that were given under the name since then. -/
def Account.Recorded (a : Account) (name : String) (history : List Dealing) : Prop :=
  ∃ us vs handle, history = us ++ ⟨.create name a.input a.output a.combiner, .ok handle⟩ :: vs ∧
    a.inputs = Dealing.inputsTo name a.input vs

namespace Book

/-- The book after a history in two parts. -/
theorem after_append (b : Book) (xs ys : List Dealing) :
    b.after (xs ++ ys) = (b.after xs).after ys := List.foldl_append

/-- An account that a history has opened is recorded in it. -/
theorem recorded_of_after {b : Book} {r r' : Registry} {history : List Dealing}
    (h : b.Describes r) (ran : r.Ran history r') {name : String} {a : Account}
    (unknown : b name = none) (known : b.after history name = some a) :
    a.Recorded name history := by
  -- by the history, up to the call that opens the account
  induction history generalizing b r with
  | nil => exact absurd (unknown.symm.trans known) (by simp)
  | cons d ds ih =>
    obtain ⟨same, described⟩ := h.perform d.call
    cases first : (b.perform d.call).1 name with
    | none =>
      obtain ⟨us, vs, handle, split, inputs⟩ := ih described ran.2 first known
      exact ⟨d :: us, vs, handle, by rw [split]; rfl, inputs⟩
    | some a₀ =>
      -- the account is opened here, and stays over the rest
      obtain ⟨⟨handle, opens⟩, none⟩ := opened_of_none unknown (ran.1.trans same) first
      obtain rfl := Option.some.inj ((after_of_some first ds).symm.trans known)
      refine ⟨[], ds, handle, by rw [opens]; rfl, ?_⟩
      show a₀.inputs ++ Dealing.inputsTo name a₀.input ds = _
      rw [none]
      rfl

/-- **What a history records.** After a history of an empty registry, the accounts of the book are
    those that the history records. -/
theorem after_eq_some_iff {r : Registry} {history : List Dealing}
    (ran : Registry.empty.Ran history r) {name : String} {a : Account} :
    empty.after history name = some a ↔ a.Recorded name history := by
  refine ⟨recorded_of_after describes_empty ran rfl, ?_⟩
  rintro ⟨us, vs, handle, rfl, inputs⟩
  -- the registration succeeded, so the book had no account under the name before it
  obtain ⟨between, before, answer, -⟩ := Registry.ran_append.mp ran
  have described := describes_empty.after before
  have opens : .ok handle = ((empty.after us).create name a.combiner).2 :=
    answer.trans (described.perform _).1
  obtain ⟨-, -, known⟩ := create_eq_ok opens.symm
  have whole : ((⟨a.input, a.output, a.combiner, []⟩ : Account).extend
      (Dealing.inputsTo name a.input vs)) = a := by
    rw [← inputs]
    rfl
  rw [after_append]
  exact (after_of_some known vs).trans (congrArg some whole)

end Book

/-! ### What every call does -/

/-- What a dealing does to a registry after a past, for each kind of call. -/
def Dealing.Lawful (past : List Dealing) (before after : Registry) : Dealing → Prop
  | ⟨.create name input output combiner, answer⟩ =>
    ((∃ handle, answer = .ok handle) ↔
      Text.isBlank name = false ∧ before.find? name = none) ∧
    (Text.isBlank name = true → answer = .error (.nullArgument "name")) ∧
    (Text.isBlank name = false → (before.find? name).isSome →
      answer = .error (.duplicateName "aggregator" name)) ∧
    (∀ handle, answer = .ok handle → handle.name = name ∧
      after.entries = before.entries ++ [⟨name, input, output, combiner, combiner.fold []⟩]) ∧
    ∀ fault, answer = .error fault → after = before
  | ⟨.get name input output, answer⟩ =>
    after = before ∧ (∀ handle, answer = some handle → handle.name = name) ∧
    (answer.isSome ↔
      ∃ combiner inputs, (Account.mk input output combiner inputs).Recorded name past)
  | ⟨.copy _ _ handle, answer⟩ => after = before ∧ answer = handle
  | ⟨.add _ _ handle _, _⟩ =>
    ∀ other, other ≠ handle.name → after.find? other = before.find? other
  | ⟨.value input output handle, answer⟩ =>
    after = before ∧ ∀ combiner inputs,
      (Account.mk input output combiner inputs).Recorded handle.name past →
        answer = some (combiner.output (combiner.fold inputs))

/-- What a registration does: it says why it fails, and changes nothing then, or it adds one entry
    without inputs. -/
theorem Registry.lawful_create (r : Registry) (past : List Dealing) (name : String)
    {input output : ValueType} (combiner : Combiner input.Carrier output.Carrier) :
    Dealing.Lawful past r (r.create name combiner).registry
      ⟨.create name input output combiner, (r.create name combiner).outcome⟩ := by
  have presence := r.contains_eq_isSome_find? name
  unfold Dealing.Lawful
  -- a blank name is refused before it is looked up
  cases blank : Text.isBlank name with
  | true =>
    have obstacle : r.obstacle? name = some (.nullArgument "name") := by
      rw [obstacle?, blank, if_pos rfl]
    rw [create_of_obstacle obstacle]
    simp [blank]
  | false =>
    cases found : r.find? name with
    | some e =>
      have obstacle : r.obstacle? name = some (.duplicateName "aggregator" name) := by
        rw [obstacle?, blank, presence, found, if_neg Bool.false_ne_true, Option.isSome_some,
          if_pos rfl]
      rw [create_of_obstacle obstacle]
      simp [blank, found]
    | none =>
      have obstacle : r.obstacle? name = none := by
        rw [obstacle?, blank, presence, found, if_neg Bool.false_ne_true, Option.isSome_none,
          if_neg Bool.false_ne_true]
      rw [create_of_free obstacle]
      simp [blank, found]

/-- **What every call does.** After a history of an empty registry, every further call does what is
    said for its kind. -/
theorem Dealing.lawful {past : List Dealing} {before : Registry}
    (ran : Registry.empty.Ran past before) {d : Dealing}
    (answers : d.answer = (before.perform d.call).2) :
    d.Lawful past before (before.perform d.call).1 := by
  have described := Book.describes_empty.after ran
  obtain ⟨call, answer⟩ := d
  obtain rfl : answer = (before.perform call).2 := answers
  cases call with
  | create name input output combiner => exact before.lawful_create past name combiner
  | get name input output =>
    have answered : before.get? name input output =
        (Book.empty.after past).get? name input output :=
      (described.perform (.get name input output)).1
    refine ⟨rfl, fun handle given => ?_, ?_⟩
    · exact Book.name_of_get (answered.symm.trans given)
    · show (before.get? name input output).isSome = true ↔ _
      rw [answered, Book.isSome_get?]
      exact exists_congr fun combiner => exists_congr fun inputs => Book.after_eq_some_iff ran
  | copy input output handle => exact ⟨rfl, rfl⟩
  | add input output handle x =>
    intro other different
    show (before.add handle x).find? other = before.find? other
    rw [before.find?_add]
    cases found : before.find? other with
    | none => rfl
    | some e =>
      have named : e.name = other := by simpa using List.find?_some found
      rw [Option.map_some, named, if_neg (by simpa using different)]
  | value input output handle =>
    refine ⟨rfl, fun combiner inputs recorded => ?_⟩
    have known := (Book.after_eq_some_iff ran).mpr recorded
    have found : before.find? handle.name = _ :=
      (described.find handle.name).trans (congrArg _ known)
    show before.value? handle = _
    rw [Registry.value?, found]
    simp [Account.entry, Aggregation.resultAs?, Aggregation.result]

/-! ### Cut histories -/

/-- What holds of a registry whose history is known, wherever it is cut into a past, which has led
    to `before`, and a future, which leads on to `after`. -/
structure Registry.Keeps (past future : List Dealing) (before after : Registry) : Prop where
  /-- The registry is what the book of its past says. -/
  describes : (Book.empty.after past).Describes before
  /-- The book of the past has the accounts that the past records. -/
  recorded : ∀ name a, Book.empty.after past name = some a ↔ a.Recorded name past
  /-- A handle that was handed out is on an account with its types. -/
  held : ∀ d ∈ past, ∀ name input output, d.handle? = some (name, input, output) →
    ∃ combiner inputs, (Account.mk input output combiner inputs).Recorded name past
  /-- An account stays, and takes all inputs that are given under its name. -/
  stays : ∀ name (a : Account), a.Recorded name past →
    after.find? name = some ((a.extend (Dealing.inputsTo name a.input future)).entry name)
  /-- The next call is answered like the book answers it, and does what is said for its kind. -/
  next : ∀ d rest, future = d :: rest →
    d.answer = ((Book.empty.after past).perform d.call).2 ∧
      d.Lawful past before (before.perform d.call).1

namespace Dealing

/-- A handle that a call hands out is on an account with its types. -/
theorem known_of_handle {b : Book} {d : Dealing} (answers : d.answer = (b.perform d.call).2)
    {name : String} {input output : ValueType} (given : d.handle? = some (name, input, output)) :
    ∃ combiner inputs, (b.perform d.call).1 name = some ⟨input, output, combiner, inputs⟩ := by
  unfold handle? at given
  split at given
  next combiner handle =>
    cases given
    exact ⟨combiner, [], (Book.create_eq_ok answers.symm).2.2⟩
  next handle =>
    cases given
    have succeeds : (b.get? name input output).isSome = true := by
      rw [show b.get? name input output = some handle from answers.symm]
      rfl
    exact Book.isSome_get?.mp succeeds
  next => exact absurd given (by simp)

end Dealing

/-- **Cut histories.** All of it holds of a registry that was empty in the beginning. -/
theorem Registry.keeps_of_ran {past future : List Dealing} {before after : Registry}
    (first : Registry.empty.Ran past before) (second : before.Ran future after) :
    Registry.Keeps past future before after where
  describes := Book.describes_empty.after first
  recorded := fun _ _ => Book.after_eq_some_iff first
  held := by
    intro d member name input output given
    -- the account was there when the handle was handed out, and it stays over the rest of the past
    obtain ⟨us, vs, rfl⟩ := List.append_of_mem member
    obtain ⟨between, prior, answer, -⟩ := Registry.ran_append.mp first
    have described := Book.describes_empty.after prior
    obtain ⟨combiner, inputs, known⟩ :=
      Dealing.known_of_handle (answer.trans (described.perform d.call).1) given
    have whole := congrFun (Book.after_append .empty us (d :: vs)) name
    have later := whole.trans (Book.after_of_some known vs)
    exact ⟨combiner, _, (Book.after_eq_some_iff first).mp later⟩
  stays := by
    intro name a recorded
    have known := (Book.after_eq_some_iff first).mpr recorded
    have described := (Book.describes_empty.after first).after second
    rw [described.find, Book.after_of_some known, Option.map_some]
  next := by
    rintro d rest rfl
    have described := Book.describes_empty.after first
    exact ⟨second.1.trans (described.perform d.call).1, Dealing.lawful first second.1⟩

end BundleRunner
