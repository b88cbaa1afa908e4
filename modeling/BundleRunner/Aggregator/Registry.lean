import BundleRunner.Aggregator.Combiner
import BundleRunner.Log
import BundleRunner.Text.Blank

namespace BundleRunner

/-!
# Aggregators

A run keeps aggregates under names.  The `Registry` holds one entry for each name, and an
`Aggregator` is a handle on an entry; all handles with one name share its accumulator:

* `Registry.create` — a new entry under a name that is neither blank nor taken;
* `Registry.get?` — the handle on an entry, if its types are the ones asked for;
* `Registry.add`, `Registry.value?` — one more input, and the result so far;
* `Registry.snapshot` — the results of all entries, by name.
-/

/-- An entry of the registry: a name, the types of inputs and results, the combiner, and what it
    has taken in so far. -/
structure Aggregation : Type 1 where
  name : String
  input : ValueType
  output : ValueType
  combiner : Combiner input.Carrier output.Carrier
  acc : combiner.Acc

namespace Aggregation

/-- Take an input in, if it has the type that the entry takes. -/
def feed (e : Aggregation) {input : ValueType} (x : input.Carrier) : Aggregation :=
  if h : input = e.input then { e with acc := e.combiner.add e.acc (h ▸ x) } else e

/-- The result so far. -/
def result (e : Aggregation) : e.output.Carrier := e.combiner.output e.acc

/-- The result so far, if it has the type asked for. -/
def resultAs? (e : Aggregation) (output : ValueType) : Option output.Carrier :=
  (Value.mk e.output e.result).as? output

@[simp] theorem name_feed (e : Aggregation) {input : ValueType} (x : input.Carrier) :
    (e.feed x).name = e.name := by
  simp only [feed]; split <;> rfl

@[simp] theorem input_feed (e : Aggregation) {input : ValueType} (x : input.Carrier) :
    (e.feed x).input = e.input := by
  simp only [feed]; split <;> rfl

@[simp] theorem output_feed (e : Aggregation) {input : ValueType} (x : input.Carrier) :
    (e.feed x).output = e.output := by
  simp only [feed]; split <;> rfl

theorem feed_self (e : Aggregation) (x : e.input.Carrier) :
    e.feed x = { e with acc := e.combiner.add e.acc x } := by
  simp [feed]

end Aggregation

/-- A handle on the entry with a name, for inputs and results of two types. -/
structure Aggregator (input output : ValueType) where
  name : String
deriving DecidableEq

/-- The aggregates of a run, in the order of their registration. -/
structure Registry : Type 1 where
  entries : List Aggregation

/-- One line of a snapshot. -/
structure AggregatorSnapshot where
  name : String
  input : ValueType
  output : ValueType
  value : String
deriving DecidableEq

namespace Registry

/-- No aggregates. -/
def empty : Registry := ⟨[]⟩

/-- The entry with a name. -/
def find? (r : Registry) (name : String) : Option Aggregation :=
  r.entries.find? (·.name == name)

/-- Whether there is an entry with a name. -/
def contains (r : Registry) (name : String) : Bool := r.entries.any (·.name == name)

/-- The number of entries. -/
def size (r : Registry) : Nat := r.entries.length

/-- Whether there are no entries. -/
def isEmpty (r : Registry) : Bool := r.entries.isEmpty

/-- Why a name cannot be registered, if it cannot. -/
def obstacle? (r : Registry) (name : String) : Option Fault :=
  if Text.isBlank name then some (.nullArgument "name")
  else if r.contains name then some (.duplicateName "aggregator" name)
  else none

/-- A name can be registered exactly when it is neither blank nor taken. -/
theorem obstacle?_eq_none_iff {r : Registry} {name : String} :
    r.obstacle? name = none ↔ Text.isBlank name = false ∧ r.contains name = false := by
  simp only [obstacle?]
  cases Text.isBlank name <;> cases r.contains name <;> simp

theorem contains_iff {r : Registry} {name : String} :
    r.contains name = true ↔ ∃ e ∈ r.entries, e.name = name := by
  simp [contains]

/-- What a registration did. -/
structure Registration (input output : ValueType) : Type 1 where
  registry : Registry
  notice : Option Notice
  outcome : Except Fault (Aggregator input output)

/-- Register a combiner under a name that is neither blank nor taken. -/
def create (r : Registry) (name : String) {input output : ValueType}
    (combiner : Combiner input.Carrier output.Carrier) : Registration input output :=
  match r.obstacle? name with
  | some fault => ⟨r, none, .error fault⟩
  | none =>
    ⟨⟨r.entries ++ [⟨name, input, output, combiner, combiner.create⟩]⟩,
      some (.aggregatorRegistered name input), .ok ⟨name⟩⟩

/-- A registration that is refused changes nothing. -/
theorem create_of_obstacle {r : Registry} {name : String} {fault : Fault}
    (h : r.obstacle? name = some fault) {input output : ValueType}
    (combiner : Combiner input.Carrier output.Carrier) :
    r.create name combiner = ⟨r, none, .error fault⟩ := by
  simp [create, h]

/-- A registration that is not refused adds one entry without inputs. -/
theorem create_of_free {r : Registry} {name : String} (h : r.obstacle? name = none)
    {input output : ValueType} (combiner : Combiner input.Carrier output.Carrier) :
    r.create name combiner =
      ⟨⟨r.entries ++ [⟨name, input, output, combiner, combiner.create⟩]⟩,
        some (.aggregatorRegistered name input), .ok ⟨name⟩⟩ := by
  simp [create, h]

/-- The handle on the entry with a name, if its types are the ones asked for. -/
def get? (r : Registry) (name : String) (input output : ValueType) :
    Option (Aggregator input output) :=
  match r.find? name with
  | some e => if e.input = input ∧ e.output = output then some ⟨name⟩ else none
  | none => none

/-- Take an input in through a handle. -/
def add (r : Registry) {input output : ValueType} (h : Aggregator input output)
    (x : input.Carrier) : Registry :=
  ⟨r.entries.map fun e => if e.name == h.name then e.feed x else e⟩

/-- The result so far, through a handle. -/
def value? (r : Registry) {input output : ValueType} (h : Aggregator input output) :
    Option output.Carrier :=
  (r.find? h.name).bind fun e => e.resultAs? output

/-- An entry as a line of a snapshot. -/
def snapshotLine (e : Aggregation) : AggregatorSnapshot :=
  ⟨e.name, e.input, e.output, e.output.render e.result⟩

/-- The results of all entries, by name. -/
def snapshot (r : Registry) : List AggregatorSnapshot :=
  (r.entries.map snapshotLine).mergeSort fun a b => decide (a.name ≤ b.name)

/-- The names of all entries, in order. -/
def names (r : Registry) : List String :=
  (r.entries.map Aggregation.name).mergeSort fun a b => decide (a ≤ b)

end Registry

end BundleRunner
