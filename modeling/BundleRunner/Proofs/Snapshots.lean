import BundleRunner.Proofs.Book
import BundleRunner.Proofs.ByteOrder
import Mathlib.Data.List.Nodup

namespace BundleRunner

/-!
# Snapshots

A snapshot lists what a registry holds by name.  The registry may hold it in any order: in that of
the registrations, or in that of a table.  This file proves that no such order can be told from a
snapshot, and that neither can the order in which different aggregates were used.

* `Opening` — what a registration that succeeded has registered, and what was given to it since;
* `Registry.nodup_openings` — a history opens every name once;
* `Account.recorded_iff_opening` — the accounts of a history are its openings, with their inputs;
* `Registry.entries_perm` — hence so are the entries of the registry, in some order;
* `Registry.inOrder_snapshot`, `inOrder_unique` — lines in the order of their names are the only
  ones with their members;
* `snapshots_without_order` — histories that open the same, and give the same to each, end in
  registries with one snapshot.
-/

/-! ### Openings -/

/-- A registration that succeeded. -/
structure Opening : Type 1 where
  name : String
  input : ValueType
  output : ValueType
  combiner : Combiner input.Carrier output.Carrier

namespace Dealing

/-- What a dealing has registered, if it is a registration that succeeded. -/
def opening? : Dealing → Option Opening
  | ⟨.create name input output combiner, .ok _⟩ => some ⟨name, input, output, combiner⟩
  | _ => none

/-- The registrations of a history that succeeded, in order. -/
def openings (history : List Dealing) : List Opening := history.filterMap opening?

/-- Whether a dealing has registered a name. -/
def opens (name : String) (d : Dealing) : Bool := d.opening?.any fun o => o.name == name

theorem opening?_eq_some_iff {d : Dealing} {o : Opening} :
    d.opening? = some o ↔
      ∃ handle, d = ⟨.create o.name o.input o.output o.combiner, .ok handle⟩ := by
  constructor
  · intro opened
    unfold opening? at opened
    split at opened
    next handle =>
      cases opened
      exact ⟨handle, rfl⟩
    next => exact absurd opened (by simp)
  · rintro ⟨handle, rfl⟩
    rfl

end Dealing

/-- What a snapshot says of an account: its types, and the result of its inputs. -/
def Account.line (name : String) (a : Account) : AggregatorSnapshot :=
  ⟨name, a.input, a.output, a.output.render a.result⟩

namespace Opening

/-- The inputs that were given under the name since it was registered, in order. -/
def inputs (o : Opening) (history : List Dealing) : List o.input.Carrier :=
  Dealing.inputsTo o.name o.input (history.dropWhile fun d => !d.opens o.name)

/-- The account that a history has opened. -/
def account (o : Opening) (history : List Dealing) : Account :=
  ⟨o.input, o.output, o.combiner, o.inputs history⟩

/-- The line of a snapshot after a history. -/
def line (o : Opening) (history : List Dealing) : AggregatorSnapshot :=
  (o.account history).line o.name

end Opening

/-! ### A history opens every name once -/

namespace Registry

/-- A call adds the name that it has registered, and no other. -/
theorem names_perform (r : Registry) (call : RegistryCall) :
    (r.perform call).1.entries.map Aggregation.name =
      r.entries.map Aggregation.name ++
        (Dealing.openings [⟨call, (r.perform call).2⟩]).map Opening.name := by
  cases call with
  | create name input output combiner =>
    cases obstacle : r.obstacle? name with
    | some fault =>
      have refused : r.create name combiner = ⟨r, none, .error fault⟩ :=
        create_of_obstacle obstacle combiner
      simp [perform, refused, Dealing.openings, Dealing.opening?]
    | none =>
      have made := create_of_free obstacle combiner
      simp [perform, made, Dealing.openings, Dealing.opening?]
  | add input output handle x =>
    show (r.add handle x).entries.map Aggregation.name = r.entries.map Aggregation.name ++ []
    rw [names_add, List.append_nil]
  | get name input output => simp [perform, Dealing.openings, Dealing.opening?]
  | copy input output handle => simp [perform, Dealing.openings, Dealing.opening?]
  | value input output handle => simp [perform, Dealing.openings, Dealing.opening?]

/-- So does a history. -/
theorem names_of_ran {r r' : Registry} {history : List Dealing} (ran : r.Ran history r') :
    r'.entries.map Aggregation.name =
      r.entries.map Aggregation.name ++ (Dealing.openings history).map Opening.name := by
  induction history generalizing r with
  | nil =>
    obtain rfl : r = r' := ran
    simp [Dealing.openings]
  | cons d ds ih =>
    obtain ⟨call, answer⟩ := d
    obtain ⟨answered, rest⟩ := ran
    obtain rfl : answer = (r.perform call).2 := answered
    have split : Dealing.openings (⟨call, (r.perform call).2⟩ :: ds) =
        Dealing.openings [⟨call, (r.perform call).2⟩] ++ Dealing.openings ds :=
      List.filterMap_append (l := [_])
    rw [ih rest, names_perform, split, List.map_append, List.append_assoc]

variable {r : Registry} {history : List Dealing}

/-- A history of an empty registry opens every name once. -/
theorem nodup_openings (ran : Registry.empty.Ran history r) :
    ((Dealing.openings history).map Opening.name).Nodup := by
  have names := names_of_ran ran
  have different := (Book.describes_empty.after ran).different
  rw [names] at different
  exact different

end Registry

/-! ### What a history has opened -/

namespace Opening

variable {us vs : List Dealing} {d : Dealing} {o : Opening}

/-- What came before the registration of a name is not counted, if the name is registered once. -/
theorem inputs_of_split (opened : d.opening? = some o)
    (once : ((Dealing.openings (us ++ d :: vs)).map Opening.name).Nodup) :
    o.inputs (us ++ d :: vs) = Dealing.inputsTo o.name o.input vs := by
  have whole : Dealing.openings (us ++ d :: vs) =
      Dealing.openings us ++ o :: Dealing.openings vs := by
    unfold Dealing.openings
    rw [List.filterMap_append, List.filterMap_cons, opened]
  have before : ∀ e ∈ us, (!e.opens o.name) = true := by
    intro e member
    rw [Bool.not_eq_true', Dealing.opens, Option.any_eq_false]
    intro earlier opens
    have listed : earlier ∈ Dealing.openings us := List.mem_filterMap.mpr ⟨e, member, opens⟩
    rw [whole, List.map_append, List.map_cons] at once
    have apart := (List.nodup_append.mp once).2.2 _ (List.mem_map_of_mem listed) o.name
      (List.mem_cons_self ..)
    simpa using apart
  have here : (!d.opens o.name) = false := by
    simp [Dealing.opens, opened]
  have since : (us ++ d :: vs).dropWhile (fun e => !e.opens o.name) = d :: vs := by
    rw [List.dropWhile_append_of_pos before, List.dropWhile_cons, here]
    simp
  -- a registration gives no input itself
  obtain ⟨handle, rfl⟩ := Dealing.opening?_eq_some_iff.mp opened
  rw [inputs, since]
  rfl

end Opening

/-- **What a history has opened.** The accounts that a history records are those that it has opened,
    with the inputs since then. -/
theorem Account.recorded_iff_opening {r : Registry} {history : List Dealing}
    (ran : Registry.empty.Ran history r) {name : String} {a : Account} :
    a.Recorded name history ↔
      ∃ o ∈ Dealing.openings history, o.name = name ∧ o.account history = a := by
  have once := Registry.nodup_openings ran
  constructor
  · rintro ⟨us, vs, handle, rfl, inputs⟩
    let o : Opening := ⟨name, a.input, a.output, a.combiner⟩
    let d : Dealing := ⟨.create name a.input a.output a.combiner, .ok handle⟩
    have opened : d.opening? = some o := rfl
    have listed : o ∈ Dealing.openings (us ++ d :: vs) :=
      List.mem_filterMap.mpr ⟨d, by simp, opened⟩
    have given : o.inputs (us ++ d :: vs) = a.inputs :=
      (Opening.inputs_of_split opened once).trans inputs.symm
    refine ⟨o, listed, rfl, ?_⟩
    show Account.mk a.input a.output a.combiner (o.inputs _) = a
    rw [given]
  · rintro ⟨o, listed, rfl, rfl⟩
    obtain ⟨d, member, opened⟩ := List.mem_filterMap.mp listed
    obtain ⟨us, vs, rfl⟩ := List.append_of_mem member
    have given := Opening.inputs_of_split opened once
    obtain ⟨handle, rfl⟩ := Dealing.opening?_eq_some_iff.mp opened
    exact ⟨us, vs, handle, rfl, given⟩

namespace Registry

variable {r : Registry} {history : List Dealing}

/-- An entry is found under its name. -/
theorem find?_of_mem {r : Registry} (different : (r.entries.map Aggregation.name).Nodup)
    {e : Aggregation} (member : e ∈ r.entries) : r.find? e.name = some e := by
  obtain ⟨us, vs, split⟩ := List.append_of_mem member
  rw [split, List.map_append, List.map_cons] at different
  have before : us.find? (fun other => other.name == e.name) = none := by
    rw [List.find?_eq_none]
    intro other earlier
    have apart := (List.nodup_append.mp different).2.2 _ (List.mem_map_of_mem earlier) e.name
      (List.mem_cons_self ..)
    simpa using apart
  rw [find?, split, List.find?_append, before]
  simp

/-- The entries after a history are the accounts that it has opened. -/
theorem mem_entries_iff (ran : Registry.empty.Ran history r) {e : Aggregation} :
    e ∈ r.entries ↔
      ∃ o ∈ Dealing.openings history, (o.account history).entry o.name = e := by
  have described := Book.describes_empty.after ran
  have found : ∀ name, r.find? name = some e ↔
      ∃ a : Account, a.Recorded name history ∧ a.entry name = e := by
    intro name
    rw [described.find, Option.map_eq_some_iff]
    exact exists_congr fun a => and_congr_left fun _ => Book.after_eq_some_iff ran
  constructor
  · intro member
    obtain ⟨a, recorded, entry⟩ := (found e.name).mp (find?_of_mem described.different member)
    obtain ⟨o, listed, same, rfl⟩ := (Account.recorded_iff_opening ran).mp recorded
    exact ⟨o, listed, same ▸ entry⟩
  · rintro ⟨o, listed, entry⟩
    have recorded := (Account.recorded_iff_opening ran).mpr ⟨o, listed, rfl, rfl⟩
    exact List.mem_of_find?_eq_some ((found o.name).mpr ⟨_, recorded, entry⟩)

/-- **Entries.** After a history the registry holds what the history has opened, in some order. -/
theorem entries_perm (ran : Registry.empty.Ran history r) :
    r.entries.Perm ((Dealing.openings history).map fun o => (o.account history).entry o.name) := by
  have different : r.entries.Nodup := (Book.describes_empty.after ran).different.of_map
  have once : ((Dealing.openings history).map fun o => (o.account history).entry o.name).Nodup := by
    apply List.Nodup.of_map Aggregation.name
    rw [List.map_map]
    exact nodup_openings ran
  rw [List.perm_ext_iff_of_nodup different once]
  intro e
  rw [mem_entries_iff ran, List.mem_map]

end Registry

/-! ### Lines in order -/

/-- The lines stand strictly in the order of their names, byte by byte. -/
def InOrder (lines : List AggregatorSnapshot) : Prop :=
  lines.Pairwise fun a b => Text.utf8 a.name < Text.utf8 b.name

/-- Lines in order are the only list of their members that is in order. -/
theorem inOrder_unique {xs ys : List AggregatorSnapshot} (hx : InOrder xs) (hy : InOrder ys)
    (same : xs.Perm ys) : xs = ys := by
  apply List.Perm.eq_of_pairwise _ hx hy same
  intro a b _ _ before behind
  exact absurd (List.lt_trans before behind) (List.lt_irrefl _)

namespace Registry

variable {r : Registry}

theorem snapshot_perm (r : Registry) : r.snapshot.Perm (r.entries.map snapshotLine) :=
  List.mergeSort_perm _ _

/-- A snapshot is in order when the names are different. -/
theorem inOrder_snapshot (different : (r.entries.map Aggregation.name).Nodup) :
    InOrder r.snapshot := by
  have sorted : r.snapshot.Pairwise fun a b => decide (a.name ≤ b.name) = true := by
    apply List.pairwise_mergeSort
    · intro a b c hab hbc
      simp only [decide_eq_true_eq] at hab hbc ⊢
      exact String.le_trans hab hbc
    · intro a b
      simpa using String.le_total a.name b.name
  have nodup : (r.snapshot.map AggregatorSnapshot.name).Nodup := by
    rw [(r.snapshot_perm.map AggregatorSnapshot.name).nodup_iff, List.map_map]
    exact different
  have apart : r.snapshot.Pairwise fun a b => a.name ≠ b.name := List.pairwise_map.mp nodup
  apply List.Pairwise.imp₂ _ sorted apart
  intro a b le ne
  exact Text.lt_iff_utf8_lt.mp (lt_of_le_of_ne (of_decide_eq_true le) ne)

/-- The snapshot does not depend on the order of the entries. -/
theorem snapshot_eq_of_perm {table : List Aggregation}
    (different : (r.entries.map Aggregation.name).Nodup) (reordered : table.Perm r.entries) :
    (Registry.mk table).snapshot = r.snapshot := by
  have same := (reordered.map Aggregation.name).nodup_iff.mpr different
  apply inOrder_unique (inOrder_snapshot same) (inOrder_snapshot different)
  have lines : (table.map snapshotLine).Perm (r.entries.map snapshotLine) := reordered.map _
  exact (snapshot_perm _).trans (lines.trans r.snapshot_perm.symm)

end Registry

/-! ### One snapshot -/

namespace Registry

variable {r : Registry} {history : List Dealing}

/-- **Lines.** After a history, the snapshot has one line for each name that was registered, with
    the types of the registration and the result of the inputs since then. -/
theorem snapshot_perm_lines (ran : Registry.empty.Ran history r) :
    r.snapshot.Perm ((Dealing.openings history).map (·.line history)) := by
  have lines : (r.entries.map snapshotLine).Perm
      (((Dealing.openings history).map fun o => (o.account history).entry o.name).map
        snapshotLine) :=
    (entries_perm ran).map snapshotLine
  rw [List.map_map] at lines
  exact r.snapshot_perm.trans lines

/-- The value of a line is what a handle on the name reads. -/
theorem value?_of_opening (ran : Registry.empty.Ran history r) {o : Opening}
    (listed : o ∈ Dealing.openings history) :
    r.value? (⟨o.name⟩ : Aggregator o.input o.output) = some (o.account history).result := by
  have different := (Book.describes_empty.after ran).different
  have member := (mem_entries_iff ran).mpr ⟨o, listed, rfl⟩
  have found : r.find? o.name = some ((o.account history).entry o.name) :=
    find?_of_mem different member
  rw [value?, found, Option.bind_some]
  exact Value.as?_mk o.output _

end Registry

/-- **Snapshots without order.** After any history, the snapshot of a registry has one line for each
    name that was registered, strictly in the byte order of the names, with the types of the
    registration and the current value, which is what a handle on the name reads; and a table with
    the same entries in any order has the same snapshot.  Two histories that registered the same,
    and gave the same inputs to each name in the same order, end with the same snapshot, in whatever
    order they registered the names and went from one to another. -/
theorem snapshots_without_order {first second : List Dealing} {r s : Registry}
    (ranFirst : Registry.empty.Ran first r) (ranSecond : Registry.empty.Ran second s) :
    (r.snapshot.Perm ((Dealing.openings first).map (·.line first)) ∧
      InOrder r.snapshot ∧
      (∀ o ∈ Dealing.openings first,
        r.value? (⟨o.name⟩ : Aggregator o.input o.output) = some (o.account first).result) ∧
      ∀ table : List Aggregation, table.Perm r.entries →
        (Registry.mk table).snapshot = r.snapshot) ∧
    ((Dealing.openings first).Perm (Dealing.openings second) →
      (∀ o ∈ Dealing.openings first, o.inputs first = o.inputs second) →
      r.snapshot = s.snapshot) := by
  have differentFirst := (Book.describes_empty.after ranFirst).different
  have differentSecond := (Book.describes_empty.after ranSecond).different
  constructor
  · refine ⟨Registry.snapshot_perm_lines ranFirst, Registry.inOrder_snapshot differentFirst, ?_, ?_⟩
    · intro o listed
      exact Registry.value?_of_opening ranFirst listed
    · intro table reordered
      exact Registry.snapshot_eq_of_perm differentFirst reordered
  · intro opened given
    apply inOrder_unique (Registry.inOrder_snapshot differentFirst)
      (Registry.inOrder_snapshot differentSecond)
    -- an opening has the same line after both histories, since its inputs are the same
    have sameLines : (Dealing.openings first).map (·.line first) =
        (Dealing.openings first).map (·.line second) := by
      apply List.map_congr_left
      intro o listed
      have same : o.account first = o.account second :=
        congrArg (fun inputs => Account.mk o.input o.output o.combiner inputs) (given o listed)
      rw [Opening.line, Opening.line, same]
    have lines : ((Dealing.openings first).map (·.line first)).Perm
        ((Dealing.openings second).map (·.line second)) := by
      rw [sameLines]
      exact opened.map _
    exact (Registry.snapshot_perm_lines ranFirst).trans
      (lines.trans (Registry.snapshot_perm_lines ranSecond).symm)

/-! ### Two orders

A total and a number of texts are registered in either order.  The total gets its inputs in a row,
or with a text in between, after a registration that is refused.
-/

namespace Interleaved

/-- The handle on the total. -/
def total : Aggregator .unsigned .unsigned := ⟨"total"⟩

/-- The handle on the number of texts. -/
def seen : Aggregator .text .unsigned := ⟨"seen"⟩

/-- The registration of the total. -/
def createTotal : Dealing := ⟨.create "total" .unsigned .unsigned .sum, .ok total⟩

/-- The registration of the number of texts. -/
def createSeen : Dealing := ⟨.create "seen" .text .unsigned .count, .ok seen⟩

/-- An input for the total. -/
def addTotal (n : Nat) : Dealing := ⟨.add .unsigned .unsigned total n, ()⟩

/-- An input for the number of texts. -/
def addSeen (text : String) : Dealing := ⟨.add .text .unsigned seen text, ()⟩

/-- The total first, with its inputs in a row. -/
def inARow : List Dealing :=
  [createTotal, createSeen, addTotal 3, addTotal 4, addSeen "a"]

/-- The total last, with a text between its inputs. -/
def inTurn : List Dealing :=
  [createSeen, createTotal,
    ⟨.create "seen" .signed .signed .sum, .error (.duplicateName "aggregator" "seen")⟩,
    addTotal 3, addSeen "a", addTotal 4]

end Interleaved

/-- The registries hold their entries in different orders, and have one snapshot. -/
theorem snapshots_without_order_interleaved :
    ∃ r s, Registry.empty.Ran Interleaved.inARow r ∧ Registry.empty.Ran Interleaved.inTurn s ∧
      r.entries.map Aggregation.name = ["total", "seen"] ∧
      s.entries.map Aggregation.name = ["seen", "total"] ∧
      (Dealing.openings Interleaved.inARow).Perm (Dealing.openings Interleaved.inTurn) ∧
      r.snapshot = s.snapshot := by
  have ranFirst : Registry.empty.Ran Interleaved.inARow _ := ⟨rfl, rfl, rfl, rfl, rfl, rfl⟩
  have ranSecond : Registry.empty.Ran Interleaved.inTurn _ := ⟨rfl, rfl, rfl, rfl, rfl, rfl, rfl⟩
  have opened : (Dealing.openings Interleaved.inARow).Perm
      (Dealing.openings Interleaved.inTurn) := List.Perm.swap _ _ []
  refine ⟨_, _, ranFirst, ranSecond, rfl, rfl, opened, ?_⟩
  apply (snapshots_without_order ranFirst ranSecond).2 opened
  -- the total gets 3 and 4 in both histories, the number of texts gets one text
  intro o listed
  rcases List.mem_cons.mp listed with rfl | later
  · rfl
  · obtain rfl := List.mem_singleton.mp later
    rfl

end BundleRunner
