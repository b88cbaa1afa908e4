import BundleRunner.Proofs.Simulation
import BundleRunner.Proofs.Sinks
import BundleRunner.Proofs.TagLimit
import Mathlib.Data.List.Nodup
import Mathlib.Data.Set.Card

namespace BundleRunner

/-!
# Declarations

A scheduler declares side outputs and views in a list, and a router finds a side output by its tag.
This file proves that the list is a table: no tag and no view stands in it twice, each tag leads to
what was declared for it, and the order of the list does not matter.

* `FirstRepeat` — the first name in a list that equals an earlier one;
* `Declarations.bind_cases` — which declarations are refused, and how;
* `SideDeclaration.table` — the side outputs put into a table one after the other, where a later one
  would take the place of an earlier one;
* `Session.declarations_performAll` — what is declared is there in every state of a run;
* `reordering` — two runs whose side outputs and views are declared in different orders simulate each
  other;
* `declarations_exact` — all of this together.

A table that takes its entries from a list keeps the last of those with one tag, and a search of the
list finds the first.  Both come to the same only because no tag is bound twice.
-/

variable {α β σ : Type}

/-! ### Repeated names -/

/-- The name is the first in a list that equals an earlier one. -/
def FirstRepeat (names : List String) (name : String) : Prop :=
  ∃ before after, names = before ++ name :: after ∧ before.Nodup ∧ name ∈ before

/-- A name that was seen before, or equals an earlier one, is found if none before it is. -/
theorem firstRepeat?_of_split {seen before after : List String} {name : String}
    (different : before.Nodup) (unseen : ∀ n ∈ before, n ∉ seen)
    (earlier : name ∈ before ∨ name ∈ seen) :
    firstRepeat? seen (before ++ name :: after) = some name := by
  -- a name that is passed joins those seen, so that the seen ones vary along the list
  induction before generalizing seen with
  | nil =>
    have known : name ∈ seen := earlier.resolve_left (by simp)
    simp [firstRepeat?, known]
  | cons n before ih =>
    obtain ⟨fresh, different⟩ := List.nodup_cons.mp different
    have unknown : n ∉ seen := unseen n (List.mem_cons_self ..)
    have goesOn : firstRepeat? seen (n :: before ++ name :: after) =
        firstRepeat? (n :: seen) (before ++ name :: after) := by
      simp [firstRepeat?, unknown]
    rw [goesOn]
    refine ih different (fun m hm h => ?_) ?_
    · rcases List.mem_cons.mp h with rfl | h
      · exact fresh hm
      · exact unseen m (List.mem_cons_of_mem _ hm) h
    · simpa only [List.mem_cons, or_assoc, or_left_comm] using earlier

/-- What is found was seen before, or equals an earlier name, and no name before it does. -/
theorem exists_split_of_firstRepeat? {seen names : List String} {name : String}
    (found : firstRepeat? seen names = some name) :
    ∃ before after, names = before ++ name :: after ∧ before.Nodup ∧
      (∀ n ∈ before, n ∉ seen) ∧ (name ∈ before ∨ name ∈ seen) := by
  induction names generalizing seen with
  | nil => exact absurd found (by simp [firstRepeat?])
  | cons n names ih =>
    unfold firstRepeat? at found
    -- either the search stops at the head of the list, or the head is among the names before
    by_cases known : n ∈ seen
    · rw [if_pos (List.contains_iff_mem.mpr known)] at found
      obtain rfl := Option.some.inj found
      exact ⟨[], names, rfl, List.nodup_nil, by simp, .inr known⟩
    · rw [if_neg (by simpa using known)] at found
      obtain ⟨before, after, rfl, different, unseen, earlier⟩ := ih found
      have fresh : n ∉ before := fun h => unseen n h (List.mem_cons_self ..)
      refine ⟨n :: before, after, rfl, List.nodup_cons.mpr ⟨fresh, different⟩, ?_, ?_⟩
      · intro m hm
        rcases List.mem_cons.mp hm with rfl | hm
        · exact known
        · exact fun h => unseen m hm (List.mem_cons_of_mem _ h)
      · simpa only [List.mem_cons, or_assoc, or_left_comm] using earlier

/-- With nothing seen before, it is the first name that equals an earlier one. -/
theorem firstRepeat?_nil_eq_some_iff {names : List String} {name : String} :
    firstRepeat? [] names = some name ↔ FirstRepeat names name := by
  constructor
  · intro found
    obtain ⟨before, after, split, different, -, earlier⟩ := exists_split_of_firstRepeat? found
    exact ⟨before, after, split, different, earlier.resolve_right (by simp)⟩
  · rintro ⟨before, after, rfl, different, earlier⟩
    exact firstRepeat?_of_split different (by simp) (.inl earlier)

theorem firstRepeat?_nil_eq_none_iff {names : List String} :
    firstRepeat? [] names = none ↔ names.Nodup := by
  rw [firstRepeat?_eq_none_iff]
  simp

theorem FirstRepeat.not_nodup {names : List String} {name : String} (h : FirstRepeat names name) :
    ¬ names.Nodup := by
  obtain ⟨before, after, rfl, -, earlier⟩ := h
  intro different
  exact (List.nodup_append.mp different).2.2 name earlier name (List.mem_cons_self ..) rfl

/-- There is only one first name that repeats. -/
theorem FirstRepeat.unique {names : List String} {name name' : String} (h : FirstRepeat names name)
    (h' : FirstRepeat names name') : name = name' :=
  Option.some.inj ((firstRepeat?_nil_eq_some_iff.mpr h).symm.trans
    (firstRepeat?_nil_eq_some_iff.mpr h'))

namespace Declarations

variable {d : Declarations α β}

/-- The three ways in which a binding can go. -/
theorem bind_cases (d : Declarations α β) :
    (∃ tag, FirstRepeat d.tags tag ∧ d.bind = .error (.duplicateName "output tag" tag)) ∨
    (d.tags.Nodup ∧ ∃ view, FirstRepeat d.views view ∧
      d.bind = .error (.duplicateName "side input" view)) ∨
    (∃ binding, d.tags.Nodup ∧ d.views.Nodup ∧ d.bind = .ok binding ∧
      binding.toDeclarations = d) := by
  unfold bind
  -- the tags are looked at first, and the views only when no tag repeats
  split
  next tag repeats => exact .inl ⟨tag, firstRepeat?_nil_eq_some_iff.mp repeats, rfl⟩
  next tags =>
    have different := firstRepeat?_nil_eq_none_iff.mp tags
    split
    next view repeats =>
      exact .inr (.inl ⟨different, view, firstRepeat?_nil_eq_some_iff.mp repeats, rfl⟩)
    next views =>
      exact .inr (.inr ⟨_, different, firstRepeat?_nil_eq_none_iff.mp views, rfl, rfl⟩)

/-- **What is bound.** Declarations are bound exactly when no tag and no view repeats. -/
theorem exists_bind_iff : (∃ binding, d.bind = .ok binding) ↔ d.tags.Nodup ∧ d.views.Nodup := by
  constructor
  · rintro ⟨binding, bound⟩
    rcases d.bind_cases with ⟨_, -, fails⟩ | ⟨-, _, -, fails⟩ | ⟨_, tags, views, -, -⟩
    · exact absurd (fails.symm.trans bound) (by simp)
    · exact absurd (fails.symm.trans bound) (by simp)
    · exact ⟨tags, views⟩
  · rintro ⟨tags, views⟩
    rcases d.bind_cases with ⟨tag, repeats, -⟩ | ⟨-, view, repeats, -⟩ | ⟨binding, -, -, bound, -⟩
    · exact absurd tags repeats.not_nodup
    · exact absurd views repeats.not_nodup
    · exact ⟨binding, bound⟩

theorem bind_of_repeated_tag {tag : String} (repeats : FirstRepeat d.tags tag) :
    d.bind = .error (.duplicateName "output tag" tag) := by
  rcases d.bind_cases with ⟨tag', repeats', fails⟩ | ⟨tags, -⟩ | ⟨_, tags, -⟩
  · rw [fails, repeats.unique repeats']
  · exact absurd tags repeats.not_nodup
  · exact absurd tags repeats.not_nodup

theorem bind_of_repeated_view {view : String} (tags : d.tags.Nodup)
    (repeats : FirstRepeat d.views view) : d.bind = .error (.duplicateName "side input" view) := by
  rcases d.bind_cases with ⟨_, repeated, -⟩ | ⟨-, view', repeats', fails⟩ | ⟨_, -, views, -⟩
  · exact absurd tags repeated.not_nodup
  · rw [fails, repeats.unique repeats']
  · exact absurd views repeats.not_nodup

end Declarations

/-! ### Tables -/

/-- What is declared for a side output. -/
def SideOutput.declaration (output : SideOutput) : SideDeclaration :=
  ⟨output.tag, output.type, output.channel.sink⟩

/-- Side outputs have the tags that they were declared with. -/
theorem SideOutput.nodup_tags {outputs : List SideOutput} {declared : List SideDeclaration}
    (same : outputs.map SideOutput.declaration = declared)
    (different : (declared.map SideDeclaration.tag).Nodup) :
    (outputs.map SideOutput.tag).Nodup := by
  rw [← same, List.map_map] at different
  exact different

namespace SideDeclaration

/-- The side outputs put into a table under their tags, one after the other.  A later one takes the
    place of an earlier one. -/
def table (declared : List SideDeclaration) : String → Option SideDeclaration :=
  declared.foldl (fun table d => Function.update table d.tag (some d)) fun _ => none

theorem table_concat (declared : List SideDeclaration) (d : SideDeclaration) :
    table (declared ++ [d]) = Function.update (table declared) d.tag (some d) := by
  rw [table, List.foldl_append]
  rfl

/-- As long as no tag is declared twice, each is found for its own tag. -/
theorem table_eq_some_iff {declared : List SideDeclaration}
    (different : (declared.map SideDeclaration.tag).Nodup) {tag : String} {d : SideDeclaration} :
    table declared tag = some d ↔ d ∈ declared ∧ d.tag = tag := by
  induction declared using List.reverseRecOn with
  | nil => simp [table]
  | append_singleton rest last ih =>
    rw [List.map_append, List.nodup_append] at different
    obtain ⟨different, -, apart⟩ := different
    rw [table_concat, List.mem_append, List.mem_singleton]
    -- under its own tag the last declaration stands in the table, and it is the only one with it
    by_cases same : tag = last.tag
    · subst same
      rw [Function.update_self, Option.some.injEq]
      constructor
      · rintro rfl
        exact ⟨.inr rfl, rfl⟩
      · rintro ⟨earlier | rfl, own⟩
        · exact absurd own (apart _ (List.mem_map_of_mem earlier) _ (List.mem_singleton_self _))
        · rfl
    · rw [Function.update_of_ne same, ih different]
      constructor
      · rintro ⟨earlier, own⟩
        exact ⟨.inl earlier, own⟩
      · rintro ⟨earlier | rfl, own⟩
        · exact ⟨earlier, own⟩
        · exact absurd own.symm same

/-- So the table has as many entries as there are declarations. -/
theorem ncard_table {declared : List SideDeclaration}
    (different : (declared.map SideDeclaration.tag).Nodup) :
    {tag | (table declared tag).isSome = true}.ncard = declared.length := by
  -- what is in the table are the tags of the declarations, which are different
  have tags : {tag | (table declared tag).isSome = true} =
      ((declared.map SideDeclaration.tag).toFinset : Set String) := by
    ext tag
    simp only [Set.mem_ofPred_eq, Option.isSome_iff_exists, table_eq_some_iff different,
      List.coe_toFinset, List.mem_map]
  rw [tags, Set.ncard_coe_finset, List.toFinset_card_of_nodup different, List.length_map]

end SideDeclaration

namespace Router

variable {r : Router β}

/-- A search of the side outputs finds the one with the tag, as long as no tag stands there twice. -/
theorem side?_eq_some_iff (different : (r.side.map SideOutput.tag).Nodup) {tag : String}
    {output : SideOutput} : r.side? tag = some output ↔ output ∈ r.side ∧ output.tag = tag := by
  constructor
  · intro found
    exact ⟨List.mem_of_find?_eq_some found, tag_of_side? found⟩
  · rintro ⟨member, rfl⟩
    obtain ⟨first, found⟩ := Option.isSome_iff_exists.mp
      (isSome_side?_iff.mpr (List.mem_map_of_mem member))
    -- a search finds the first one with the tag, and there is no second
    have same := List.inj_on_of_nodup_map different (List.mem_of_find?_eq_some found) member
      (tag_of_side? found)
    rw [found, same]

/-- An emission to the main output leaves the side outputs alone. -/
theorem side_emitMain (r : Router β) (scope : Scope α) (value : β) (explicit : Option Instant) :
    (r.emitMain scope value explicit).router.side = r.side := by
  unfold emitMain
  cases scope.resolve explicit <;> rfl

/-- To hand a record over leaves what is declared as it is. -/
theorem declarations_setChannel (different : (r.side.map SideOutput.tag).Nodup) {tag : String}
    {output : SideOutput} (declared : r.side? tag = some output) (record : Record Value) :
    (r.setChannel tag (output.channel.offer record).1).side.map SideOutput.declaration =
      r.side.map SideOutput.declaration := by
  rw [setChannel, List.map_map]
  refine List.map_congr_left fun other member => ?_
  rw [Function.comp_apply]
  -- only the side output with the tag changes its channel, and the channel keeps its sink
  by_cases same : other.tag = tag
  · obtain rfl := Option.some.inj (declared.symm.trans
      ((side?_eq_some_iff different).mpr ⟨member, same⟩))
    rw [if_pos (beq_iff_eq.mpr same), SideOutput.declaration, Channel.sink_offer]
    rfl
  · rw [if_neg (by simpa using same)]

end Router

/-! ### Declarations in a run -/

theorem Event.declarations_after {e : Event α β σ}
    (different : (e.before.router.side.map SideOutput.tag).Nodup) :
    e.after.router.side.map SideOutput.declaration =
      e.before.router.side.map SideOutput.declaration := by
  -- an event leaves the router alone, or it is one of the two emissions
  rcases e.router_cases with
    same | ⟨scope, value, explicit, made⟩ | ⟨scope, tag, value, explicit, made⟩
  · rw [same]
  · rw [made, Router.side_emitMain]
  · rw [made]
    obtain ⟨-, side | ⟨output, record, declared, side⟩⟩ :=
      e.before.router.channels_emitTagged scope tag value explicit
    · rw [side]
    · rw [side, Router.declarations_setChannel different declared]

/-- What is declared is there in every state of a run. -/
theorem Session.declarations_performAll {s : Session α β σ} {declared : List SideDeclaration}
    (start : s.runner.run.router.side.map SideOutput.declaration = declared)
    (different : (declared.map SideDeclaration.tag).Nodup) (calls : List (Call α)) :
    (s.performAll calls).1.runner.run.router.side.map SideOutput.declaration = declared := by
  -- by the events of the run: that no tag repeats is kept along with the declarations
  refine ((s.leads_events calls).invariant
    (fun s => s.router.side.map SideOutput.declaration = declared) (fun e _ same => ?_) start).2
  replace same : e.before.router.side.map SideOutput.declaration = declared := same
  exact (Event.declarations_after (SideOutput.nodup_tags same different)).trans same

/-! ### Declarations in another order -/

/-- The same declarations, with side outputs and views in another order. -/
structure Declarations.Reordered (d d' : Declarations α β) : Prop where
  sideOutputs : d.sideOutputs.Perm d'.sideOutputs
  views : d.views.Perm d'.views
  rest : d' = { d with sideOutputs := d'.sideOutputs, views := d'.views }

/-- The same router, with its side outputs in another order. -/
def Router.Reordered (r r' : Router β) : Prop :=
  (r.side.map SideOutput.tag).Nodup ∧ ∃ side, r.side.Perm side ∧ r' = { r with side }

namespace Router.Reordered

variable {r r' : Router β}

/-- Tags lead to the same side outputs in every order. -/
theorem side? (h : r.Reordered r') (tag : String) : r'.side? tag = r.side? tag := by
  obtain ⟨different, side, order, rfl⟩ := h
  have different' : (side.map SideOutput.tag).Nodup := (order.map _).nodup_iff.mp different
  -- with no tag twice, a search is a matter of membership
  refine Option.ext fun output => ?_
  rw [side?_eq_some_iff different, side?_eq_some_iff (r := { r with side }) different',
    order.mem_iff]

theorem setChannel (h : r.Reordered r') (tag : String) (channel : Channel Value) :
    (r.setChannel tag channel).Reordered (r'.setChannel tag channel) := by
  obtain ⟨different, side, order, rfl⟩ := h
  have tags : (r.setChannel tag channel).side.map SideOutput.tag = r.side.map SideOutput.tag :=
    congrArg (·.2.2) (r.tagging_setChannel tag channel)
  exact ⟨tags ▸ different, _, order.map _, rfl⟩

/-- An emission to the main output goes the same way in every order. -/
theorem emitMain (h : r.Reordered r') (scope : Scope α) (value : β) (explicit : Option Instant) :
    (r.emitMain scope value explicit).Related Router.Reordered
      (r'.emitMain scope value explicit) := by
  cases found : scope.resolve explicit with
  | error fault =>
    rw [emitMain_of_error found, emitMain_of_error found]
    exact ⟨h, rfl, rfl⟩
  | ok place =>
    rw [emitMain_of_ok found, emitMain_of_ok found]
    obtain ⟨different, side, order, rfl⟩ := h
    exact ⟨⟨different, side, order, rfl⟩, rfl, rfl⟩

/-- So does an emission to a side output. -/
theorem emitTagged (h : r.Reordered r') (scope : Scope α) (tag : String) (value : Value)
    (explicit : Option Instant) :
    (r.emitTagged scope tag value explicit).Related Router.Reordered
      (r'.emitTagged scope tag value explicit) := by
  -- the checks, the note of the tag and the count read nothing of the order
  have room : r'.hasRoom tag = r.hasRoom tag := by
    obtain ⟨-, side, -, rfl⟩ := h
    rfl
  have excess : r'.limit = r.limit ∧ r'.used = r.used := by
    obtain ⟨-, side, -, rfl⟩ := h
    exact ⟨rfl, rfl⟩
  have counted : Router.Reordered { r.markUsed tag with sideCount := r.sideCount + 1 }
      { r'.markUsed tag with sideCount := r'.sideCount + 1 } := by
    obtain ⟨different, side, order, rfl⟩ := h
    exact ⟨different, side, order, rfl⟩
  unfold Router.emitTagged
  rw [h.side? tag, room, excess.1, excess.2]
  cases r.side? tag with
  | none => exact ⟨h, rfl, rfl⟩
  | some output =>
    by_cases admitted : r.hasRoom tag = true
    · simp only [admitted, if_true]
      cases scope.resolve explicit with
      | error fault => exact ⟨h, rfl, rfl⟩
      | ok place =>
        by_cases typed : value.type = output.type
        · simp only [typed, if_true]
          exact ⟨counted.setChannel tag _, rfl, rfl⟩
        · simp only [typed, if_false]
          exact ⟨counted, rfl, rfl⟩
    · simp only [admitted]
      exact ⟨h, rfl, rfl⟩

end Router.Reordered

/-- Runs whose side outputs and views are declared in different orders. -/
def reordering : Simulation α β where
  Plans p p' := ∃ declared, p.sideInputs.declared.Perm declared ∧
    p' = { p with sideInputs := { p.sideInputs with declared } }
  Routers := Router.Reordered
  Logs := Eq
  plans := by
    rintro p _ ⟨declared, order, rfl⟩
    exact ⟨declared, fun view => order.mem_iff, rfl⟩
  emitMain scope value explicit h := h.emitMain scope value explicit
  emitTagged scope tag value explicit h := h.emitTagged scope tag value explicit
  takeCounts := by
    rintro r _ ⟨different, side, order, rfl⟩
    exact ⟨rfl, different, side, order, rfl⟩
  tell := by
    rintro span _ log _ notice ⟨⟩
    rfl
  within := by
    rintro span _ log _ next ⟨⟩
    rfl

namespace Declarations

variable {d d' : Declarations α β}

/-- Another order of what is bound can be bound as well. -/
theorem Reordered.exists_bind (h : d.Reordered d') {binding : Binding α β}
    (bound : d.bind = .ok binding) : ∃ binding', d'.bind = .ok binding' := by
  obtain ⟨tags, views⟩ := exists_bind_iff.mp ⟨binding, bound⟩
  exact exists_bind_iff.mpr
    ⟨(h.sideOutputs.map _).nodup_iff.mp tags, h.views.nodup_iff.mp views⟩

/-- What is bound is what was declared. -/
theorem toDeclarations_of_bind {binding : Binding α β} (bound : d.bind = .ok binding) :
    binding.toDeclarations = d := by
  rcases d.bind_cases with ⟨_, -, fails⟩ | ⟨-, _, -, fails⟩ | ⟨binding', -, -, bound', same⟩
  · exact absurd (fails.symm.trans bound) (by simp)
  · exact absurd (fails.symm.trans bound) (by simp)
  · obtain rfl := Except.ok.inj (bound'.symm.trans bound)
    exact same

/-- Bindings of the same declarations differ in the order of side outputs and views. -/
theorem Reordered.exists_eq {binding binding' : Binding α β}
    (h : binding.toDeclarations.Reordered binding'.toDeclarations) :
    ∃ sides views tags different, binding.sideOutputs.Perm sides ∧ binding.views.Perm views ∧
      binding' =
        ⟨{ binding.toDeclarations with sideOutputs := sides, views := views }, tags, different⟩ := by
  obtain ⟨⟨main, sides, views, reader, keyed, windowFn, provider, options, interrupt⟩, tags,
    different⟩ := binding'
  obtain ⟨sideOrder, viewOrder, rest⟩ := h
  cases rest
  exact ⟨sides, views, tags, different, sideOrder, viewOrder, rfl⟩

end Declarations

namespace Runner

variable {binding binding' : Binding α β}

theorem declarations_routerOf (binding : Binding α β) (settings : Settings) :
    (routerOf binding settings).side.map SideOutput.declaration = binding.sideOutputs := by
  rw [routerOf, List.map_map]
  exact List.map_id' binding.sideOutputs

/-- The states of two runs before their first event differ in the order of the side outputs. -/
theorem states_freshRun (h : binding.toDeclarations.Reordered binding'.toDeclarations)
    (settings : Settings) :
    (reordering : Simulation α β).States (freshRun binding settings)
      (freshRun binding' settings) := by
  obtain ⟨sides, views, tags, different, sideOrder, -, rfl⟩ := h.exists_eq
  have different := SideOutput.nodup_tags (declarations_routerOf binding settings) binding.tags_nodup
  exact ⟨⟨different, _, sideOrder.map _, rfl⟩, rfl, rfl⟩

/-- Their plans differ in the order of the views. -/
theorem plans_planOf (h : binding.toDeclarations.Reordered binding'.toDeclarations)
    (callback : Callback α β σ) (settings : Settings) :
    (reordering : Simulation α β).Plans (planOf callback binding settings)
      (planOf callback binding' settings) := by
  obtain ⟨sides, views, tags, different, -, viewOrder, rfl⟩ := h.exists_eq
  exact ⟨views, viewOrder, rfl⟩

/-- The notices that they are ready are the same: only the numbers of side outputs and views are
    told. -/
theorem states_ready (h : binding.toDeclarations.Reordered binding'.toDeclarations)
    (callback : Callback α β σ) (settings : Settings) {s s' : RunState β}
    (states : (reordering : Simulation α β).States s s') :
    (reordering : Simulation α β).States
      (s.tell (readyNotice (planOf callback binding settings) s))
      (s'.tell (readyNotice (planOf callback binding' settings) s')) := by
  obtain ⟨declared, viewOrder, planned⟩ := plans_planOf h callback settings
  -- lists in another order have the same length
  have same : readyNotice (planOf callback binding' settings) s' =
      readyNotice (planOf callback binding settings) s := by
    obtain ⟨_, _, _, rfl, ⟨-, side, sideOrder, rfl⟩, -⟩ := states.exists_eq
    rw [planned]
    simp only [readyNotice, sideOrder.length_eq, viewOrder.length_eq]
  rw [same]
  exact states.tell _

end Runner

/-! ### Declarations and runs -/

/-- A router resolves tags as they were declared. -/
structure Router.Resolves (r : Router β) (declared : List SideDeclaration) : Prop where
  /-- A declared tag leads to the type and the sink it was declared with, and no other tag leads
      anywhere. -/
  leads : ∀ tag d, (r.side? tag).map SideOutput.declaration = some d ↔ d ∈ declared ∧ d.tag = tag
  /-- Nothing is lost in a table where a later declaration takes the place of an earlier one. -/
  table : ∀ tag, (r.side? tag).map SideOutput.declaration = SideDeclaration.table declared tag
  /-- There are as many tags as declarations. -/
  count : {tag | (r.side? tag).isSome = true}.ncard = declared.length

/-- The sessions differ in the order of side outputs and views at most: tags lead to the same
    channels, and everything else is the same. -/
structure Session.Reordered (s s' : Session α β σ) : Prop where
  bundle : s'.bundle = s.bundle
  state : s'.runner.state = s.runner.state
  tags : ∀ tag, s'.runner.run.router.side? tag = s.runner.run.router.side? tag
  router : s'.runner.run.router =
    { s.runner.run.router with side := s'.runner.run.router.side }
  rest : s'.runner.run = { s.runner.run with router := s'.runner.run.router }

/-- A router with the declarations of a binding resolves them. -/
theorem Router.resolves_of_declarations {r : Router β} {declared : List SideDeclaration}
    (different : (declared.map SideDeclaration.tag).Nodup)
    (same : r.side.map SideOutput.declaration = declared) : r.Resolves declared := by
  have leads : ∀ tag d, (r.side? tag).map SideOutput.declaration = some d ↔
      d ∈ declared ∧ d.tag = tag := by
    intro tag d
    rw [← same, List.mem_map, Option.map_eq_some_iff]
    simp only [side?_eq_some_iff (SideOutput.nodup_tags same different)]
    constructor
    · rintro ⟨output, ⟨member, rfl⟩, rfl⟩
      exact ⟨⟨output, member, rfl⟩, rfl⟩
    · rintro ⟨⟨output, member, rfl⟩, rfl⟩
      exact ⟨output, ⟨member, rfl⟩, rfl⟩
  -- search and table agree, since both are told by membership
  have table : ∀ tag, (r.side? tag).map SideOutput.declaration =
      SideDeclaration.table declared tag := by
    intro tag
    refine Option.ext fun d => ?_
    rw [leads, SideDeclaration.table_eq_some_iff different]
  refine ⟨leads, table, ?_⟩
  rw [← SideDeclaration.ncard_table different]
  refine congrArg Set.ncard (Set.ext fun tag => ?_)
  rw [Set.mem_ofPred_eq, Set.mem_ofPred_eq, ← table, Option.isSome_map]

/-- Sessions that simulate each other differ in the order at most. -/
theorem Session.reordered_of_sessions {s s' : Session α β σ} (related : reordering.Sessions s s') :
    s.Reordered s' := by
  obtain ⟨⟨-, -, state, run, -⟩, bundle⟩ := related
  have order : s.runner.run.router.Reordered s'.runner.run.router := run.router
  -- in this simulation the logs are not only related but equal
  have told : (s.runner.run.bundle, s.runner.run.log) =
    (s'.runner.run.bundle, s'.runner.run.log) := run.told
  obtain ⟨span, log⟩ := Prod.mk.inj told
  refine ⟨bundle.symm, state.symm, order.side?, ?_, ?_⟩
  · obtain ⟨-, side, -, rest⟩ := order
    rw [rest]
  · have rest := run.rest
    rw [← span, ← log] at rest
    exact rest

/-- A runner that was built has told the numbers of its side outputs and views last. -/
theorem Runner.told_of_build {callback : Callback α β σ} {state : σ} {binding : Binding α β}
    {settings : Settings} {r : Runner α β σ}
    (built : (build callback state binding settings).outcome = .done r) :
    ∃ told entry aggregators, r.run.log = told ++ [entry] ∧
      entry.notice = .runnerReady r.plan.skew binding.sideOutputs.length binding.views.length
        binding.keyed binding.windowFn.name aggregators := by
  obtain ⟨-, -, -, -, plan, run⟩ := build_eq_done built
  obtain ⟨-, router⟩ := of_build built
  -- the notice is told after the setup, which has left the router as it was made
  have setup : (setupRun callback state binding settings).env.router = routerOf binding settings := by
    rw [← router, run]
    rfl
  refine ⟨_, _, (setupRun callback state binding settings).env.registry.size,
    congrArg RunState.log run, ?_⟩
  show readyNotice r.plan _ = _
  rw [readyNotice, setup, plan, routerOf, List.length_map]
  rfl

/-- **Declarations bind exactly.**  They are bound exactly when no tag and no view repeats, and
    otherwise refused with the first tag that equals an earlier one, or else with the first such
    view.  A runner that is built from what is bound tells how many side outputs and views there are,
    and in every state of every run its router resolves tags as they were declared.  The same
    declarations in another order are bound as well; a callback is set up alike, and every sequence
    of calls is replied to alike, with the same requests and answers, and leaves the same behind. -/
theorem declarations_exact (d : Declarations α β) :
    ((∃ binding, d.bind = .ok binding) ↔ d.tags.Nodup ∧ d.views.Nodup) ∧
    (∀ tag, FirstRepeat d.tags tag → d.bind = .error (.duplicateName "output tag" tag)) ∧
    (∀ view, d.tags.Nodup → FirstRepeat d.views view →
      d.bind = .error (.duplicateName "side input" view)) ∧
    ∀ binding, d.bind = .ok binding →
      (∀ (callback : Callback α β σ) (state : σ) (settings : Settings) (r : Runner α β σ),
        (Runner.build callback state binding settings).outcome = .done r →
          (∃ told entry aggregators, r.run.log = told ++ [entry] ∧
            entry.notice = .runnerReady r.plan.skew d.sideOutputs.length d.views.length d.keyed
              d.windowFn.name aggregators) ∧
          ∀ calls, (((Session.ofRunner r).performAll calls).1.runner.run.router).Resolves
            d.sideOutputs) ∧
      ∀ d', d.Reordered d' → ∃ binding', d'.bind = .ok binding' ∧
        ∀ (callback : Callback α β σ) (state : σ) (settings : Settings),
          let built := Runner.build callback state binding settings
          let built' := Runner.build callback state binding' settings
          built'.state = built.state ∧
            built'.outcome.map (fun _ => ()) = built.outcome.map (fun _ => ()) ∧
            ∀ r r', built.outcome = .done r → built'.outcome = .done r' → ∀ calls,
              ((Session.ofRunner r').performAll calls).2 =
                  ((Session.ofRunner r).performAll calls).2 ∧
                ((Session.ofRunner r').stages calls).map Stage.exchanges =
                  ((Session.ofRunner r).stages calls).map Stage.exchanges ∧
                ((Session.ofRunner r).performAll calls).1.Reordered
                  ((Session.ofRunner r').performAll calls).1 := by
  refine ⟨Declarations.exists_bind_iff, fun _ => Declarations.bind_of_repeated_tag,
    fun _ => Declarations.bind_of_repeated_view, fun binding bound => ?_⟩
  obtain rfl := Declarations.toDeclarations_of_bind bound
  constructor
  · intro callback state settings r built
    refine ⟨Runner.told_of_build built, fun calls => ?_⟩
    -- the declarations are there when the runner is built, and stay there
    have start : r.run.router.side.map SideOutput.declaration = binding.sideOutputs := by
      rw [(Runner.of_build built).2, Runner.declarations_routerOf]
    exact Router.resolves_of_declarations binding.tags_nodup
      (Session.declarations_performAll (s := .ofRunner r) start binding.tags_nodup calls)
  · intro d' order
    obtain ⟨binding', bound'⟩ := order.exists_bind bound
    obtain rfl := Declarations.toDeclarations_of_bind bound'
    refine ⟨binding', bound', fun callback state settings => ?_⟩
    -- both are set up and run in step, and the simulation says what that comes to
    obtain ⟨sameState, sameOutcome, related⟩ :=
      (Runner.states_freshRun order settings).build (Runner.plans_planOf order callback settings)
        (fun _ _ states => Runner.states_ready order callback settings states) state
    refine ⟨sameState.symm, sameOutcome.symm, fun r r' built built' calls => ?_⟩
    have start : reordering.Sessions (Session.ofRunner r) (Session.ofRunner r') :=
      ⟨related r r' built built', rfl⟩
    obtain ⟨last, replies, exchanges⟩ := start.performAll calls
    exact ⟨replies.symm, exchanges.symm, Session.reordered_of_sessions last⟩

/-! ### Two side outputs and two views

The callback reads a view, and emits its element to one of two side outputs.  Both are declared in
one order and in the other.
-/

namespace TwoOrders

/-- Reads the prices, and emits the element to the side output of numbers. -/
def callback : Callback Nat Nat Unit :=
  .ofProcess fun view state =>
    .ask (.sideInput "prices" .unsigned) fun _ =>
      .ask (.output (.emitTagged "numbers" ⟨.unsigned, view.element⟩ none)) fun result =>
        .stop state (.ofExcept result)

/-- A side output of texts, which takes nothing, and one of numbers; and two views. -/
def declared : Declarations Nat Nat :=
  { Declarations.ofMain .collecting with
    sideOutputs := [⟨"texts", .text, .failing "closed"⟩, ⟨"numbers", .unsigned, .collecting⟩]
    views := ["rates", "prices"] }

/-- The same in the other order. -/
def swapped : Declarations Nat Nat :=
  { declared with
    sideOutputs := [⟨"numbers", .unsigned, .collecting⟩, ⟨"texts", .text, .failing "closed"⟩]
    views := ["prices", "rates"] }

theorem reordered_swapped : declared.Reordered swapped where
  sideOutputs := List.Perm.swap ..
  views := List.Perm.swap ..
  rest := rfl

/-- One bundle with one element. -/
def calls : List (Call Nat) :=
  [.openBundle, .start, .process ⟨7, .epoch, .global⟩, .finish]

end TwoOrders

/-- In both orders the element reaches the side output of numbers, and the callback is answered
    alike.  With a third side output of numbers, nothing is bound. -/
theorem declarations_exact_twoOrders :
    (TwoOrders.declared.withSideOutput "numbers" .text .collecting).bind =
        .error (.duplicateName "output tag" "numbers") ∧
    ∃ binding binding' r r', TwoOrders.declared.bind = .ok binding ∧
      TwoOrders.swapped.bind = .ok binding' ∧
      (Runner.build TwoOrders.callback () binding .default).outcome = .done r ∧
      (Runner.build TwoOrders.callback () binding' .default).outcome = .done r' ∧
      ((Session.ofRunner r).performAll TwoOrders.calls).1.runner.run.router.reached
        (.tagged "numbers") = [⟨.inr ⟨.unsigned, (7 : Nat)⟩, .epoch, .global⟩] ∧
      ((Session.ofRunner r').stages TwoOrders.calls).map Stage.exchanges =
        ((Session.ofRunner r).stages TwoOrders.calls).map Stage.exchanges ∧
      ((Session.ofRunner r).performAll TwoOrders.calls).1.Reordered
        ((Session.ofRunner r').performAll TwoOrders.calls).1 := by
  constructor
  · obtain ⟨-, repeated, -⟩ := declarations_exact (σ := Unit)
      (TwoOrders.declared.withSideOutput "numbers" .text .collecting)
    exact repeated "numbers" ⟨["texts", "numbers"], [], rfl, by decide, by decide⟩
  · obtain ⟨bound, -, -, runs⟩ := declarations_exact (σ := Unit) TwoOrders.declared
    obtain ⟨-, order⟩ := runs _ rfl
    obtain ⟨binding', bound', alike⟩ := order _ TwoOrders.reordered_swapped
    obtain rfl := Except.ok.inj bound'
    obtain ⟨-, -, alike⟩ := alike TwoOrders.callback () .default
    obtain ⟨-, exchanges, last⟩ := alike _ _ rfl rfl TwoOrders.calls
    exact ⟨_, _, _, _, rfl, rfl, rfl, rfl, rfl, exchanges, last⟩

end BundleRunner
