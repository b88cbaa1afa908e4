import BundleRunner.Proofs.Changes

namespace BundleRunner

/-!
# The limit of side outputs

A router notes which side outputs were used, and lets only so many of them be used at all.  This
file proves that the note is kept over all bundles, and that the limit is exact.

Between the check of the limit and the note stands the placement of the record, which may fail; a
tag is then neither refused nor used.  After the note, the type and the sink may still refuse the
record, and the tag is used all the same.  A fault for the limit can also come from a window
function or from a sink, which may answer with any fault; `Router.HandsOn` tells these apart from
the router's own:

* `Router.emitTagged_cases` — the four ways in which a tagged emission can go;
* `Router.HandsOn` — the emission ends with a fault of the window function or of the sink, which may
  be any fault at all;
* `Router.refused_iff` — apart from these, an emission is refused for the limit exactly when its tag
  is declared and there is no room for it;
* `Router.Within` — the invariant: the used tags are declared, different, and no more than the
  limit;
* `tag_limit_exact` — the invariant and the exact limit, in every run.
-/

variable {α β σ : Type}

namespace Router

variable {r : Router β} {scope : Scope α} {tag : String} {value : Value} {explicit : Option Instant}

/-! ### One tagged emission -/

/-- What a router says about tags: the limit, the tags in use, and the tags that are declared. -/
def tagging (r : Router β) : Nat × List String × List String :=
  (r.limit, r.used, r.side.map SideOutput.tag)

theorem tagging_setChannel (r : Router β) (tag : String) (channel : Channel Value) :
    (r.setChannel tag channel).tagging = r.tagging := by
  have same : (SideOutput.tag ∘ fun s : SideOutput =>
      if s.tag == tag then { s with channel } else s) = SideOutput.tag := by
    funext s
    simp only [Function.comp_apply]
    split <;> rfl
  simp only [tagging, setChannel, List.map_map, same]

/-- An emission to the main output has nothing to do with tags. -/
theorem tagging_emitMain (r : Router β) (scope : Scope α) (value : β)
    (explicit : Option Instant) : (r.emitMain scope value explicit).router.tagging = r.tagging := by
  unfold emitMain
  cases scope.resolve explicit <;> rfl

/-- The emission passes the checks of tag and limit, and is placed. -/
structure Admits (r : Router β) (scope : Scope α) (tag : String) (explicit : Option Instant)
    (output : SideOutput) (place : Placement) : Prop where
  declared : r.side? tag = some output
  room : r.hasRoom tag = true
  placed : scope.resolve explicit = .ok place

/-- **One emission.** A tagged emission fails for its tag, for the limit or for its placement, and
    changes nothing; or it is admitted, its tag is used from then on, and it ends as its type and
    the sink say. -/
theorem emitTagged_cases (r : Router β) (scope : Scope α) (tag : String) (value : Value)
    (explicit : Option Instant) :
    (r.side? tag = none ∧ r.emitTagged scope tag value explicit = r.refuse (.unknownTag tag)) ∨
    (∃ output, r.side? tag = some output ∧ r.hasRoom tag = false ∧
      r.emitTagged scope tag value explicit =
        r.refuse (.tooManyOutputs r.limit (r.used.length + 1))) ∨
    (∃ output fault, r.side? tag = some output ∧ r.hasRoom tag = true ∧
      scope.resolve explicit = .error fault ∧
      r.emitTagged scope tag value explicit = r.refuse fault) ∨
    (∃ output place, r.Admits scope tag explicit output place ∧
      (r.emitTagged scope tag value explicit).router.tagging = (r.markUsed tag).tagging ∧
      (r.emitTagged scope tag value explicit).outcome =
        if value.type = output.type then (output.channel.offer (place.record value)).2
        else .error (.tagTypeMismatch tag output.type.name)) := by
  unfold emitTagged
  -- the checks in their order, each of which ends the emission if it fails
  cases declared : r.side? tag with
  | none => exact Or.inl ⟨rfl, rfl⟩
  | some output =>
    cases room : r.hasRoom tag with
    | false => exact Or.inr (Or.inl ⟨output, rfl, rfl, rfl⟩)
    | true =>
      cases placed : scope.resolve explicit with
      | error fault => exact Or.inr (Or.inr (Or.inl ⟨output, fault, rfl, rfl, rfl, rfl⟩))
      | ok place =>
        refine Or.inr (Or.inr (Or.inr ⟨output, place, ⟨declared, room, placed⟩, ?_⟩))
        simp only [if_true]
        -- from here on the tag is used, whatever the type and the sink say
        by_cases typed : value.type = output.type
        · rw [if_pos typed, if_pos typed]
          exact ⟨tagging_setChannel _ _ _, rfl⟩
        · rw [if_neg typed, if_neg typed]
          exact ⟨rfl, rfl⟩

/-- The emission passes the checks of tag and limit, and ends with a fault that the window function
    or the sink answers with. -/
def HandsOn (r : Router β) (scope : Scope α) (tag : String) (value : Value)
    (explicit : Option Instant) (fault : Fault) : Prop :=
  ∃ output, r.side? tag = some output ∧ r.hasRoom tag = true ∧
    (scope.resolve explicit = .error fault ∨
      ∃ place, scope.resolve explicit = .ok place ∧ value.type = output.type ∧
        (output.channel.offer (place.record value)).2 = .error fault)

/-- **The limit.** An emission ends with too many outputs, not because a collaborator says so,
    exactly when its tag is declared and there is no room for it. -/
theorem refused_iff {limit requested : Nat} :
    ((r.emitTagged scope tag value explicit).outcome = .error (.tooManyOutputs limit requested) ∧
      ¬ r.HandsOn scope tag value explicit (.tooManyOutputs limit requested)) ↔
    (r.side? tag).isSome = true ∧ r.hasRoom tag = false ∧
      limit = r.limit ∧ requested = r.used.length + 1 := by
  rcases r.emitTagged_cases scope tag value explicit with
    ⟨declared, made⟩ | ⟨output, declared, room, made⟩ |
      ⟨output, fault, declared, room, placed, made⟩ |
      ⟨output, place, ⟨declared, room, placed⟩, -, outcome⟩
  · -- the tag is not declared
    simp [made, refuse, declared]
  · -- there is no room: no collaborator is asked, and the fault is the router's own
    have own : ¬ r.HandsOn scope tag value explicit (.tooManyOutputs limit requested) := by
      rintro ⟨_, -, other, -⟩
      exact absurd (room.symm.trans other) (by simp)
    simp [made, refuse, declared, room, own, eq_comm]
  · -- there is room, and the window function refuses
    have theirs : r.HandsOn scope tag value explicit fault :=
      ⟨output, declared, room, Or.inl placed⟩
    constructor
    · rintro ⟨fails, own⟩
      rw [made] at fails
      obtain rfl := Except.error.inj fails
      exact absurd theirs own
    · rintro ⟨-, none, -⟩
      exact absurd (room.symm.trans none) (by simp)
  · constructor
    · rintro ⟨fails, own⟩
      rw [outcome] at fails
      -- the emission is placed, so that a fault for the limit can only be the sink's
      by_cases typed : value.type = output.type
      · rw [if_pos typed] at fails
        exact absurd ⟨output, declared, room, Or.inr ⟨place, placed, typed, fails⟩⟩ own
      · rw [if_neg typed] at fails
        exact absurd fails (by simp)
    · rintro ⟨-, none, -⟩
      exact absurd (room.symm.trans none) (by simp)

/-! ### What is kept -/

/-- The tags in use keep within a limit: they are declared, different, and no more than it. -/
structure Within (r : Router β) (tags : List String) (limit : Nat) : Prop where
  limit_eq : r.limit = limit
  tags_eq : r.side.map SideOutput.tag = tags
  nodup : r.used.Nodup
  declared : r.used ⊆ tags
  length_le : r.used.length ≤ limit

/-- A new router keeps within any limit. -/
theorem within_of_fresh (tags : List String) (limit : Nat) (fresh : r.tagging = (limit, [], tags)) :
    r.Within tags limit := by
  obtain ⟨limit_eq, rest⟩ := Prod.mk.inj fresh
  obtain ⟨used, tags_eq⟩ := Prod.mk.inj rest
  refine ⟨limit_eq, tags_eq, ?_, ?_, ?_⟩ <;> simp [used]

theorem Within.congr {r' : Router β} {tags : List String} {limit : Nat}
    (same : r'.tagging = r.tagging) (h : r.Within tags limit) : r'.Within tags limit := by
  obtain ⟨limit_eq, rest⟩ := Prod.mk.inj same
  obtain ⟨used, tags_eq⟩ := Prod.mk.inj rest
  exact ⟨limit_eq.trans h.limit_eq, tags_eq.trans h.tags_eq, used ▸ h.nodup, used ▸ h.declared,
    used ▸ h.length_le⟩

/-- The counters of a router have nothing to do with tags. -/
theorem within_world (s : RunState β) {tags : List String} {limit : Nat} :
    s.world.router.Within tags limit ↔ s.router.Within tags limit :=
  ⟨Within.congr rfl, Within.congr rfl⟩

theorem used_prefix_markUsed (r : Router β) (tag : String) : r.used <+: (r.markUsed tag).used := by
  by_cases used : r.used.contains tag = true
  · have same : (r.markUsed tag).used = r.used := if_pos used
    exact same ▸ List.prefix_rfl
  · have grown : (r.markUsed tag).used = r.used ++ [tag] := if_neg used
    exact grown ▸ List.prefix_append r.used [tag]

theorem mem_markUsed {other : String} :
    other ∈ (r.markUsed tag).used ↔ other ∈ r.used ∨ other = tag := by
  unfold markUsed
  by_cases used : r.used.contains tag = true
  · rw [if_pos used]
    have member : tag ∈ r.used := List.contains_iff_mem.mp used
    constructor
    · exact Or.inl
    · rintro (here | rfl)
      · exact here
      · exact member
  · rw [if_neg used, List.mem_append, List.mem_singleton]

/-- Whether there is room is a matter of the tags in use. -/
theorem Within.hasRoom_eq_false_iff {tags : List String} {limit : Nat} (h : r.Within tags limit) :
    r.hasRoom tag = false ↔ tag ∉ r.used ∧ r.used.length = limit := by
  have le := h.length_le
  have same := h.limit_eq
  simp only [hasRoom, Bool.or_eq_false_iff, decide_eq_false_iff_not, List.contains_eq_mem]
  constructor
  · rintro ⟨unused, full⟩
    exact ⟨unused, by omega⟩
  · rintro ⟨unused, full⟩
    exact ⟨unused, by omega⟩

/-- A tag is declared when there is a side output with it. -/
theorem Within.isSome_side?_iff {tags : List String} {limit : Nat} (h : r.Within tags limit) :
    (r.side? tag).isSome = true ↔ tag ∈ tags := by
  rw [← h.tags_eq, Router.isSome_side?_iff]

/-- To use a declared tag that there is room for keeps within the limit. -/
theorem Within.markUsed {tags : List String} {limit : Nat} (h : r.Within tags limit)
    (declared : (r.side? tag).isSome = true) (room : r.hasRoom tag = true) :
    (r.markUsed tag).Within tags limit := by
  have member : tag ∈ tags := h.isSome_side?_iff.mp declared
  -- a tag in use is not noted again; another one is noted behind them, for which there is room
  by_cases used : tag ∈ r.used
  · have same : (r.markUsed tag).tagging = r.tagging := by
      unfold Router.markUsed
      rw [if_pos (List.contains_iff_mem.mpr used)]
    exact h.congr same
  · have below : r.used.length < r.limit := by
      simpa [hasRoom, used] using room
    have grown : (r.markUsed tag).used = r.used ++ [tag] := by
      unfold Router.markUsed
      rw [if_neg (by simpa using used)]
    refine ⟨h.limit_eq, h.tags_eq, ?_, ?_, ?_⟩
    · rw [grown]
      exact List.nodup_append.mpr ⟨h.nodup, List.pairwise_singleton _ _, by
        rintro a ha b hb rfl
        exact used (List.mem_singleton.mp hb ▸ ha)⟩
    · rw [grown]
      exact List.append_subset.mpr ⟨h.declared, by simpa using member⟩
    · rw [grown, List.length_append, List.length_singleton, ← h.limit_eq]
      exact below

/-- **One emission.** A tagged emission keeps within the limit, and does not give up a tag; what it
    adds is its own tag, which it adds when it succeeds. -/
theorem Within.emitTagged {tags : List String} {limit : Nat} (h : r.Within tags limit)
    (scope : Scope α) (tag : String) (value : Value) (explicit : Option Instant) :
    (r.emitTagged scope tag value explicit).router.Within tags limit ∧
      r.used <+: (r.emitTagged scope tag value explicit).router.used ∧
      (∀ other ∈ (r.emitTagged scope tag value explicit).router.used,
        other ∈ r.used ∨ other = tag) ∧
      ((r.emitTagged scope tag value explicit).outcome = .ok () →
        tag ∈ (r.emitTagged scope tag value explicit).router.used) := by
  -- three of the four ways leave the router as it is, and none of them succeeds
  have unchanged : ∀ fault, r.emitTagged scope tag value explicit = r.refuse fault →
      (r.emitTagged scope tag value explicit).router.Within tags limit ∧
      r.used <+: (r.emitTagged scope tag value explicit).router.used ∧
      (∀ other ∈ (r.emitTagged scope tag value explicit).router.used,
        other ∈ r.used ∨ other = tag) ∧
      ((r.emitTagged scope tag value explicit).outcome = .ok () →
        tag ∈ (r.emitTagged scope tag value explicit).router.used) := by
    intro fault made
    rw [made]
    exact ⟨h, List.prefix_rfl, fun _ => Or.inl, fun done => absurd done (by simp [refuse])⟩
  rcases r.emitTagged_cases scope tag value explicit with
    ⟨-, made⟩ | ⟨_, -, -, made⟩ | ⟨_, fault, -, -, -, made⟩ |
      ⟨output, place, ⟨declared, room, -⟩, tagging, -⟩
  · exact unchanged _ made
  · exact unchanged _ made
  · exact unchanged _ made
  · have used : (r.emitTagged scope tag value explicit).router.used = (r.markUsed tag).used :=
      congrArg (·.2.1) tagging
    have marked := h.markUsed (by simp [declared]) room
    rw [used]
    exact ⟨marked.congr tagging, r.used_prefix_markUsed tag, fun _ => mem_markUsed.mp,
      fun _ => mem_markUsed.mpr (Or.inr rfl)⟩

end Router

/-! ### A run -/

/-- An emission to a side output. -/
structure TaggedEmission (α : Type) where
  scope : Scope α
  tag : String
  value : Value
  explicit : Option Instant

namespace TaggedEmission

/-- What a router makes of the emission. -/
def deliver (t : TaggedEmission α) (r : Router β) : Router.Delivery β :=
  r.emitTagged t.scope t.tag t.value t.explicit

/-- The emission is refused for the limit: it ends with too many outputs, and it is not that the
    window function or the sink says so. -/
def RefusedFor (t : TaggedEmission α) (r : Router β) (limit requested : Nat) : Prop :=
  (t.deliver r).outcome = .error (.tooManyOutputs limit requested) ∧
    ¬ r.HandsOn t.scope t.tag t.value t.explicit (.tooManyOutputs limit requested)

end TaggedEmission

/-- The tagged emission that a request is, if it is one. -/
def OutputRequest.tagged? (scope : Scope α) : OutputRequest β → Option (TaggedEmission α)
  | emitTagged tag value explicit => some ⟨scope, tag, value, explicit⟩
  | _ => none

/-- The tagged emission that an event is, if it is one. -/
def Event.tagged? : Event α β σ → Option (TaggedEmission α)
  | .request m => m.output?.bind fun asked => asked.2.tagged? asked.1
  | _ => none

namespace Event

/-- A tagged emission does to the outputs what the router makes of it. -/
theorem router_of_tagged {e : Event α β σ} {t : TaggedEmission α} (tagged : e.tagged? = some t) :
    e.after.router = (t.deliver e.before.router).router := by
  cases e with
  | request m =>
    obtain ⟨⟨scope, request⟩, output, tagged⟩ := Option.bind_eq_some_iff.mp tagged
    rw [after, before, (Moment.after_of_output output).1]
    cases request with
    | emitTagged tag value explicit =>
      obtain rfl := Option.some.inj tagged
      exact m.before.router_deliver _
    | _ => exact absurd tagged (by simp [OutputRequest.tagged?])
  | _ => exact absurd tagged (by simp [tagged?])

/-- What is no tagged emission has nothing to do with tags. -/
theorem tagging_of_untagged {e : Event α β σ} (untagged : e.tagged? = none) :
    e.after.router.tagging = e.before.router.tagging := by
  by_cases part : e.part = .outputs
  · -- only the two emissions change the outputs
    cases e with
    | request m =>
      cases output : m.output? with
      | none =>
        exact absurd part (Part.ne_of_mem (Moment.part_mem_of_inner output) (by decide))
      | some asked =>
        obtain ⟨scope, request⟩ := asked
        obtain ⟨made, same⟩ := Moment.after_of_output output
        have part : request.part = .outputs := same.symm.trans part
        have untagged : request.tagged? scope = none := by
          simpa [tagged?, output] using untagged
        rw [after, before, made]
        cases request with
        | emit value explicit =>
          rw [OutputRequest.perform, RunState.emit, RunState.router_deliver]
          exact m.before.router.tagging_emitMain scope value explicit
        | emitTagged tag value explicit =>
          exact absurd untagged (by simp [OutputRequest.tagged?])
        | shared request =>
          exact absurd part (Part.ne_of_mem request.part_mem (by decide))
        | _ => exact absurd part (by simp [OutputRequest.part])
    | _ => exact absurd part (part_ne_of_silent rfl rfl)
  · rw [router_after part]

end Event

/-- An emission is refused for the limit exactly when its tag is declared and not in use, and as
    many tags as the limit allows are. -/
theorem TaggedEmission.refusedFor_iff {t : TaggedEmission α} {r : Router β} {tags : List String}
    {maxTags : Nat} (h : r.Within tags maxTags) {limit requested : Nat} :
    t.RefusedFor r limit requested ↔
      t.tag ∈ tags ∧ t.tag ∉ r.used ∧ r.used.length = maxTags ∧
        limit = maxTags ∧ requested = maxTags + 1 := by
  unfold RefusedFor deliver
  -- within the limit, that there is no room means that the limit is reached
  rw [Router.refused_iff, h.isSome_side?_iff, h.hasRoom_eq_false_iff, h.limit_eq]
  constructor
  · rintro ⟨declared, ⟨unused, full⟩, rfl, rfl⟩
    exact ⟨declared, unused, full, rfl, by rw [full]⟩
  · rintro ⟨declared, unused, full, rfl, rfl⟩
    exact ⟨declared, ⟨unused, full⟩, rfl, by rw [full]⟩

/-- An event keeps within the limit, which is exact. -/
structure Event.Limited (e : Event α β σ) (tags : List String) (maxTags : Nat) : Prop where
  before : e.before.router.Within tags maxTags
  after : e.after.router.Within tags maxTags
  /-- No tag is given up. -/
  grows : e.before.router.used <+: e.after.router.used
  /-- A tag that is added is the one of an emission. -/
  adds : ∀ tag ∈ e.after.router.used,
    tag ∈ e.before.router.used ∨ ∃ t, e.tagged? = some t ∧ t.tag = tag
  /-- An emission that succeeds has its tag in use. -/
  done : ∀ t, e.tagged? = some t → (t.deliver e.before.router).outcome = .ok () →
    t.tag ∈ e.after.router.used
  /-- An emission is refused for the limit exactly when the limit is reached without its tag. -/
  refused : ∀ t, e.tagged? = some t → ∀ limit requested,
    t.RefusedFor e.before.router limit requested ↔
      t.tag ∈ tags ∧ t.tag ∉ e.before.router.used ∧ e.before.router.used.length = maxTags ∧
        limit = maxTags ∧ requested = maxTags + 1

/-- **One event.** From a state within the limit, an event keeps within it. -/
theorem Event.limited (e : Event α β σ) {tags : List String} {maxTags : Nat}
    (h : e.before.router.Within tags maxTags) : e.Limited tags maxTags := by
  -- only a tagged emission has to do with tags
  cases tagged : e.tagged? with
  | some t =>
    obtain ⟨within, grows, adds, done⟩ := h.emitTagged t.scope t.tag t.value t.explicit
    have made := router_of_tagged tagged
    refine ⟨h, made ▸ within, made ▸ grows, fun tag used => ?_, fun t' same succeeds => ?_,
      fun t' same limit requested => TaggedEmission.refusedFor_iff h⟩
    · exact (adds tag (made ▸ used)).imp_right fun same => ⟨t, tagged, same.symm⟩
    · obtain rfl := Option.some.inj (tagged.symm.trans same)
      rw [made]
      exact done succeeds
  | none =>
    have same := tagging_of_untagged tagged
    have used : e.after.router.used = e.before.router.used := congrArg (·.2.1) same
    refine ⟨h, h.congr same, used ▸ List.prefix_rfl, fun tag ha => Or.inl (used ▸ ha), ?_, ?_⟩
    · intro t here
      exact absurd (tagged.symm.trans here) (by simp)
    · intro t here
      exact absurd (tagged.symm.trans here) (by simp)

/-- **The limit is exact.**  In every run of a runner that was built, over any number of bundles
    and in whatever way they end: the tags in use are declared, different, and no more than the
    limit, which is positive.  From event to event they only grow, by the tags of emissions, and an
    emission that succeeds has its tag in use.  An emission is refused for the limit exactly when
    its tag is declared and not in use, and as many tags as the limit allows are; then it says so,
    and that one more was requested.  When a tag is in use, no later emission to it is refused for
    the limit. -/
theorem tag_limit_exact (callback : Callback α β σ) (state : σ) (binding : Binding α β)
    (settings : Settings) (r : Runner α β σ)
    (built : (Runner.build callback state binding settings).outcome = .done r)
    (calls : List (Call α)) :
    0 < settings.maxTags ∧
    ((Session.ofRunner r).performAll calls).1.runner.run.router.Within binding.tags
      settings.maxTags ∧
    ∀ xs e ys, (Session.ofRunner r).events calls = xs ++ e :: ys →
      e.Limited binding.tags settings.maxTags ∧
      (∀ later ∈ ys, e.after.router.used <+: later.before.router.used ∧
        ∀ t, later.tagged? = some t → t.tag ∈ e.after.router.used →
          ∀ limit requested, ¬ t.RefusedFor later.before.router limit requested) ∧
      e.after.router.used <+:
        ((Session.ofRunner r).performAll calls).1.runner.run.router.used := by
  obtain ⟨-, router⟩ := Runner.of_build built
  obtain ⟨valid, -⟩ := Runner.build_eq_done built
  have positive : 0 < settings.maxTags := by
    unfold Settings.validate at valid
    by_cases zero : settings.maxTags = 0
    · rw [if_pos zero] at valid
      exact absurd valid (by simp)
    · omega
  have start : (Session.ofRunner r).runner.run.router.Within binding.tags settings.maxTags := by
    refine Router.within_of_fresh _ _ ?_
    show r.run.router.tagging = _
    rw [router]
    simp [Router.tagging, Runner.routerOf, Declarations.tags, Function.comp_def]
  -- by the events of the run, from a router that has no tag in use
  have leads := (Session.ofRunner r).leads_events calls
  obtain ⟨kept, stop⟩ := leads.invariant
    (fun s => s.router.Within binding.tags settings.maxTags)
    (fun e _ within => (Router.within_world _).mpr
      (e.limited ((Router.within_world _).mp within)).after)
    ((Router.within_world _).mpr start)
  refine ⟨positive, (Router.within_world _).mp stop, fun xs e ys split => ?_⟩
  have within : ∀ e ∈ (Session.ofRunner r).events calls,
      e.before.router.Within binding.tags settings.maxTags :=
    fun e he => (Router.within_world _).mp (kept e he).1
  rw [split] at leads
  have members : ∀ later ∈ e :: ys, later ∈ (Session.ofRunner r).events calls := by
    intro later h
    rw [split]
    exact List.mem_append_right _ h
  -- what is in use after an event stays in use, by the events that follow it
  obtain ⟨grown, stop⟩ := leads.split.2.invariant (fun s => e.after.router.used <+: s.router.used)
    (fun later h grown => grown.trans
      (later.limited (within later (members later (List.mem_cons_of_mem _ h)))).grows)
    List.prefix_rfl
  refine ⟨e.limited (within e (members e (List.mem_cons_self ..))), fun later h => ?_, stop⟩
  have grows : e.after.router.used <+: later.before.router.used := (grown later h).1
  refine ⟨grows, fun t tagged used limit requested refused => ?_⟩
  -- a refusal would say that the tag is not in use
  have bounded := within later (members later (List.mem_cons_of_mem _ h))
  obtain ⟨-, unused, -⟩ := (TaggedEmission.refusedFor_iff bounded).mp refused
  exact unused (grows.subset used)

/-! ### A callback with more tags than the limit

The callback emits each element behind the tag that the element names.  Three tags are declared, and
two may be used.
-/

namespace SortsByTag

/-- Emits the number of letters behind the tag that the element is. -/
def callback : Callback String Nat Unit :=
  .ofProcess fun view state =>
    .ask (.output (.emitTagged view.element ⟨.unsigned, view.element.length⟩ none)) fun result =>
      .stop state (.ofExcept result)

/-- The declaration of a side output of numbers with a tag. -/
def output (tag : String) : SideDeclaration := ⟨tag, .unsigned, .collecting⟩

/-- Three side outputs. -/
def binding : Binding String Nat :=
  ⟨{ Declarations.ofMain .collecting with sideOutputs := [output "a", output "b", output "c"] },
    by decide, List.nodup_nil⟩

/-- Two tags may be used. -/
def settings : Settings := ⟨.zero, 2⟩

/-- A record of a text at the epoch, in the whole of time. -/
def record (tag : String) : Record String := ⟨tag, .epoch, .single .global⟩

/-- A bundle with a tag that is not declared, which fails, and one with all declared tags. -/
def calls : List (Call String) :=
  [.openBundle, .start, .process (record "a"), .process (record "d"),
    .openBundle, .start, .process (record "b"), .process (record "c")]

end SortsByTag

/-- The third tag is refused, in a bundle of its own; the first, used in a bundle that failed, is
    still in use. -/
theorem tag_limit_exact_sortsByTag :
    ∃ r, (Runner.build SortsByTag.callback () SortsByTag.binding
        SortsByTag.settings).outcome = .done r ∧
      ((Session.ofRunner r).performAll SortsByTag.calls).2 =
        [.opened 1, .moved (.done ()), .moved (.done ()), .moved (.failed (.unknownTag "d")),
          .opened 2, .moved (.done ()), .moved (.done ()),
          .moved (.failed (.tooManyOutputs 2 3))] ∧
      ((Session.ofRunner r).performAll SortsByTag.calls).1.runner.run.router.used = ["a", "b"] ∧
      ((Session.ofRunner r).performAll SortsByTag.calls).1.runner.run.router.used.length ≤ 2 := by
  refine ⟨_, rfl, rfl, rfl, ?_⟩
  obtain ⟨-, within, -⟩ := tag_limit_exact SortsByTag.callback () SortsByTag.binding
    SortsByTag.settings _ rfl SortsByTag.calls
  exact within.length_le

end BundleRunner
