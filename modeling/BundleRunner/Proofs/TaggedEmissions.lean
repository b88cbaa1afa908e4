import BundleRunner.Proofs.Capabilities
import BundleRunner.Proofs.TagLimit

namespace BundleRunner

/-!
# One emission to a side output

An emission to a side output passes three checks before its record is handed over: its tag is
declared, the limit leaves room for the tag, and the record finds a place.  A fault of any of these
leaves everything as it was.  Then the tag is noted, the emission counted and told, and only after
that the value may turn out to be of another type, or the sink may refuse the record.  A fault of
these two takes nothing back.

Each check is stated by itself, whatever the others say.  So which fault an emission ends with is a
matter of the order of the checks, and of nothing else:

* `Router.entryChecks`, `SideOutput.checks` — the three checks before the hand-over, and the two
  after it;
* `Router.emitTagged_entry` — an emission is refused with the first fault of the three, or admitted;
* `Router.emitTagged_of_admits` — what the router makes of an emission that is admitted;
* `RunState.HandsOver` — what such an emission leaves behind;
* `tagged_emission_exact` — all of this together.
-/

variable {α β : Type}

/-! ### The checks -/

/-- The checks of a record that is handed over to a side output: its value is of the declared type,
    and the sink takes it. -/
def SideOutput.checks (output : SideOutput) (record : Record Value) : List (Except Fault Unit) :=
  [if record.value.type = output.type then .ok ()
    else .error (.tagTypeMismatch output.tag output.type.name),
   output.channel.sink.answer output.channel.offered record]

/-- The checks of an emission before its record is handed over: the tag is declared, it is in use or
    the limit leaves room for it, and the record finds a place. -/
def Router.entryChecks (r : Router β) (scope : Scope α) (tag : String)
    (explicit : Option Instant) : List (Except Fault Unit) :=
  [if tag ∈ r.side.map SideOutput.tag then .ok () else .error (.unknownTag tag),
   if tag ∈ r.used ∨ r.used.length < r.limit then .ok ()
    else .error (.tooManyOutputs r.limit (r.used.length + 1)),
   (scope.resolve explicit).map fun _ => ()]

namespace Router

variable {r : Router β} {scope : Scope α} {tag : String} {value : Value} {explicit : Option Instant}
variable {output : SideOutput} {place : Placement}

/-- An emission is refused with the fault of the first check that fails, and it is admitted when none
    does. -/
theorem emitTagged_entry (r : Router β) (scope : Scope α) (tag : String) (value : Value)
    (explicit : Option Instant) :
    (∃ fault, firstFault? (r.entryChecks scope tag explicit) = some fault ∧
      r.emitTagged scope tag value explicit = r.refuse fault) ∨
    (firstFault? (r.entryChecks scope tag explicit) = none ∧
      ∃ output place, r.Admits scope tag explicit output place) := by
  rcases r.emitTagged_cases scope tag value explicit with
    ⟨undeclared, made⟩ | ⟨output, declared, full, made⟩ |
      ⟨output, fault, declared, room, unplaced, made⟩ |
      ⟨output, place, ⟨declared, room, placed⟩, -, -⟩
  -- each case fixes the outcomes of the checks up to the one that fails; those after it stay open
  · have unknown : tag ∉ r.side.map SideOutput.tag := by
      rw [← isSome_side?_iff, undeclared]
      simp
    refine .inl ⟨_, ?_, made⟩
    rw [entryChecks, if_neg unknown]
    rfl
  · have excess : ¬ (tag ∈ r.used ∨ r.used.length < r.limit) := by
      rw [← hasRoom_iff, full]
      simp
    refine .inl ⟨_, ?_, made⟩
    rw [entryChecks, if_pos (mem_of_side? declared), if_neg excess]
    rfl
  · refine .inl ⟨fault, ?_, made⟩
    rw [entryChecks, if_pos (mem_of_side? declared), if_pos (hasRoom_iff.mp room), unplaced]
    rfl
  · refine .inr ⟨?_, output, place, declared, room, placed⟩
    rw [entryChecks, if_pos (mem_of_side? declared), if_pos (hasRoom_iff.mp room), placed]
    rfl

/-! ### The hand-over -/

/-- An emission that is admitted is noted, counted and told.  If its value is of the declared type,
    the record is offered to the sink. -/
theorem emitTagged_of_admits (admits : r.Admits scope tag explicit output place) (value : Value) :
    r.emitTagged scope tag value explicit =
      if value.type = output.type then
        ⟨{ r.markUsed tag with sideCount := r.sideCount + 1 }.setChannel tag
            (output.channel.offer (place.record value)).1,
          some (.emitted (.tagged tag) place.timestamp place.windows.size),
          (output.channel.offer (place.record value)).2⟩
      else
        ⟨{ r.markUsed tag with sideCount := r.sideCount + 1 },
          some (.emitted (.tagged tag) place.timestamp place.windows.size),
          .error (.tagTypeMismatch tag output.type.name)⟩ := by
  simp only [emitTagged, admits.declared, admits.room, admits.placed, if_true]

/-- One tag is added to those in use, unless it is there already. -/
theorem length_used_markUsed (r : Router β) (tag : String) :
    (r.markUsed tag).used.length = r.used.length + if tag ∈ r.used then 0 else 1 := by
  unfold markUsed
  by_cases used : tag ∈ r.used
  · simp [used]
  · simp [used]

end Router

/-- An emission whose record is handed over to the side output behind a tag leads from one state to
    another and is answered. -/
structure RunState.HandsOver (s s' : RunState β) (tag : String) (output : SideOutput)
    (record : Record Value) (answer : Except Fault Unit) : Prop where
  /-- The answer is that of the two checks of the side output. -/
  answered : answer = ((firstFault? (output.checks record)).map .error).getD (.ok ())
  /-- Exactly the tag joins those in use. -/
  used : ∀ other, other ∈ s'.router.used ↔ other ∈ s.router.used ∨ other = tag
  /-- A tag in use is not noted again. -/
  usedLength : s'.router.used.length = s.router.used.length + if tag ∈ s.router.used then 0 else 1
  sideCount : s'.router.sideCount = s.router.sideCount + 1
  mainCount : s'.router.mainCount = s.router.mainCount
  /-- One event is logged, that something is emitted to the channel of the tag. -/
  told : ∃ entry : Log.Entry, s'.log = s.log ++ [entry] ∧ entry.notice.message = "emit" ∧
    entry.notice.fields = [("channel", .text ("tag:" ++ tag)),
      ("timestamp", .text record.timestamp.text), ("windows", .number record.windows.size)]
  /-- The main output stays as it is. -/
  main : s'.router.main = s.router.main
  /-- So do the side outputs behind other tags. -/
  others : ∀ other, other ≠ tag → s'.router.side? other = s.router.side? other
  /-- The side output of the tag holds one record more exactly when the answer is success. -/
  own : ∃ output', s'.router.side? tag = some output' ∧ output'.type = output.type ∧
    output'.channel.sink = output.channel.sink ∧
    (answer = .ok () → output'.channel.accepted = output.channel.accepted ++ [record]) ∧
    (answer ≠ .ok () → output'.channel.accepted = output.channel.accepted)
  /-- A sink does not hear of a record of another type. -/
  mistyped : record.value.type ≠ output.type → s'.router.side = s.router.side
  /-- Nothing but outputs and log has to do with it, and no tag is declared or given up. -/
  rest : s' = { s with router := s'.router, log := s'.log } ∧
    s'.router.limit = s.router.limit ∧
    s'.router.side.map SideOutput.tag = s.router.side.map SideOutput.tag

namespace RunState

variable {s : RunState β} {scope : Scope α} {tag : String} {value : Value}
variable {explicit : Option Instant} {output : SideOutput} {place : Placement}

/-- A record of another type than the side output takes is counted and told, and goes nowhere. -/
theorem handsOver_of_mistyped (admits : s.router.Admits scope tag explicit output place)
    (mistyped : value.type ≠ output.type) :
    s.HandsOver (s.emitTagged scope tag value explicit).1 tag output (place.record value)
      (s.emitTagged scope tag value explicit).2 := by
  have made := Router.emitTagged_of_admits admits value
  rw [if_neg mistyped] at made
  have named := Router.tag_of_side? admits.declared
  have typed : (place.record value).value.type ≠ output.type := mistyped
  -- nothing is offered, so every sink, the one of the tag included, is the one before
  rw [emitTagged, made]
  refine ⟨?_, fun other => Router.mem_markUsed, Router.length_used_markUsed _ _, rfl, rfl,
    ⟨_, rfl, rfl, rfl⟩, rfl, fun _ _ => rfl, ?_, fun _ => rfl, rfl, rfl, rfl⟩
  · rw [SideOutput.checks, if_neg typed, named]
    rfl
  · refine ⟨output, admits.declared, rfl, rfl, fun taken => ?_, fun _ => rfl⟩
    exact absurd (show Except.error _ = Except.ok () from taken) (by simp)

/-- A record of the declared type is counted and told, and offered to the sink. -/
theorem handsOver_of_typed (admits : s.router.Admits scope tag explicit output place)
    (typed : value.type = output.type) :
    s.HandsOver (s.emitTagged scope tag value explicit).1 tag output (place.record value)
      (s.emitTagged scope tag value explicit).2 := by
  have made := Router.emitTagged_of_admits admits value
  rw [if_pos typed] at made
  have typed' : (place.record value).value.type = output.type := typed
  -- the channel of the tag is put back whatever the sink says, since it has heard of the record
  rw [emitTagged, made]
  refine ⟨?_, fun other => Router.mem_markUsed, Router.length_used_markUsed _ _, rfl, rfl,
    ⟨_, rfl, rfl, rfl⟩, rfl, fun other different => ?_, ?_, fun mistyped => absurd typed mistyped,
    rfl, rfl, ?_⟩
  · show (output.channel.offer (place.record value)).2 = _
    rw [SideOutput.checks, if_pos typed', Channel.answer_offer]
    cases output.channel.sink.answer output.channel.offered (place.record value) with
    | ok => rfl
    | error fault => rfl
  · exact Router.side?_setChannel_of_ne different _ _
  · exact ⟨_, Router.side?_setChannel_self admits.declared _, rfl, Channel.sink_offer _ _,
      Channel.accepted_offer_of_ok, Channel.accepted_offer_of_ne_ok⟩
  · exact congrArg (·.2.2) (Router.tagging_setChannel _ _ _)

end RunState

/-- **One emission to a side output.**  In every state, for every scope, tag, value and timestamp:
    if a check before the hand-over fails, the emission ends with the fault of the first that does,
    and the state is the one before.  Otherwise the tag is declared and the record has a place; the
    emission is noted, counted and told, it ends with the first fault of the type and of the sink,
    and the sink behind the tag holds one record more exactly when there is none. -/
theorem tagged_emission_exact (s : RunState β) (scope : Scope α) (tag : String) (value : Value)
    (explicit : Option Instant) :
    (∀ fault, firstFault? (s.router.entryChecks scope tag explicit) = some fault →
      s.emitTagged scope tag value explicit = (s, .error fault)) ∧
    (firstFault? (s.router.entryChecks scope tag explicit) = none →
      ∃ output place, s.router.side? tag = some output ∧ output.tag = tag ∧
        scope.resolve explicit = .ok place ∧
        s.HandsOver (s.emitTagged scope tag value explicit).1 tag output (place.record value)
          (s.emitTagged scope tag value explicit).2) := by
  rcases s.router.emitTagged_entry scope tag value explicit with
    ⟨fault, first, made⟩ | ⟨passes, output, place, admits⟩
  · constructor
    · intro fault' first'
      obtain rfl := Option.some.inj (first.symm.trans first')
      rw [RunState.emitTagged, made]
      rfl
    · intro passes
      exact absurd (first.symm.trans passes) (by simp)
  · constructor
    · intro fault first
      exact absurd (passes.symm.trans first) (by simp)
    · intro _
      refine ⟨output, place, admits.declared, Router.tag_of_side? admits.declared, admits.placed, ?_⟩
      by_cases typed : value.type = output.type
      · exact RunState.handsOver_of_typed admits typed
      · exact RunState.handsOver_of_mistyped admits typed

end BundleRunner
