import BundleRunner.Channel
import BundleRunner.Emission
import BundleRunner.Log

namespace BundleRunner

/-!
# Routing of emissions

A `Router` hands emitted records to the main output or to a tagged side output.  The number of
declared side outputs is free, but only `limit` different ones can ever be used:

* `Router.emitMain`, `Router.emitTagged` — one emission, with its effect and its outcome;
* `Router.takeCounts` — the numbers of emissions since the last time, which start again at zero;
* `Router.takeAccepted` — the records that the outputs hold, which are taken out of them.

An emission that has passed its checks is counted before the sink is asked.
-/

variable {α β : Type}

/-- A declared side output: the tag, the type of its values, and the channel that takes them. -/
structure SideOutput where
  tag : String
  type : ValueType
  channel : Channel Value

/-- The outputs of a transform, the tags used so far, and the emissions counted so far. -/
structure Router (β : Type) where
  main : Channel β
  side : List SideOutput
  limit : Nat
  used : List String
  mainCount : Nat
  sideCount : Nat

namespace Router

/-- What an emission did: the router after it, what it told the log, and how it ended. -/
structure Delivery (β : Type) where
  router : Router β
  notice : Option Notice
  outcome : Except Fault Unit

/-- The delivery that changes nothing. -/
def refuse (r : Router β) (fault : Fault) : Delivery β := ⟨r, none, .error fault⟩

/-- The side output with a tag. -/
def side? (r : Router β) (tag : String) : Option SideOutput := r.side.find? (·.tag == tag)

/-- Whether a tag may be used: it was used before, or the limit leaves room for one more. -/
def hasRoom (r : Router β) (tag : String) : Bool :=
  r.used.contains tag || decide (r.used.length < r.limit)

/-- Note that a tag is used. -/
def markUsed (r : Router β) (tag : String) : Router β :=
  { r with used := if r.used.contains tag then r.used else r.used ++ [tag] }

/-- Put another channel behind a tag. -/
def setChannel (r : Router β) (tag : String) (channel : Channel Value) : Router β :=
  { r with side := r.side.map fun s => if s.tag == tag then { s with channel } else s }

/-- A tag is declared when there is a side output with it. -/
theorem isSome_side?_iff {r : Router β} {tag : String} :
    (r.side? tag).isSome = true ↔ tag ∈ r.side.map SideOutput.tag := by
  rw [side?, List.find?_isSome, List.mem_map]
  simp

theorem mem_of_side? {r : Router β} {tag : String} {output : SideOutput}
    (h : r.side? tag = some output) : tag ∈ r.side.map SideOutput.tag := by
  apply isSome_side?_iff.mp
  rw [h, Option.isSome_some]

theorem hasRoom_iff {r : Router β} {tag : String} :
    r.hasRoom tag = true ↔ tag ∈ r.used ∨ r.used.length < r.limit := by
  simp [hasRoom]

/-- A side output is found under its own tag. -/
theorem tag_of_side? {r : Router β} {tag : String} {output : SideOutput}
    (h : r.side? tag = some output) : output.tag = tag := by
  simpa using List.find?_some h

/-- The channels behind the other tags stay as they are. -/
theorem side?_setChannel (r : Router β) (tag other : String) (channel : Channel Value) :
    (r.setChannel tag channel).side? other =
      (r.side? other).map fun s => if s.tag == tag then { s with channel } else s := by
  have same : ((fun s : SideOutput => s.tag == other) ∘
      fun s : SideOutput => if s.tag == tag then { s with channel } else s) =
        fun s => s.tag == other := by
    funext s
    simp only [Function.comp_apply]
    split <;> rfl
  rw [side?, side?, setChannel, List.find?_map, same]

/-- Behind its own tag the new channel is found. -/
theorem side?_setChannel_self {r : Router β} {tag : String} {output : SideOutput}
    (declared : r.side? tag = some output) (channel : Channel Value) :
    (r.setChannel tag channel).side? tag = some { output with channel } := by
  rw [side?_setChannel, declared, Option.map_some, tag_of_side? declared,
    if_pos (beq_self_eq_true tag)]

/-- Behind another tag nothing changes. -/
theorem side?_setChannel_of_ne {tag other : String} (different : other ≠ tag) (r : Router β)
    (channel : Channel Value) : (r.setChannel tag channel).side? other = r.side? other := by
  rw [side?_setChannel]
  cases declared : r.side? other with
  | none => rfl
  | some s =>
    have differs : ¬ (s.tag == tag) = true := by
      rw [tag_of_side? declared]
      simpa using different
    rw [Option.map_some, if_neg differs]

/-- Emit a value to the main output. -/
def emitMain (r : Router β) (scope : Scope α) (value : β) (explicit : Option Instant) :
    Delivery β :=
  match scope.resolve explicit with
  | .error fault => r.refuse fault
  | .ok place =>
    let offered := r.main.offer (place.record value)
    ⟨{ r with main := offered.1, mainCount := r.mainCount + 1 },
      some (.emitted .main place.timestamp place.windows.size), offered.2⟩

/-- An emission to the main output without a placement changes nothing. -/
theorem emitMain_of_error {r : Router β} {scope : Scope α} {value : β} {explicit : Option Instant}
    {fault : Fault} (h : scope.resolve explicit = .error fault) :
    r.emitMain scope value explicit = r.refuse fault := by
  simp [emitMain, h]

/-- An emission to the main output with a placement is counted and told, and ends as the sink
    says. -/
theorem emitMain_of_ok {r : Router β} {scope : Scope α} {value : β} {explicit : Option Instant}
    {place : Placement} (h : scope.resolve explicit = .ok place) :
    r.emitMain scope value explicit =
      ⟨{ r with main := (r.main.offer (place.record value)).1, mainCount := r.mainCount + 1 },
        some (.emitted .main place.timestamp place.windows.size),
        (r.main.offer (place.record value)).2⟩ := by
  simp [emitMain, h]

/-- Emit a value to the side output with a tag.  The checks come in this order: the tag is
    declared, the limit leaves room for it, the placement is found, the type is the declared one,
    and the sink takes the record. -/
def emitTagged (r : Router β) (scope : Scope α) (tag : String) (value : Value)
    (explicit : Option Instant) : Delivery β :=
  match r.side? tag with
  | none => r.refuse (.unknownTag tag)
  | some output =>
    if r.hasRoom tag then
      match scope.resolve explicit with
      | .error fault => r.refuse fault
      | .ok place =>
        let counted := { r.markUsed tag with sideCount := r.sideCount + 1 }
        let notice := Notice.emitted (.tagged tag) place.timestamp place.windows.size
        if value.type = output.type then
          let offered := output.channel.offer (place.record value)
          ⟨counted.setChannel tag offered.1, some notice, offered.2⟩
        else ⟨counted, some notice, .error (.tagTypeMismatch tag output.type.name)⟩
    else r.refuse (.tooManyOutputs r.limit (r.used.length + 1))

/-- The records that the outputs hold: those of the main output, and those of each side output
    that holds any. -/
structure Accepted (β : Type) where
  main : List (Record β)
  side : List (String × List (Record Value))

/-- Take the records out of all outputs. -/
def takeAccepted (r : Router β) : Accepted β × Router β :=
  let side := r.side.map fun s => (s.tag, s.channel.accepted)
  (⟨r.main.accepted, side.filter fun s => !s.2.isEmpty⟩,
    { r with
      main := r.main.take.2
      side := r.side.map fun s => { s with channel := s.channel.take.2 } })

/-- Read the counters and set them to zero. -/
def takeCounts (r : Router β) : (Nat × Nat) × Router β :=
  ((r.mainCount, r.sideCount), { r with mainCount := 0, sideCount := 0 })

end Router

end BundleRunner
