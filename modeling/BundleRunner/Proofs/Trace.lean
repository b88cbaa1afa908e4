import BundleRunner.Proofs.Interruption
import BundleRunner.Proofs.Summary

namespace BundleRunner

/-!
# The log as a trace

Of all that a run tells the log, the news of the bundles can be told apart by their target.  This
file proves that they are a faithful trace: one entry for each call on a bundle, which says what
became of the call, so that the phase of the bundle can be read off the log alone.

* `RunState.Inside` — what callbacks can tell: nothing about the life of a bundle, and all of it
  inside the span of the bundle that is running;
* `Stage.tells_of_begun` — what a call that passes the order check tells, whatever its callbacks do;
* `Stage.Traced` — the one entry that a call tells about the life of its bundle;
* `Log.replay` — the phase of a bundle, read off the log;
* `log_traces_lifecycle` — every call is traced, and to replay the log gives the phase.

A callback can fail with any fault, the one of a refused call among them.  The entry still says that
the bundle failed, since it is told by whoever made the decision and not by a look at the fault.
-/

variable {α β σ : Type}

/-- Whether an entry is about the life of a bundle. -/
def Log.Entry.isLifecycle (entry : Log.Entry) : Bool :=
  entry.notice.target == "spark_flow::lifecycle"

/-! ### What callbacks tell -/

/-- From the state `s` to the state `s'` the span stays the same, and all that is told is told
    inside it, and not about the life of a bundle. -/
structure RunState.Inside (s s' : RunState β) : Prop where
  bundle : s'.bundle = s.bundle
  told : ∃ told : List Log.Entry, s'.log = s.log ++ told ∧
    ∀ entry ∈ told, entry.bundle = s.bundle ∧ entry.isLifecycle = false

namespace RunState.Inside

variable {s t u : RunState β}

/-- Where neither the span nor the log changes, nothing is told. -/
theorem of_same (bundle : t.bundle = s.bundle) (log : t.log = s.log) : s.Inside t :=
  ⟨bundle, [], by rw [log, List.append_nil], by simp⟩

theorem refl (s : RunState β) : s.Inside s := of_same rfl rfl

theorem trans (first : s.Inside t) (second : t.Inside u) : s.Inside u := by
  obtain ⟨told, log, inside⟩ := first.told
  obtain ⟨told', log', inside'⟩ := second.told
  refine ⟨second.bundle.trans first.bundle, told ++ told', ?_, fun entry h => ?_⟩
  · rw [log', log, List.append_assoc]
  · rcases List.mem_append.mp h with h | h
    · exact inside entry h
    · rw [first.bundle] at inside'
      exact inside' entry h

/-- A notice is told inside the span. -/
theorem tell (s : RunState β) {notice : Notice} (other : notice.target ≠ "spark_flow::lifecycle") :
    s.Inside (s.tell notice) := by
  refine ⟨rfl, [⟨notice, s.bundle⟩], rfl, fun entry h => ?_⟩
  obtain rfl := List.mem_singleton.mp h
  exact ⟨rfl, beq_eq_false_iff_ne.mpr other⟩

theorem tellAny (s : RunState β) {notice : Option Notice}
    (other : ∀ n, notice = some n → n.target ≠ "spark_flow::lifecycle") :
    s.Inside (s.tellAny notice) := by
  cases notice with
  | none => exact refl s
  | some notice => exact tell s (other notice rfl)

end RunState.Inside

namespace Router

/-- All that an emission to the main output tells is that it was routed. -/
theorem target_emitMain {r : Router β} {scope : Scope α} {value : β} {explicit : Option Instant}
    {notice : Notice} (told : (r.emitMain scope value explicit).notice = some notice) :
    notice.target = "spark_flow::router" := by
  cases found : scope.resolve explicit with
  | error fault =>
    rw [emitMain_of_error found] at told
    exact absurd told (by simp [refuse])
  | ok place =>
    rw [emitMain_of_ok found] at told
    obtain rfl := Option.some.inj told
    rfl

/-- So it is with an emission to a side output. -/
theorem target_emitTagged {r : Router β} {scope : Scope α} {tag : String} {value : Value}
    {explicit : Option Instant} {notice : Notice}
    (told : (r.emitTagged scope tag value explicit).notice = some notice) :
    notice.target = "spark_flow::router" := by
  unfold emitTagged at told
  cases declared : r.side? tag with
  | none => simp [declared, refuse] at told
  | some output =>
    by_cases room : r.hasRoom tag = true
    · cases found : scope.resolve explicit with
      | error fault => simp [declared, room, found, refuse] at told
      | ok place =>
        simp only [declared, room, found, if_true] at told
        -- the emission is told before its type is looked at
        by_cases typed : value.type = output.type
        · rw [if_pos typed] at told
          obtain rfl := Option.some.inj told
          rfl
        · rw [if_neg typed] at told
          obtain rfl := Option.some.inj told
          rfl
    · simp [declared, room, refuse] at told

end Router

/-- A registration tells that an aggregator was registered, if anything. -/
theorem Registry.target_create {r : Registry} {name : String} {input output : ValueType}
    {combiner : Combiner input.Carrier output.Carrier} {notice : Notice}
    (told : (r.create name combiner).notice = some notice) :
    notice.target = "spark_flow::aggregator" := by
  cases obstacle : r.obstacle? name with
  | some fault =>
    rw [create_of_obstacle obstacle] at told
    exact absurd told (by simp)
  | none =>
    rw [create_of_free obstacle] at told
    obtain rfl := Option.some.inj told
    rfl

theorem SharedRequest.inside_perform (request : SharedRequest) (s : RunState β) :
    s.Inside (request.perform s).1 := by
  cases request with
  | create name input output combiner =>
    have registered : s.Inside { s with registry := (s.registry.create name combiner).registry } :=
      .of_same rfl rfl
    refine registered.trans (.tellAny _ fun notice told => ?_)
    rw [Registry.target_create told]
    decide
  | _ => exact .of_same rfl rfl

theorem SetupRequest.inside_perform (request : SetupRequest) (s : RunState β) :
    s.Inside (request.perform s).1 := by
  cases request with
  | shared request => exact request.inside_perform s
  | find name input output => exact .refl s

/-- What a router delivers is told inside the span. -/
theorem RunState.inside_deliver (s : RunState β) {d : Router.Delivery β}
    (routed : ∀ notice, d.notice = some notice → notice.target = "spark_flow::router") :
    s.Inside (s.deliver d).1 := by
  have delivered : s.Inside { s with router := d.router } := .of_same rfl rfl
  refine delivered.trans (.tellAny _ fun notice told => ?_)
  rw [routed notice told]
  decide

theorem RunState.inside_useState (s : RunState β) (handle : StateHandle) (call : StateCall) :
    s.Inside (s.useState handle call).1 := by
  unfold useState
  split
  · exact .refl s
  · split
    · exact .refl s
    · exact .of_same rfl rfl

theorem OutputRequest.inside_perform (scope : Scope α) (request : OutputRequest β)
    (s : RunState β) : s.Inside (request.perform scope s).1 := by
  cases request with
  | shared request => exact request.inside_perform s
  | emit value explicit => exact s.inside_deliver fun notice told => Router.target_emitMain told
  | emitTagged tag value explicit =>
    exact s.inside_deliver fun notice told => Router.target_emitTagged told
  | useState handle call => exact s.inside_useState handle call
  | useInternals handle => exact .refl s

theorem ElementRequest.inside_perform (i : Invocation α) (request : ElementRequest β)
    (s : ElementState β) : s.run.Inside (request.perform i s).1.run := by
  cases request with
  | output request => exact request.inside_perform i.emission s.run
  | checkInterrupt => exact .refl s.run
  | sideInput view type =>
    simp only [ElementRequest.perform, Invocation.sideInput]
    split <;> exact .of_same rfl rfl
  | keyedState =>
    simp only [ElementRequest.perform, Invocation.keyedState, Invocation.askKeyedState]
    split
    · exact .refl s.run
    · split <;> exact .of_same rfl rfl
  | window =>
    simp only [ElementRequest.perform, Invocation.window, Invocation.askWindow]
    split
    · exact .refl s.run
    · split <;> exact .of_same rfl rfl
  | internals =>
    simp only [ElementRequest.perform, Invocation.internals, Invocation.askInternals]
    split
    · exact .refl s.run
    · split <;> exact .of_same rfl rfl

namespace Runner

/-- A bundle phase of a callback, however it ends, tells inside the span. -/
theorem inside_runBundlePhase (r : Runner α β σ)
    (phase : Options → σ → Program (@OutputRequest.Answer β) σ) :
    r.run.Inside (r.runBundlePhase phase).1.run := by
  unfold runBundlePhase
  split
  · exact .refl r.run
  · exact Program.run_invariant (fun s => r.run.Inside s)
      (fun request s inside => inside.trans (request.inside_perform _ s)) _ _ (.refl r.run)

/-- So does an invocation. -/
theorem inside_invoke (r : Runner α β σ) (record : Record α) :
    r.run.Inside (r.invoke record).1.run := by
  unfold invoke
  split
  · exact .refl r.run
  · have leased : r.run.Inside (lease r.run) := .of_same rfl rfl
    have invoked := Program.run_invariant (fun s : ElementState β => r.run.Inside s.run)
      (fun request s inside => inside.trans (request.inside_perform ⟨r.plan, record, r.run.leases⟩ s))
      (r.callback.process (Invocation.view ⟨r.plan, record, r.run.leases⟩) r.state)
      ⟨lease r.run, .none⟩ leased
    exact invoked.trans (.of_same rfl rfl)

theorem inside_invokeEach (record : Record α) (ws : List Window) (r : Runner α β σ) :
    r.run.Inside (invokeEach record ws r).1.run := by
  induction ws generalizing r with
  | nil => exact .refl r.run
  | cons w ws ih =>
    have first := r.inside_invoke (record.narrow w)
    unfold invokeEach
    split
    next r' invoked =>
      rw [invoked] at first
      exact first.trans (ih r')
    next r' ended _ invoked =>
      rw [invoked] at first
      exact first

theorem inside_runElement (r : Runner α β σ) (record : Record α) :
    r.run.Inside (r.runElement record).1.run := by
  unfold runElement
  split
  · exact r.inside_invoke record
  · exact inside_invokeEach record record.windows.windows r

end Runner

/-! ### What the library tells of a call -/

/-- The phase that a bundle is in while the callbacks of an operation run. -/
def Operation.during : Operation → BundlePhase → BundlePhase
  | process, _ => .processingElement
  | _, phase => phase

/-- What is told when an operation that has begun is settled.  After a panic, nothing is. -/
def Bundle.verdict (begun : Bundle) (operation : Operation) : Outcome Unit → List Log.Entry
  | .done () => [⟨.transition begun.id operation begun.phase operation.target, some begun.id⟩]
  | .failed fault => [⟨.bundleFailed begun.id operation begun.phase fault, some begun.id⟩]
  | .panicked _ => []

/-- What is told about the bundle with a number when a call is replied to: the summary, if there
    is one. -/
def Reply.announcement (id : Nat) : Reply → List Log.Entry
  | .finished (.done summary) => [⟨.bundleFinished summary, some id⟩]
  | _ => []

namespace Bundle

/-- To count an element changes nothing that is told about it. -/
theorem verdict_tally (b : Bundle) (ended : Outcome Nat) :
    (b.tally ended).verdict = b.verdict := by
  cases ended <;> rfl

@[simp] theorem id_tally (b : Bundle) (ended : Outcome Nat) : (b.tally ended).id = b.id := by
  cases ended <;> rfl

@[simp] theorem id_settle (b : Bundle) (operation : Operation) (r : Runner α β σ)
    (outcome : Outcome Unit) : (b.settle operation r outcome).bundle.id = b.id := by
  cases outcome <;> rfl

/-- To settle an operation tells the verdict, inside the span. -/
theorem run_settle {b : Bundle} {r : Runner α β σ} (inside : r.run.bundle = some b.id)
    (operation : Operation) (outcome : Outcome Unit) :
    (b.settle operation r outcome).runner.run.bundle = some b.id ∧
      (b.settle operation r outcome).runner.run.log =
        r.run.log ++ b.verdict operation outcome := by
  cases outcome with
  | done u => exact ⟨inside, by simp [settle, Runner.mapRun, RunState.tell, verdict, inside]⟩
  | failed fault => exact ⟨inside, by simp [settle, Runner.mapRun, RunState.tell, verdict, inside]⟩
  | panicked message => exact ⟨inside, (List.append_nil _).symm⟩

/-- To close a finish tells the summary that it is replied to with, inside the span. -/
theorem log_close {t : Turn α β σ Unit} {id : Nat} (inside : t.runner.run.bundle = some id) :
    (close t).runner.run.log =
      t.runner.run.log ++ (Reply.finished (close t).outcome).announcement id := by
  unfold close
  cases t.outcome with
  | done u => simp [conclude, resetCounts, Runner.mapRun, RunState.tell, Reply.announcement, inside]
  | failed fault => exact (List.append_nil _).symm
  | panicked message => exact (List.append_nil _).symm

end Bundle

/-- What a call that passes the order check leaves in the log and of the bundle, when its callbacks
    end with an outcome: first comes what they told, then the verdict, and then the summary, if there
    is one.  In the end the span is left. -/
structure Stage.Tells (st : Stage α β σ) (begun : Bundle) (operation : Operation)
    (outcome : Outcome Unit) : Prop where
  log : ∃ inner, st.after.runner.run.log = st.before.runner.run.log ++
      (inner ++ (begun.verdict operation outcome ++ st.reply.announcement begun.id)) ∧
    ∀ entry ∈ inner, entry.bundle = some begun.id ∧ entry.isLifecycle = false
  outside : st.after.runner.run.bundle = none
  bundle : ∃ b, st.after.bundle = some b ∧ b.id = begun.id

/-- An operation is settled after callbacks that tell inside the span of its bundle. -/
theorem Bundle.log_settle_of_inside {begun b : Bundle} {r : Runner α β σ}
    (ended : Runner α β σ × Outcome Unit) (told : (begun.enter r).run.Inside ended.1.run)
    (same : b.id = begun.id) (verdict : b.verdict = begun.verdict) (operation : Operation) :
    (b.settle operation ended.1 ended.2).runner.run.bundle = some begun.id ∧
      ∃ inner, (b.settle operation ended.1 ended.2).runner.run.log =
          r.run.log ++ (inner ++ begun.verdict operation ended.2) ∧
        ∀ entry ∈ inner, entry.bundle = some begun.id ∧ entry.isLifecycle = false := by
  obtain ⟨inner, log, inside⟩ := told.told
  have entered : ended.1.run.bundle = some b.id := by
    rw [same]
    exact told.bundle
  obtain ⟨span, settled⟩ := run_settle entered operation ended.2
  refine ⟨by rw [span, same], inner, ?_, inside⟩
  rw [settled, log, verdict, List.append_assoc]
  rfl

/-- A call that ends with the settling of its operation, and announces nothing, tells what the
    callbacks tell and the verdict. -/
theorem Stage.tells_of_settled {st : Stage α β σ} {begun b : Bundle} {operation : Operation}
    (ended : Runner α β σ × Outcome Unit)
    (after : st.after = Session.ofTurn (Bundle.leave (b.settle operation ended.1 ended.2)))
    (told : (begun.enter st.before.runner).run.Inside ended.1.run)
    (same : b.id = begun.id) (verdict : b.verdict = begun.verdict)
    (quiet : st.reply.announcement begun.id = []) : st.Tells begun operation ended.2 := by
  obtain ⟨-, inner, log, inside⟩ := Bundle.log_settle_of_inside ended told same verdict operation
  refine ⟨⟨inner, ?_, inside⟩, ?_, ?_⟩
  · rw [after, quiet, List.append_nil]
    exact log
  · rw [after]
    rfl
  · rw [after]
    exact ⟨_, rfl, (Bundle.id_settle ..).trans same⟩

/-- **One call.** What a call that passes the order check tells is what its callbacks tell inside the
    span of the bundle, the verdict, and the summary. -/
theorem Stage.tells_of_begun {st : Stage α β σ} {begun : Bundle} {operation : Operation}
    (begins : st.begun? = some begun) (performs : st.call.operation? = some operation) :
    st.Tells begun operation (begun.ended st.before.runner st.call) := by
  obtain ⟨b, operation', opened, performs', advance⟩ := begun?_eq_some begins
  obtain rfl : operation = operation' := Option.some.inj (performs.symm.trans performs')
  obtain ⟨⟨r, bundle⟩, call⟩ := st
  obtain rfl : bundle = some b := opened
  cases call with
  | start =>
    obtain rfl : .start = operation := Option.some.inj performs
    -- to set the counters to zero tells nothing
    have entered : (begun.enter r).run.Inside (Bundle.resetCounts (begun.enter r)).run :=
      .of_same rfl rfl
    have told := entered.trans (Runner.inside_runBundlePhase _ r.callback.start)
    have after : (Stage.mk ⟨r, some b⟩ .start).after = Session.ofTurn (b.start r) := rfl
    rw [Bundle.start_of_advance advance] at after
    exact tells_of_settled _ after told rfl rfl rfl
  | process record =>
    obtain rfl : .process = operation := Option.some.inj performs
    have told := (begun.enter r).inside_runElement record
    have after : (Stage.mk ⟨r, some b⟩ (.process record)).after =
        Session.ofTurn (b.process r record) := rfl
    rw [Bundle.process_of_advance advance] at after
    -- what is settled is the bundle that has counted the element already
    exact tells_of_settled (_, _) after told (Bundle.id_tally ..) (Bundle.verdict_tally ..) rfl
  | finish =>
    obtain rfl : .finish = operation := Option.some.inj performs
    have told := (begun.enter r).inside_runBundlePhase r.callback.finish
    obtain ⟨span, inner, log, inside⟩ := Bundle.log_settle_of_inside _ told rfl rfl .finish
    have after : (Stage.mk ⟨r, some b⟩ .finish).after = Session.ofTurn (b.finish r) := rfl
    have replied : (Stage.mk ⟨r, some b⟩ .finish).reply = .finished (b.finish r).outcome := rfl
    rw [Bundle.finish_of_advance advance] at after replied
    refine ⟨⟨inner, ?_, inside⟩, ?_, ?_⟩
    · -- the summary is told when the operation is settled, but before the span is left
      have closed := Bundle.log_close span
      rw [log, List.append_assoc, List.append_assoc] at closed
      rw [after, replied]
      exact closed
    · rw [after]
      rfl
    · rw [after]
      exact ⟨_, rfl, (congrArg Bundle.id (Bundle.bundle_close _)).trans (Bundle.id_settle ..)⟩
  | _ => exact absurd performs (by simp [Call.operation?])

/-- So it is with the outcome that the call is replied to with. -/
theorem Stage.tells_of_advance {st : Stage α β σ} {b begun : Bundle} {operation : Operation}
    (opened : st.before.bundle = some b) (performs : st.call.operation? = some operation)
    (advance : b.advance operation = some begun) :
    ∃ outcome, st.reply.outcome? = some outcome ∧
      st.after.phase? = some (begun.landing operation outcome) ∧
      st.Tells begun operation outcome := by
  have begins : st.begun? = some begun := by simp [begun?, opened, performs, advance]
  obtain ⟨operation', accepted, replied, lands⟩ := st.ended_of_begun begins
  obtain rfl : operation = operation' := by
    rw [accepted?, begins] at accepted
    exact Option.some.inj (performs.symm.trans accepted)
  exact ⟨_, replied, lands, tells_of_begun begins performs⟩

/-- Where a notice about the life of a bundle leaves it, with the number of the bundle. -/
def Notice.lands? : Notice → Option (Nat × BundlePhase)
  | .transition bundle _ _ goal => some (bundle, goal)
  | .bundleFailed bundle _ _ _ => some (bundle, .failed)
  | _ => none

/-! ### One entry for each call -/

/-- What a call tells the log. -/
def Stage.told (st : Stage α β σ) : List Log.Entry :=
  st.after.runner.run.log.drop st.before.runner.run.log.length

/-- The entry that a call on the bundle `b` tells about the life of its bundle. -/
structure Stage.Traced (st : Stage α β σ) (b : Bundle) (operation : Operation)
    (verdict : Log.Entry) : Prop where
  /-- What is told is added to the log. -/
  log : st.after.runner.run.log = st.before.runner.run.log ++ st.told
  /-- The call tells this entry about the life of the bundle, and no other but the summary of a
      finish that is done. -/
  told : ∃ inner, st.told = inner ++ verdict :: st.reply.announcement b.id ∧
    ∀ entry ∈ inner, entry.isLifecycle = false
  lifecycle : verdict.isLifecycle = true
  /-- It is a violation exactly when the order check refuses the call. -/
  violation : verdict.notice.message = "lifecycle violation" ↔ b.advance operation = none
  /-- A violation is told outside the span, with the phase of the bundle. -/
  refused : b.advance operation = none → verdict.bundle = none ∧
    verdict.notice.fields = [("bundle", .number b.id), ("operation", .text operation.text),
      ("phase", .text b.phase.text)]
  /-- It is a transition exactly when the call is done. -/
  transition : verdict.notice.message = "phase transition" ↔
    st.reply.outcome? = some (.done ())
  /-- A transition is told from the phase in which the callbacks run, to the phase after the call. -/
  moved : st.reply.outcome? = some (.done ()) → ∃ origin goal,
    st.begun?.map Bundle.phase = some origin ∧ origin = operation.during b.phase ∧
    st.after.phase? = some goal ∧
    verdict.notice.fields = [("bundle", .number b.id), ("operation", .text operation.text),
      ("from", .text origin.text), ("to", .text goal.text)]
  /-- Every other failure is told with the code and the message of the fault in the reply. -/
  failed : b.advance operation ≠ none → ∀ fault, st.reply.outcome? = some (.failed fault) →
    verdict.notice.message = "bundle failed" ∧
    verdict.notice.fields = [("bundle", .number b.id), ("operation", .text operation.text),
      ("phase", .text (operation.during b.phase).text), ("code", .text fault.code),
      ("error", .text fault.message)]
  /-- All that the call tells bears the number of the bundle, apart from a violation. -/
  span : ∀ entry ∈ st.told, entry.notice.message ≠ "lifecycle violation" →
    entry.bundle = some b.id

/-- What is added to the log is what was told. -/
theorem Stage.told_eq {st : Stage α β σ} {told : List Log.Entry}
    (added : st.after.runner.run.log = st.before.runner.run.log ++ told) : st.told = told := by
  rw [Stage.told, added, List.drop_left]

namespace Bundle

theorem id_of_advance {b begun : Bundle} {operation : Operation}
    (advance : b.advance operation = some begun) : begun.id = b.id := by
  obtain ⟨-, rfl⟩ := begun_of_advance advance
  split <;> rfl

theorem phase_eq_during {b begun : Bundle} {operation : Operation}
    (advance : b.advance operation = some begun) : begun.phase = operation.during b.phase := by
  rw [phase_of_advance advance]
  cases operation <;> rfl

end Bundle

/-- A reply that is no summary announces nothing. -/
theorem Reply.announcement_of_failed {reply : Reply} {fault : Fault}
    (failed : reply.outcome? = some (.failed fault)) (id : Nat) : reply.announcement id = [] := by
  cases reply with
  | finished outcome =>
    cases outcome with
    | done summary => exact absurd failed (by simp [outcome?])
    | _ => rfl
  | _ => rfl

theorem Reply.bundle_of_mem_announcement {reply : Reply} {id : Nat} {entry : Log.Entry}
    (h : entry ∈ reply.announcement id) : entry.bundle = some id := by
  unfold announcement at h
  split at h
  · obtain rfl := List.mem_singleton.mp h
    rfl
  · exact absurd h (by simp)

/-- A call that the order check refuses is traced by a violation. -/
theorem Stage.traced_of_refused {st : Stage α β σ} {b : Bundle} {operation : Operation}
    (opened : st.before.bundle = some b) (performs : st.call.operation? = some operation)
    (outside : st.before.runner.run.bundle = none) (advance : b.advance operation = none) :
    st.Traced b operation ⟨.violation b.id operation b.phase, none⟩ := by
  have refused := st.refused opened performs advance
  have log : st.after.runner.run.log =
      st.before.runner.run.log ++ [⟨.violation b.id operation b.phase, none⟩] := by
    rw [refused.after, ← outside]
    rfl
  have told := told_eq log
  have quiet := Reply.announcement_of_failed refused.reply b.id
  have undone : st.reply.outcome? ≠ some (.done ()) := by
    rw [refused.reply]
    simp
  exact {
    log := by rw [told, log]
    told := ⟨[], by rw [told, quiet]; rfl, by simp⟩
    lifecycle := beq_self_eq_true _
    violation := ⟨fun _ => advance, fun _ => rfl⟩
    refused := fun _ => ⟨rfl, rfl⟩
    transition := ⟨fun other => absurd other (by simp [Notice.message]),
      fun done => absurd done undone⟩
    moved := fun done => absurd done undone
    failed := fun passes => absurd advance passes
    span := by
      intro entry h other
      rw [told, List.mem_singleton] at h
      subst h
      exact absurd rfl other }

/-- A call that passes the order check, and tells one verdict on its bundle, tells nothing else about
    the life of a bundle, and nothing outside the span. -/
theorem Stage.Tells.only {st : Stage α β σ} {begun : Bundle} {operation : Operation}
    {outcome : Outcome Unit} (tells : st.Tells begun operation outcome) {verdict : Log.Entry}
    (one : begun.verdict operation outcome = [verdict]) (inside : verdict.bundle = some begun.id) :
    st.after.runner.run.log = st.before.runner.run.log ++ st.told ∧
    (∃ inner, st.told = inner ++ verdict :: st.reply.announcement begun.id ∧
      ∀ entry ∈ inner, entry.isLifecycle = false) ∧
    ∀ entry ∈ st.told, entry.bundle = some begun.id := by
  obtain ⟨inner, log, others⟩ := tells.log
  rw [one, List.singleton_append] at log
  have told := told_eq log
  refine ⟨by rw [told, log], ⟨inner, told, fun entry h => (others entry h).2⟩, fun entry h => ?_⟩
  rw [told] at h
  rcases List.mem_append.mp h with h | h
  · exact (others entry h).1
  · rcases List.mem_cons.mp h with rfl | h
    · exact inside
    · exact Reply.bundle_of_mem_announcement h

/-- A call that passes the order check is traced by a transition if it is done, and by a failure if
    it fails. -/
theorem Stage.traced_of_begun {st : Stage α β σ} {b begun : Bundle} {operation : Operation}
    (opened : st.before.bundle = some b) (performs : st.call.operation? = some operation)
    (advance : b.advance operation = some begun) (calm : st.Calm) :
    ∃ verdict, st.Traced b operation verdict := by
  have begins : st.begun? = some begun := by simp [begun?, opened, performs, advance]
  have id := Bundle.id_of_advance advance
  have phase := Bundle.phase_eq_during advance
  have passes : b.advance operation ≠ none := by simp [advance]
  obtain ⟨outcome, replied, lands, tells⟩ := st.tells_of_advance opened performs advance
  cases outcome with
  | panicked message => exact absurd rfl (calm _ replied message)
  | done u =>
    obtain ⟨log, told, span⟩ := tells.only rfl rfl
    rw [id] at told span
    exact ⟨_, {
      log := log
      told := told
      lifecycle := beq_self_eq_true _
      violation := ⟨fun other => absurd other (by simp [Notice.message]),
        fun refused => absurd refused passes⟩
      refused := fun refused => absurd refused passes
      transition := ⟨fun _ => replied, fun _ => rfl⟩
      moved := fun _ => ⟨_, _, congrArg (Option.map Bundle.phase) begins, phase, lands, by
        rw [← id]
        rfl⟩
      failed := fun _ fault failed => absurd (replied.symm.trans failed) (by simp)
      span := fun entry h _ => span entry h }⟩
  | failed fault =>
    obtain ⟨log, told, span⟩ := tells.only rfl rfl
    rw [id] at told span
    have undone : st.reply.outcome? ≠ some (.done ()) := by
      rw [replied]
      simp
    exact ⟨_, {
      log := log
      told := told
      lifecycle := beq_self_eq_true _
      violation := ⟨fun other => absurd other (by simp [Notice.message]),
        fun refused => absurd refused passes⟩
      refused := fun refused => absurd refused passes
      transition := ⟨fun other => absurd other (by simp [Notice.message]),
        fun done => absurd done undone⟩
      moved := fun done => absurd done undone
      failed := by
        intro _ fault' failed
        obtain rfl := Outcome.failed.inj (Option.some.inj (replied.symm.trans failed))
        rw [← phase, ← id]
        exact ⟨rfl, rfl⟩
      span := fun entry h _ => span entry h }⟩

/-! ### To replay the log -/

/-- Where an entry leaves the bundle with a number that was in a phase before. -/
def Log.Entry.move (id : Nat) (phase : BundlePhase) (entry : Log.Entry) : BundlePhase :=
  match entry.notice.lands? with
  | some (bundle, goal) => if bundle = id then goal else phase
  | none => phase

/-- The phase of the bundle with a number, read off a log from its beginning. -/
def Log.replay (id : Nat) (log : List Log.Entry) : BundlePhase :=
  log.foldl (Log.Entry.move id) .notStarted

namespace Log

/-- Only news of the life of a bundle leaves it anywhere. -/
theorem Entry.lands?_of_not_isLifecycle {entry : Entry} (other : entry.isLifecycle = false) :
    entry.notice.lands? = none := by
  obtain ⟨notice, bundle⟩ := entry
  cases notice with
  | transition bundle operation origin goal =>
    exact absurd other (by simp [isLifecycle, Notice.target])
  | bundleFailed bundle operation phase fault =>
    exact absurd other (by simp [isLifecycle, Notice.target])
  | _ => rfl

/-- Entries that leave the bundle nowhere do not move it. -/
theorem replay_append_of_quiet {id : Nat} (log : List Entry) {told : List Entry}
    (quiet : ∀ entry ∈ told, ∀ goal, entry.notice.lands? ≠ some (id, goal)) :
    replay id (log ++ told) = replay id log := by
  -- by induction on what is told, wherever the bundle is
  have still : ∀ phase, told.foldl (Entry.move id) phase = phase := by
    induction told with
    | nil => intro phase; rfl
    | cons entry told ih =>
      intro phase
      have first : entry.move id phase = phase := by
        unfold Entry.move
        split
        next bundle goal lands =>
          refine if_neg fun same => ?_
          subst same
          exact quiet entry (List.mem_cons_self ..) goal lands
        next => rfl
      rw [List.foldl_cons, first]
      exact ih (fun entry h => quiet entry (List.mem_cons_of_mem _ h)) phase
  rw [replay, List.foldl_append]
  exact still _

/-- An entry that leaves the bundle in a phase moves it there, from wherever it was. -/
theorem replay_append_of_lands {id : Nat} {goal : BundlePhase} {entry : Entry}
    (lands : entry.notice.lands? = some (id, goal)) (log : List Entry) :
    replay id (log ++ [entry]) = goal := by
  rw [replay, List.foldl_append]
  show entry.move id _ = goal
  unfold Entry.move
  rw [lands]
  exact if_pos rfl

end Log

/-- A reply announces no move. -/
theorem Reply.lands?_of_mem_announcement {reply : Reply} {id : Nat} {entry : Log.Entry}
    (h : entry ∈ reply.announcement id) : entry.notice.lands? = none := by
  unfold announcement at h
  split at h
  · obtain rfl := List.mem_singleton.mp h
    rfl
  · exact absurd h (by simp)

/-- When the callbacks of an operation do not panic, its verdict leaves the bundle where the
    operation lands. -/
theorem Bundle.exists_verdict (begun : Bundle) (operation : Operation) {outcome : Outcome Unit}
    (calm : outcome.Calm) : ∃ verdict, begun.verdict operation outcome = [verdict] ∧
      verdict.notice.lands? = some (begun.id, begun.landing operation outcome) := by
  cases outcome with
  | done u => exact ⟨_, rfl, rfl⟩
  | failed fault => exact ⟨_, rfl, rfl⟩
  | panicked message => exact absurd rfl (calm message)

/-- The invariant between calls: no span is open; the log knows of no bundle that was not opened
    yet; and to replay it gives the phase of the bundle that is open. -/
structure Session.Recorded (s : Session α β σ) : Prop where
  outside : s.runner.run.bundle = none
  numbered : ∀ entry ∈ s.runner.run.log, ∀ id goal, entry.notice.lands? = some (id, goal) →
    id ≤ s.runner.bundles
  opened : ∀ b, s.bundle = some b → b.id ≤ s.runner.bundles
  replayed : ∀ b, s.bundle = some b → Log.replay b.id s.runner.run.log = b.phase

namespace Session.Recorded

variable {s s' : Session α β σ}

/-- The invariant is kept where no bundle is opened or moved. -/
theorem of_quiet (recorded : s.Recorded) (outside : s'.runner.run.bundle = none)
    {told : List Log.Entry} (log : s'.runner.run.log = s.runner.run.log ++ told)
    (quiet : ∀ entry ∈ told, entry.notice.lands? = none)
    (bundles : s'.runner.bundles = s.runner.bundles)
    (bundle : ∀ b, s'.bundle = some b → s.bundle = some b) : s'.Recorded where
  outside := outside
  numbered := by
    intro entry h id goal lands
    rw [log] at h
    rw [bundles]
    rcases List.mem_append.mp h with h | h
    · exact recorded.numbered entry h id goal lands
    · exact absurd ((quiet entry h).symm.trans lands) (by simp)
  opened := by
    intro b h
    rw [bundles]
    exact recorded.opened b (bundle b h)
  replayed := by
    intro b h
    rw [log, Log.replay_append_of_quiet _ fun entry h goal => by simp [quiet entry h]]
    exact recorded.replayed b (bundle b h)

/-- So it is where callbacks tell inside a span. -/
theorem of_inside (recorded : s.Recorded) (told : s.runner.run.Inside s'.runner.run)
    (bundles : s'.runner.bundles = s.runner.bundles)
    (bundle : ∀ b, s'.bundle = some b → s.bundle = some b) : s'.Recorded := by
  obtain ⟨told', log, inside⟩ := told.told
  exact recorded.of_quiet (told.bundle.trans recorded.outside) log
    (fun entry h => Log.Entry.lands?_of_not_isLifecycle (inside entry h).2) bundles bundle

/-- The log knows nothing of a bundle that is opened. -/
theorem openBundle (recorded : s.Recorded) : (s.perform .openBundle).1.Recorded where
  outside := recorded.outside
  numbered entry h id goal lands :=
    Nat.le_succ_of_le (recorded.numbered entry h id goal lands)
  opened := by
    intro b h
    obtain rfl := Option.some.inj h
    exact Nat.le_refl _
  replayed := by
    intro b h
    obtain rfl := Option.some.inj h
    have unknown : ∀ entry ∈ s.runner.run.log, ∀ goal,
        entry.notice.lands? ≠ some (s.runner.bundles + 1, goal) := by
      intro entry h goal lands
      have known := recorded.numbered entry h _ goal lands
      omega
    exact Log.replay_append_of_quiet [] unknown

end Session.Recorded

/-- A call that passes the order check, and whose callbacks do not panic, keeps the invariant. -/
theorem Stage.recorded_of_begun {st : Stage α β σ} {b begun : Bundle} {operation : Operation}
    (recorded : st.before.Recorded) (opened : st.before.bundle = some b)
    (performs : st.call.operation? = some operation) (advance : b.advance operation = some begun)
    (calm : st.Calm) : st.after.Recorded := by
  have id := Bundle.id_of_advance advance
  obtain ⟨outcome, replied, lands, tells⟩ := st.tells_of_advance opened performs advance
  obtain ⟨⟨inner, log, inside⟩, outside, b', opened', id'⟩ := tells
  obtain ⟨verdict, one, landing⟩ := begun.exists_verdict operation (calm _ replied)
  have bundles : st.after.runner.bundles = st.before.runner.bundles :=
    Session.bundles_perform_of_operation performs
  have known : begun.id ≤ st.before.runner.bundles := by
    rw [id]
    exact recorded.opened b opened
  have same : b'.phase = begun.landing operation outcome := by
    rw [Session.phase?, opened'] at lands
    exact Option.some.inj lands
  have innerQuiet : ∀ entry ∈ inner, entry.notice.lands? = none := fun entry h =>
    Log.Entry.lands?_of_not_isLifecycle (inside entry h).2
  have announced : ∀ entry ∈ st.reply.announcement begun.id, entry.notice.lands? = none :=
    fun entry => Reply.lands?_of_mem_announcement
  rw [one, List.singleton_append] at log
  refine ⟨outside, ?_, ?_, ?_⟩
  · -- of all that is new only the verdict moves a bundle, and this one is known
    intro entry h id goal lands
    rw [bundles]
    rw [log] at h
    rcases List.mem_append.mp h with h | h
    · exact recorded.numbered entry h id goal lands
    rcases List.mem_append.mp h with h | h
    · exact absurd ((innerQuiet entry h).symm.trans lands) (by simp)
    rcases List.mem_cons.mp h with rfl | h
    · obtain ⟨rfl, -⟩ := Prod.mk.inj (Option.some.inj (landing.symm.trans lands))
      exact known
    · exact absurd ((announced entry h).symm.trans lands) (by simp)
  · intro b'' h
    obtain rfl := Option.some.inj (opened'.symm.trans h)
    rw [bundles, id']
    exact known
  · intro b'' h
    obtain rfl := Option.some.inj (opened'.symm.trans h)
    -- whatever was told before the verdict, the verdict decides, and nothing after it moves
    have cut : st.after.runner.run.log =
        (st.before.runner.run.log ++ inner ++ [verdict]) ++ st.reply.announcement begun.id := by
      rw [log]
      simp
    rw [cut, id', Log.replay_append_of_quiet _ fun entry h goal => by simp [announced entry h],
      Log.replay_append_of_lands landing, same]

/-- **One call.** A call whose callbacks do not panic keeps the invariant. -/
theorem Stage.recorded_after {st : Stage α β σ} (calm : st.Calm) (recorded : st.before.Recorded) :
    st.after.Recorded := by
  cases performs : st.call.operation? with
  | none =>
    -- such a call opens a bundle, or leaves all bundles where they are
    obtain ⟨s, call⟩ := st
    cases call with
    | openBundle => exact recorded.openBundle
    | dropBundle =>
      exact recorded.of_inside (.refl _) rfl fun b h => absurd h (by simp [after, Session.perform])
    | useState handle call =>
      exact recorded.of_inside (s.runner.run.inside_useState handle call) rfl fun b h => h
    | start => exact absurd performs (by simp [Call.operation?])
    | process record => exact absurd performs (by simp [Call.operation?])
    | finish => exact absurd performs (by simp [Call.operation?])
    | _ => exact recorded.of_inside (.of_same rfl rfl) rfl fun b h => h
  | some operation =>
    cases opened : st.before.bundle with
    | none =>
      -- without a bundle there is nothing to perform
      obtain ⟨⟨r, bundle⟩, call⟩ := st
      obtain rfl : bundle = none := opened
      cases call with
      | start => exact recorded
      | process record => exact recorded
      | finish => exact recorded
      | _ => exact absurd performs (by simp [Call.operation?])
    | some b =>
      cases advance : b.advance operation with
      | none =>
        -- a violation is told, which moves nothing
        have after := (st.refused opened performs advance).after
        have log : st.after.runner.run.log = st.before.runner.run.log ++
            [⟨.violation b.id operation b.phase, st.before.runner.run.bundle⟩] := by
          rw [after]
          rfl
        rw [after] at log ⊢
        refine recorded.of_quiet recorded.outside log (fun entry h => ?_) rfl fun b h => h
        obtain rfl := List.mem_singleton.mp h
        rfl
      | some begun => exact recorded_of_begun recorded opened performs advance calm

/-- The invariant holds before the first call. -/
theorem Runner.recorded_of_build {callback : Callback α β σ} {state : σ} {binding : Binding α β}
    {settings : Settings} {r : Runner α β σ}
    (built : (build callback state binding settings).outcome = .done r) :
    (Session.ofRunner r).Recorded := by
  obtain ⟨-, -, -, -, -, run⟩ := build_eq_done built
  -- the setup may tell of aggregators, and then the instance is told to be ready
  have setup : (freshRun binding settings).Inside (setupRun callback state binding settings).env :=
    Program.run_invariant (fun s => (freshRun binding settings).Inside s)
      (fun request s inside => inside.trans (request.inside_perform s)) _ _ (.refl _)
  have ready : (freshRun binding settings).Inside r.run := by
    rw [run]
    exact setup.trans (.tell _ (by simp [readyNotice, Notice.target]))
  obtain ⟨told, log, inside⟩ := ready.told
  replace log : r.run.log = told := log
  refine ⟨ready.bundle, fun entry h id goal lands => ?_, fun b h => ?_, fun b h => ?_⟩
  · have told' : entry ∈ told := by
      rw [← log]
      exact h
    have quiet := Log.Entry.lands?_of_not_isLifecycle (inside entry told').2
    exact absurd (quiet.symm.trans lands) (by simp)
  · exact absurd h (by simp [Session.ofRunner])
  · exact absurd h (by simp [Session.ofRunner])

/-! ### The trace of a run -/

/-- **The log is a faithful trace.**  A runner was built, any calls were made on it, and no callback
    panicked (`Session.calm_of_callback`).  Then each call on an open bundle tells one entry about
    the life of the bundle: a violation, outside the span, exactly when the order check refuses the
    call; a transition exactly when the call is done, from the phase in which its callbacks ran to
    the phase after the call; and otherwise a failure, with the code and the message of the fault
    in the reply.  A finish that is done tells the summary besides, and nothing else is told about
    the life of a bundle.  All that a call tells bears the number of the bundle, apart from a
    violation.  So to replay the log gives the phase of the bundle. -/
theorem log_traces_lifecycle (callback : Callback α β σ) (state : σ) (binding : Binding α β)
    (settings : Settings) (r : Runner α β σ)
    (built : (Runner.build callback state binding settings).outcome = .done r)
    (calls : List (Call α)) (calm : ∀ st ∈ (Session.ofRunner r).stages calls, st.Calm) :
    (∀ st ∈ (Session.ofRunner r).stages calls, ∀ b operation, st.before.bundle = some b →
      st.call.operation? = some operation → ∃ verdict, st.Traced b operation verdict) ∧
    ∀ b, ((Session.ofRunner r).performAll calls).1.bundle = some b →
      Log.replay b.id ((Session.ofRunner r).performAll calls).1.runner.run.log = b.phase := by
  have start := Runner.recorded_of_build built
  have keeps : ∀ st ∈ (Session.ofRunner r).stages calls, st.before.Recorded → st.after.Recorded :=
    fun st hst => Stage.recorded_after (calm st hst)
  have recorded := Session.stages_invariant Session.Recorded keeps start
  constructor
  · intro st hst b operation opened performs
    cases advance : b.advance operation with
    | none =>
      have outside := (recorded st hst).1.outside
      exact ⟨_, Stage.traced_of_refused opened performs outside advance⟩
    | some begun => exact Stage.traced_of_begun opened performs advance (calm st hst)
  · exact (Session.performAll_of_stages Session.Recorded keeps start).replayed

/-! ### A callback that fails with the fault of a refusal

The callback registers an aggregator at each start, which works once, and emits its elements.  Over
zero it fails, and says that a start was out of order.
-/

namespace Stumbles

/-- Emits its elements, and fails over zero with a fault that is not its own. -/
def callback : Callback Nat Nat Unit where
  descriptor := .plain
  skew := none
  setup state := .stop state (.done ())
  start _ state :=
    .ask (.shared (.create "seen" .unsigned .unsigned .count)) fun _ => .stop state (.done ())
  process view state :=
    if view.element = 0 then .stop state (.failed (.lifecycleViolation "start" "NotStarted"))
    else .ask (.output (.emit view.element none)) fun _ => .stop state (.done ())
  finish _ state := .stop state (.done ())

theorem calm_callback : callback.Calm where
  start options state := by simp [callback, Program.Calm, Outcome.Calm]
  process view state := by
    by_cases zero : view.element = 0
    · simp [callback, zero, Program.Calm, Outcome.Calm]
    · simp [callback, zero, Program.Calm, Outcome.Calm]
  finish options state := by simp [callback, Program.Calm, Outcome.Calm]

/-- A record of a number at the epoch, in the whole of time. -/
def record (n : Nat) : Record Nat := ⟨n, .epoch, .single .global⟩

/-- A bundle that fails over its second record, with a call too early and one too late, and a bundle
    that is finished. -/
def calls : List (Call Nat) :=
  [.openBundle, .process (record 1), .start, .process (record 1), .process (record 0), .finish,
    .openBundle, .start, .process (record 2), .finish]

end Stumbles

/-- The log of both bundles: the failure is none of the two violations, and the second bundle is
    finished by the log. -/
theorem log_traces_lifecycle_stumbles :
    ∃ r, (Runner.build Stumbles.callback () (.ofMain .collecting) .default).outcome = .done r ∧
      ((Session.ofRunner r).performAll Stumbles.calls).1.runner.run.log.map
          (fun entry => (entry.notice.message, entry.bundle)) =
        [("element fn instance ready", none), ("lifecycle violation", none),
          ("aggregator registered", some 1), ("phase transition", some 1), ("emit", some 1),
          ("phase transition", some 1), ("bundle failed", some 1), ("lifecycle violation", none),
          ("phase transition", some 2), ("emit", some 2), ("phase transition", some 2),
          ("phase transition", some 2), ("bundle finished", some 2)] ∧
      (∀ st ∈ (Session.ofRunner r).stages Stumbles.calls, st.call = .process (Stumbles.record 0) →
        ∀ b, st.before.bundle = some b → ∃ verdict, st.Traced b .process verdict) ∧
      Log.replay 2 ((Session.ofRunner r).performAll Stumbles.calls).1.runner.run.log =
        .finished := by
  refine ⟨_, rfl, rfl, ?_⟩
  obtain ⟨traced, replayed⟩ := log_traces_lifecycle Stumbles.callback () (.ofMain .collecting)
    .default _ rfl Stumbles.calls (Session.calm_of_callback Stumbles.calm_callback)
  constructor
  · intro st hst call b opened
    exact traced st hst b .process opened (by rw [call]; rfl)
  · exact replayed ⟨2, .finished, 1, 1⟩ rfl

end BundleRunner
