import Mathlib.Algebra.GroupWithZero.Nat
import BundleRunner.Proofs.Emissions
import BundleRunner.Proofs.Lifecycle

namespace BundleRunner

/-!
# The summary of a bundle

A finish that is done answers with a summary.  Its five numbers come from three places: the runner
numbers the bundles, the bundle counts its elements and invocations, and the router counts the
emissions, whichever bundle they are made in.  This file proves what the numbers are, for every
history that leads to the finish:

* `Session.bundles_performAll` — bundles are numbered in the order in which they are opened;
* `Session.counts_performAll` — elements and invocations are those of the records processed;
* `Session.LastLeg` — the calls from the last start that passed to the finish, between which nothing
  touches the counters of the router;
* `Session.LastLeg.emits` — hence what these counters say at the end;
* `summary_exact` — the summary as a whole, against calls and log.

What a bundle before has left in the counters does not matter, because the start sets them to zero.
A second start that passes (after a panic) does so as well, and then the summary counts from there,
although elements and invocations are counted from the first one.
-/

variable {α β σ : Type}

/-! ### The number of a bundle -/

/-- Whether a call opens a bundle. -/
def Call.opens : Call α → Bool
  | .openBundle => true
  | _ => false

namespace Runner

@[simp] theorem bundles_mapRun (r : Runner α β σ) (f : RunState β → RunState β) :
    (r.mapRun f).bundles = r.bundles := rfl

@[simp] theorem bundles_runBundlePhase (r : Runner α β σ)
    (phase : Options → σ → Program (@OutputRequest.Answer β) σ) :
    (r.runBundlePhase phase).1.bundles = r.bundles := by
  unfold runBundlePhase
  split <;> rfl

@[simp] theorem bundles_invoke (r : Runner α β σ) (record : Record α) :
    (r.invoke record).1.bundles = r.bundles := by
  unfold invoke
  split <;> rfl

@[simp] theorem bundles_invokeEach (record : Record α) (ws : List Window) (r : Runner α β σ) :
    (invokeEach record ws r).1.bundles = r.bundles := by
  induction ws generalizing r with
  | nil => rfl
  | cons w ws ih =>
    have first := r.bundles_invoke (record.narrow w)
    unfold invokeEach
    split
    next r' invoked =>
      rw [invoked] at first
      rw [ih, first]
    next r' ended _ invoked =>
      rw [invoked] at first
      exact first

@[simp] theorem bundles_runElement (r : Runner α β σ) (record : Record α) :
    (r.runElement record).1.bundles = r.bundles := by
  unfold runElement
  split <;> simp

end Runner

namespace Bundle

@[simp] theorem bundles_leave {τ : Type} (t : Turn α β σ τ) :
    (leave t).runner.bundles = t.runner.bundles := rfl

@[simp] theorem bundles_settle (b : Bundle) (operation : Operation) (r : Runner α β σ)
    (outcome : Outcome Unit) : (b.settle operation r outcome).runner.bundles = r.bundles := by
  cases outcome <;> rfl

@[simp] theorem bundles_close (t : Turn α β σ Unit) :
    (close t).runner.bundles = t.runner.bundles := by
  unfold close
  cases t.outcome <;> rfl

end Bundle

/-- A call on the open bundle opens no other. -/
theorem Session.bundles_perform_of_operation {s : Session α β σ} {call : Call α}
    {operation : Operation} (performs : call.operation? = some operation) :
    (s.perform call).1.runner.bundles = s.runner.bundles := by
  obtain ⟨r, bundle⟩ := s
  cases bundle with
  | none =>
    cases call with
    | openBundle => exact absurd performs (by simp [Call.operation?])
    | _ => rfl
  | some b =>
    cases advance : b.advance operation with
    | none =>
      rw [perform_of_refused performs advance]
      rfl
    | some begun =>
      cases call with
      | start =>
        obtain rfl : .start = operation := Option.some.inj performs
        simp [perform, ofTurn, Bundle.start_of_advance advance, Runner.runStart,
          Bundle.resetCounts, Bundle.enter]
      | process record =>
        obtain rfl : .process = operation := Option.some.inj performs
        simp [perform, ofTurn, Bundle.process_of_advance advance, Bundle.enter]
      | finish =>
        obtain rfl : .finish = operation := Option.some.inj performs
        simp [perform, ofTurn, Bundle.finish_of_advance advance, Runner.runFinish, Bundle.enter]
      | _ => exact absurd performs (by simp [Call.operation?])

/-- The runner counts the bundles that are opened. -/
theorem Session.bundles_performAll (s : Session α β σ) (calls : List (Call α)) :
    (s.performAll calls).1.runner.bundles = s.runner.bundles + calls.countP Call.opens := by
  induction calls generalizing s with
  | nil => rfl
  | cons call calls ih =>
    -- only `openBundle` counts, which is no call on a bundle
    have first : (s.perform call).1.runner.bundles =
        s.runner.bundles + if call.opens then 1 else 0 := by
      cases performs : call.operation? with
      | some operation =>
        rw [bundles_perform_of_operation performs]
        cases call with
        | openBundle => exact absurd performs (by simp [Call.operation?])
        | _ => rfl
      | none =>
        cases call with
        | start => exact absurd performs (by simp [Call.operation?])
        | process record => exact absurd performs (by simp [Call.operation?])
        | finish => exact absurd performs (by simp [Call.operation?])
        | _ => rfl
    rw [performAll_cons, ih, first, List.countP_cons]
    omega

/-! ### Elements and invocations -/

/-- How many invocations a record takes. -/
def Granularity.invocations (granularity : Granularity) (record : Record α) : Nat :=
  match granularity with
  | .perRecord => 1
  | .perWindow => record.windows.size

/-- When a record is processed, the result is the number of its invocations. -/
theorem Runner.invocations_of_done {r : Runner α β σ} {record : Record α} {n : Nat}
    (done : (r.runElement record).2 = .done n) :
    n = r.plan.descriptor.granularity.invocations record := by
  have result : ∀ (outcome : Outcome Unit) (m : Nat),
      (outcome.map fun _ => m) = .done n → n = m := by
    intro outcome m h
    cases outcome with
    | done u => exact (Outcome.done.inj h).symm
    | failed fault => exact absurd h (by simp)
    | panicked message => exact absurd h (by simp)
  unfold runElement at done
  cases granularity : r.plan.descriptor.granularity with
  | perRecord =>
    rw [granularity] at done
    exact result _ _ done
  | perWindow =>
    rw [granularity] at done
    exact result _ _ done

/-- The record that a call has processed, if it has. -/
def Stage.processed? (st : Stage α β σ) : Option (Record α) :=
  match st.call, st.reply with
  | .process record, .moved (.done ()) => some record
  | _, _ => none

theorem Stage.processed?_eq_some_iff {st : Stage α β σ} {record : Record α} :
    st.processed? = some record ↔ st.call = .process record ∧ st.reply = .moved (.done ()) := by
  unfold processed?
  constructor
  · intro h
    split at h
    next call reply => exact ⟨call.trans (congrArg _ (Option.some.inj h)), reply⟩
    next => exact absurd h (by simp)
  · rintro ⟨call, reply⟩
    rw [call, reply]

/-- The records that the calls have processed, in order. -/
def Session.processed (s : Session α β σ) (calls : List (Call α)) : List (Record α) :=
  (s.stages calls).filterMap Stage.processed?

/-- The bundle `b'` comes from the bundle `b` by the processing of `records`, whatever becomes of
    its phase. -/
structure Bundle.Counts (b : Bundle) (granularity : Granularity) (records : List (Record α))
    (b' : Bundle) : Prop where
  id : b'.id = b.id
  elements : b'.elements = b.elements + records.length
  invocations : b'.invocations = b.invocations + (records.map granularity.invocations).sum

namespace Bundle.Counts

variable {granularity : Granularity} {b b' b'' : Bundle} {records records' : List (Record α)}

/-- Where no record is processed, nothing is counted. -/
theorem of_same (id : b'.id = b.id) (elements : b'.elements = b.elements)
    (invocations : b'.invocations = b.invocations) :
    b.Counts granularity ([] : List (Record α)) b' :=
  ⟨id, elements, invocations⟩

theorem trans (first : b.Counts granularity records b')
    (second : b'.Counts granularity records' b'') :
    b.Counts granularity (records ++ records') b'' where
  id := second.id.trans first.id
  elements := by rw [second.elements, first.elements, List.length_append, Nat.add_assoc]
  invocations := by
    rw [second.invocations, first.invocations, List.map_append, List.sum_append, Nat.add_assoc]

end Bundle.Counts

/-- To settle an operation counts nothing. -/
theorem Bundle.counts_settle (b : Bundle) (granularity : Granularity) (operation : Operation)
    (r : Runner α β σ) (outcome : Outcome Unit) :
    b.Counts granularity ([] : List (Record α)) (b.settle operation r outcome).bundle := by
  cases outcome <;> exact .of_same rfl rfl rfl

/-- The beginning of an operation counts nothing. -/
theorem Bundle.counts_advance {b begun : Bundle} {operation : Operation}
    (advance : b.advance operation = some begun) (granularity : Granularity) :
    b.Counts granularity ([] : List (Record α)) begun := by
  obtain ⟨-, rfl⟩ := Bundle.begun_of_advance advance
  split <;> exact .of_same rfl rfl rfl

/-- A bundle counts an element that was processed, with its invocations. -/
theorem Bundle.counts_tally (b : Bundle) {granularity : Granularity} (record : Record α)
    {ended : Outcome Nat} (number : ∀ n, ended = .done n → n = granularity.invocations record) :
    b.Counts granularity (if ended.isDone then [record] else []) (b.tally ended) := by
  cases ended with
  | done n =>
    refine ⟨rfl, rfl, ?_⟩
    rw [number n rfl]
    simp [tally, count, Outcome.isDone]
  | failed fault => exact .of_same rfl rfl rfl
  | panicked message => exact .of_same rfl rfl rfl

/-- **One call.** The open bundle counts the record that a call has processed, if it has. -/
theorem Stage.counts_after (st : Stage α β σ) {b : Bundle} (opened : st.before.bundle = some b)
    (keeps : st.call.keepsBundle = true) :
    ∃ b', st.after.bundle = some b' ∧
      b.Counts st.before.runner.plan.descriptor.granularity st.processed?.toList b' := by
  cases begins : st.begun? with
  | none =>
    -- a call that is refused has processed nothing
    have unprocessed : st.processed? = none := by
      rw [Option.eq_none_iff_forall_ne_some]
      intro record h
      obtain ⟨call, reply⟩ := processed?_eq_some_iff.mp h
      have performs : st.call.operation? = some .process := by rw [call]; rfl
      have refused := st.refused opened performs (by simpa [begun?, opened, performs] using begins)
      have replied := refused.reply
      rw [reply] at replied
      exact absurd replied (by simp [Reply.outcome?])
    have same : st.after.bundle = some b := by
      rcases st.accepted_or_same opened keeps with ⟨_, begun, _, _, begun', _⟩ | ⟨-, -, same⟩
      · exact absurd (begins.symm.trans begun') (by simp)
      · exact same
    rw [unprocessed]
    exact ⟨b, same, .of_same rfl rfl rfl⟩
  | some begun =>
    obtain ⟨b₀, operation, opened', performs, advance⟩ := begun?_eq_some begins
    obtain rfl : b = b₀ := Option.some.inj (opened.symm.trans opened')
    obtain ⟨⟨r, bundle⟩, call⟩ := st
    obtain rfl : bundle = some b := opened
    cases call with
    | start =>
      obtain rfl : .start = operation := Option.some.inj performs
      obtain rfl := Bundle.eq_of_advance advance (by decide)
      refine ⟨_, rfl, ?_⟩
      rw [Bundle.start_of_advance advance]
      exact begun.counts_settle _ .start _ _
    | process record =>
      obtain rfl : .process = operation := Option.some.inj performs
      have turned := Bundle.process_of_advance advance r record
      have reply : (Stage.mk ⟨r, some b⟩ (.process record)).reply =
          .moved (((begun.enter r).runElement record).2.map fun _ => ()) :=
        congrArg Reply.moved ((congrArg Turn.outcome turned).trans (Bundle.outcome_settle ..))
      have processed : (Stage.mk ⟨r, some b⟩ (.process record)).processed?.toList =
          if ((begun.enter r).runElement record).2.isDone then [record] else [] := by
        unfold processed?
        rw [reply]
        cases ((begun.enter r).runElement record).2 <;> rfl
      -- counted when the record is done; neither the beginning nor the end counts anything
      have tallied := begun.counts_tally record
        fun n ended => Runner.invocations_of_done (r := begun.enter r) ended
      have counted := (Bundle.counts_advance advance _).trans tallied
      refine ⟨_, rfl, ?_⟩
      rw [turned, processed]
      have settled := counted.trans (Bundle.counts_settle _ _ .process
        ((begun.enter r).runElement record).1
        (((begun.enter r).runElement record).2.map fun _ => ()))
      rwa [List.nil_append, List.append_nil] at settled
    | finish =>
      obtain rfl : .finish = operation := Option.some.inj performs
      obtain rfl := Bundle.eq_of_advance advance (by decide)
      refine ⟨_, rfl, ?_⟩
      simp only [Bundle.finish_of_advance advance, Bundle.leave, Bundle.bundle_close]
      exact begun.counts_settle _ .finish _ _
    | _ => exact absurd performs (by simp [Call.operation?])

/-- **Calls in a row.** The open bundle counts the records that the calls have processed. -/
theorem Session.counts_performAll {s : Session α β σ} {b : Bundle} {calls : List (Call α)}
    (opened : s.bundle = some b) (keeps : ∀ call ∈ calls, call.keepsBundle = true) :
    ∃ b', (s.performAll calls).1.bundle = some b' ∧
      b.Counts s.runner.plan.descriptor.granularity (s.processed calls) b' := by
  -- by the calls, from the bundle that each of them finds
  induction calls generalizing s b with
  | nil => exact ⟨b, opened, .of_same rfl rfl rfl⟩
  | cons call calls ih =>
    have keepsFirst := keeps call (List.mem_cons_self ..)
    obtain ⟨b', opened', first⟩ := Stage.counts_after ⟨s, call⟩ opened keepsFirst
    obtain ⟨b'', opened'', rest⟩ := ih opened' fun call h => keeps call (List.mem_cons_of_mem _ h)
    -- the granularity is fixed for the whole run
    have plan : (s.perform call).1.runner.plan = s.runner.plan :=
      congrArg Prod.snd (s.fixed_perform call)
    have split : s.processed (call :: calls) =
        (Stage.mk s call).processed?.toList ++ (s.perform call).1.processed calls := by
      unfold processed
      rw [stages_cons, List.filterMap_cons]
      cases (Stage.mk s call).processed? <;> rfl
    refine ⟨b'', opened'', ?_⟩
    rw [split]
    exact first.trans (plan ▸ rest)

/-! ### Since the last start -/

/-- A finish that is done takes the bundle from `inBundle` to `finished`. -/
theorem Stage.phase?_of_finished {st : Stage α β σ} {summary : Summary}
    (done : st.reply = .finished (.done summary)) :
    st.before.phase? = some .inBundle ∧ st.after.phase? = some .finished := by
  obtain ⟨-, -, -, accepted, -⟩ := emits_of_finished done
  obtain ⟨begun, begins, performs⟩ := Option.bind_eq_some_iff.mp accepted
  obtain ⟨b, operation, opened, performs', advance⟩ := begun?_eq_some begins
  obtain rfl : .finish = operation := Option.some.inj (performs.symm.trans performs')
  have edge := Bundle.allows_of_advance advance
  obtain ⟨outcome, replied, lands⟩ := st.landing opened performs advance
  obtain rfl : .done () = outcome := by
    rw [done] at replied
    exact Option.some.inj replied
  refine ⟨?_, lands⟩
  rw [Session.phase?, opened, Option.map_some]
  -- a finish passes from one phase only
  cases phase : b.phase with
  | inBundle => rfl
  | _ =>
    rw [phase] at edge
    exact absurd edge (by decide)

namespace Session

/-- Among calls there is a last start that passes the order check, if there is one. -/
theorem last_start (s : Session α β σ) (calls : List (Call α)) :
    (∀ st ∈ s.stages calls, st.accepted? ≠ some .start) ∨
    ∃ xs ys, calls = xs ++ .start :: ys ∧
      (Stage.mk (s.performAll xs).1 .start).accepted? = some .start ∧
      ∀ st ∈ (s.performAll (xs ++ [.start])).1.stages ys, st.accepted? ≠ some .start := by
  induction calls generalizing s with
  | nil => exact Or.inl (by simp)
  | cons call calls ih =>
    -- one among the later calls comes first, and this call counts only if there is none
    rcases ih (s.perform call).1 with later | ⟨xs, ys, split, accepted, later⟩
    · by_cases here : (Stage.mk s call).accepted? = some .start
      · obtain ⟨-, -, performs⟩ := Option.bind_eq_some_iff.mp here
        cases call with
        | start => exact Or.inr ⟨[], calls, rfl, here, later⟩
        | _ => exact absurd performs (by simp [Call.operation?])
      · refine Or.inl fun st hst => ?_
        rcases List.mem_cons.mp hst with rfl | hst
        · exact here
        · exact later st hst
    · exact Or.inr ⟨call :: xs, ys, by rw [split]; rfl, accepted, later⟩

/-- Without a start that passes, a bundle stays before its start. -/
theorem phase?_performAll_of_unstarted {s : Session α β σ} {calls : List (Call α)}
    (phase : s.phase? = some .notStarted) (keeps : ∀ call ∈ calls, call.keepsBundle = true)
    (unstarted : ∀ st ∈ s.stages calls, st.accepted? ≠ some .start) :
    (s.performAll calls).1.phase? = some .notStarted := by
  induction calls generalizing s with
  | nil => exact phase
  | cons call calls ih =>
    obtain ⟨b, opened, stands⟩ := Option.map_eq_some_iff.mp phase
    refine ih ?_ (fun call h => keeps call (List.mem_cons_of_mem _ h))
      fun st hst => unstarted st (List.mem_cons_of_mem _ hst)
    rcases Stage.accepted_or_same ⟨s, call⟩ opened (keeps call (List.mem_cons_self ..)) with
      ⟨operation, begun, -, accepted, -, advance, -⟩ | ⟨-, -, same⟩
    · -- only a start leaves the first phase
      have edge := Bundle.allows_of_advance advance
      rw [stands] at edge
      cases operation with
      | start => exact absurd accepted (unstarted _ (List.mem_cons_self ..))
      | process => exact absurd edge (by decide)
      | finish => exact absurd edge (by decide)
    · exact (congrArg (Option.map Bundle.phase) same).trans (congrArg some stands)

/-- Calls without a start that passes, after which the bundle is not finished, do not touch the
    counters of emissions. -/
theorem quiet_of_unfinished {s : Session α β σ} {calls : List (Call α)}
    (keeps : ∀ call ∈ calls, call.keepsBundle = true)
    (restarts : ∀ st ∈ s.stages calls, st.accepted? ≠ some .start)
    (unfinished : (s.performAll calls).1.phase? ≠ some .finished) :
    ∀ st ∈ s.stages calls, st.Quiet := by
  induction calls generalizing s with
  | nil => simp
  | cons call calls ih =>
    have keepsRest := fun call h => keeps call (List.mem_cons_of_mem _ h)
    intro st hst
    rcases List.mem_cons.mp hst with rfl | hst
    · refine ⟨restarts _ (List.mem_cons_self ..), fun summary done => unfinished ?_⟩
      -- a bundle that is finished stays so
      exact phase?_performAll_of_final (s := (s.perform call).1)
        (Stage.phase?_of_finished done).2 rfl keepsRest
    · exact ih keepsRest (fun st hst => restarts st (List.mem_cons_of_mem _ hst)) unfinished st hst

/-- The last leg of a bundle: a start that passes the order check, calls that do not touch the
    counters of emissions, and a finish that is done. -/
structure LastLeg (s : Session α β σ) (calls : List (Call α)) (summary : Summary) : Prop where
  start : (Stage.mk s .start).accepted? = some .start
  quiet : ∀ st ∈ (s.perform .start).1.stages calls, st.Quiet
  done : ((s.performAll (.start :: calls)).1.perform .finish).2 = .finished (.done summary)

/-- A bundle that is finished has a last leg. -/
theorem exists_lastLeg {s : Session α β σ} {id : Nat} {calls : List (Call α)} {summary : Summary}
    (opened : s.bundle = some (.fresh id)) (keeps : ∀ call ∈ calls, call.keepsBundle = true)
    (done : ((s.performAll calls).1.perform .finish).2 = .finished (.done summary)) :
    ∃ xs ys, calls = xs ++ .start :: ys ∧
      (∀ st ∈ (s.performAll (xs ++ [.start])).1.stages ys, st.accepted? ≠ some .start) ∧
      ((s.performAll xs).1.performAll (.start :: ys)).1 = (s.performAll calls).1 ∧
      (s.performAll xs).1.LastLeg ys summary := by
  have ended : (Stage.mk (s.performAll calls).1 .finish).reply = .finished (.done summary) := done
  have phase : (s.performAll calls).1.phase? = some .inBundle :=
    (Stage.phase?_of_finished ended).1
  -- without a start that passes the bundle would not have left its first phase
  rcases s.last_start calls with unstarted | ⟨xs, ys, split, accepted, restarts⟩
  · have fresh : s.phase? = some .notStarted := by rw [phase?, opened]; rfl
    rw [phase?_performAll_of_unstarted fresh keeps unstarted] at phase
    exact absurd phase (by decide)
  · have cut : (s.performAll calls).1 = ((s.performAll xs).1.performAll (.start :: ys)).1 := by
      rw [split, performAll_append]
    have begun : (s.performAll (xs ++ [.start])).1 = ((s.performAll xs).1.perform .start).1 := by
      rw [performAll_append]
      rfl
    rw [cut] at done phase
    have keepsRest : ∀ call ∈ ys, call.keepsBundle = true := fun call h =>
      keeps call (split ▸ List.mem_append_right xs (List.mem_cons_of_mem _ h))
    have quiet := quiet_of_unfinished keepsRest (begun ▸ restarts) fun finished =>
      absurd (phase.symm.trans finished) (by decide)
    exact ⟨xs, ys, split, restarts, cut.symm, accepted, quiet, done⟩

/-- **The last leg.** From the start of the last leg, with the counters at zero, to the state in
    which the finish reads them, nothing leaves traces but the emissions of the leg. -/
theorem LastLeg.emits {s : Session α β σ} {calls : List (Call α)} {summary : Summary}
    (h : s.LastLeg calls summary) :
    ∃ (b : Bundle) (s' : RunState β),
      (s.performAll (.start :: calls)).1.bundle = some b ∧
      summary = b.summary s'.router.takeCounts.1 ∧
      RunState.Emits { s.runner.run with router := s.runner.run.router.takeCounts.2 }
        ((s.stages (.start :: (calls ++ [.finish]))).flatMap Stage.emissions) s' ∧
      (∃ told : List Log.Entry, s'.log = (s.performAll (.start :: calls)).1.runner.run.log ++ told ∧
        ∀ entry ∈ told, entry.notice.summary? = none) ∧
      (∃ entry : Log.Entry, ((s.performAll (.start :: calls)).1.perform .finish).1.runner.run.log =
        s'.log ++ [entry] ∧ entry.notice = .bundleFinished summary) ∧
      ∀ channel, ((s.performAll (.start :: calls)).1.perform .finish).1.runner.run.router.held
        channel = s'.router.held channel := by
  let finish : Stage α β σ := ⟨(s.performAll (.start :: calls)).1, .finish⟩
  -- the start sets the counters to zero, and the finish reads them after its own emissions
  have first := Stage.emits_of_start h.start
  have between := emits_performAll h.quiet
  obtain ⟨b, s', opened, -, last, read, ends, held⟩ := Stage.emits_of_finished
    (show finish.reply = _ from h.done)
  obtain ⟨told, log, -, unfinished⟩ := last.told
  refine ⟨b, s', opened, read, ?_, ⟨told, log, unfinished⟩, ends, held⟩
  have whole := first.trans (between.trans last)
  have emissions : (s.stages (.start :: (calls ++ [.finish]))).flatMap Stage.emissions =
      (Stage.mk s .start).emissions ++
        (((s.perform .start).1.stages calls).flatMap Stage.emissions ++ finish.emissions) := by
    rw [stages_cons, stages_append, List.flatMap_cons, List.flatMap_append]
    simp [finish, performAll_cons]
  rw [emissions]
  exact whole

end Session

/-! ### The summary -/

/-- What is no summary is not told as one. -/
theorem Notice.message_ne_of_summary? {notice : Notice} (other : notice.summary? = none) :
    notice.message ≠ "bundle finished" := by
  cases notice with
  | bundleFinished summary => exact absurd other (by simp [summary?])
  | _ => simp [message]

/-- A new bundle has the number that follows the number of bundles opened before. -/
theorem Session.bundle_openBundle {callback : Callback α β σ} {state : σ} {binding : Binding α β}
    {settings : Settings} {r : Runner α β σ}
    (built : (Runner.build callback state binding settings).outcome = .done r)
    (earlier : List (Call α)) :
    ((Session.ofRunner r).performAll (earlier ++ [.openBundle])).1.bundle =
      some (.fresh (earlier.countP Call.opens + 1)) := by
  have first : (Session.ofRunner r).runner.bundles = 0 := Runner.bundles_of_build built
  have counted := (Session.ofRunner r).bundles_performAll earlier
  rw [first, Nat.zero_add] at counted
  rw [performAll_append, ← counted]
  rfl

/-- The granularity of a run is the one that the callback declares. -/
theorem Session.granularity_performAll {callback : Callback α β σ} {state : σ}
    {binding : Binding α β} {settings : Settings} {r : Runner α β σ}
    (built : (Runner.build callback state binding settings).outcome = .done r)
    (calls : List (Call α)) :
    ((Session.ofRunner r).performAll calls).1.runner.plan.descriptor.granularity =
      callback.descriptor.granularity := by
  have fixed : ((Session.ofRunner r).performAll calls).1.runner.fixed = r.fixed :=
    performAll_invariant (fun s => s.runner.fixed = r.fixed)
      (fun s call same => (s.fixed_perform call).trans same) _ calls rfl
  have plan : ((Session.ofRunner r).performAll calls).1.runner.plan = r.plan :=
    congrArg Prod.snd fixed
  rw [plan, (Runner.of_build built).1]
  rfl

/-- **The summary is exact.**  A runner was built, any calls were made on it, and then a bundle was
    opened and finished, with any calls on it in between.  Then the summary says:

    * the number of the bundle, which is one more than the number of bundles opened before;
    * the number of records that were processed on this bundle, and the number of their invocations;
    * the numbers of emissions to the main output and to side outputs that were told to the log
      since the last start of this bundle that passed the order check.

    The finish tells this summary to the log at its end, and no other. -/
theorem summary_exact (callback : Callback α β σ) (state : σ) (binding : Binding α β)
    (settings : Settings) (r : Runner α β σ)
    (built : (Runner.build callback state binding settings).outcome = .done r)
    (earlier later : List (Call α)) (keeps : ∀ call ∈ later, call.keepsBundle = true)
    (opened stopped : Session α β σ)
    (opens : ((Session.ofRunner r).performAll (earlier ++ [.openBundle])).1 = opened)
    (stops : (opened.performAll later).1 = stopped) (summary : Summary)
    (done : (stopped.perform .finish).2 = .finished (.done summary)) :
    summary.bundle = earlier.countP Call.opens + 1 ∧
    summary.elements = (opened.processed later).length ∧
    summary.invocations =
      ((opened.processed later).map callback.descriptor.granularity.invocations).sum ∧
    (∃ xs ys, later = xs ++ .start :: ys ∧
      (Stage.mk (opened.performAll xs).1 .start).accepted? = some .start ∧
      (∀ st ∈ (opened.performAll (xs ++ [.start])).1.stages ys, st.accepted? ≠ some .start) ∧
      ∃ logged, (stopped.perform .finish).1.runner.run.log =
          (opened.performAll xs).1.runner.run.log ++ logged ∧
        summary.mainOutputs = logged.countP (·.emitsTo ChannelId.isMain) ∧
        summary.sideOutputs = logged.countP (·.emitsTo ChannelId.isSide)) ∧
    ∃ told entry, (stopped.perform .finish).1.runner.run.log =
        stopped.runner.run.log ++ told ++ [entry] ∧
      (∀ other ∈ told, other.notice.message ≠ "bundle finished") ∧
      entry.notice.message = "bundle finished" ∧
      entry.notice.fields =
        [("bundle", .number summary.bundle), ("elements", .number summary.elements),
          ("invocations", .number summary.invocations),
          ("main_outputs", .number summary.mainOutputs),
          ("side_outputs", .number summary.sideOutputs)] := by
  subst stops
  have fresh : opened.bundle = some (.fresh (earlier.countP Call.opens + 1)) := by
    rw [← opens]
    exact Session.bundle_openBundle built earlier
  have granularity : opened.runner.plan.descriptor.granularity =
      callback.descriptor.granularity := by
    rw [← opens]
    exact Session.granularity_performAll built _
  obtain ⟨b, last, counts⟩ := Session.counts_performAll fresh keeps
  rw [granularity] at counts
  obtain ⟨xs, ys, split, restarts, cut, leg⟩ := Session.exists_lastLeg fresh keeps done
  obtain ⟨b', s', last', read, emits, ⟨told, log, others⟩, ⟨entry, ends, entry_eq⟩, -⟩ := leg.emits
  rw [cut] at last' log ends
  obtain rfl : b = b' := Option.some.inj (last.symm.trans last')
  obtain ⟨added, log', emitted, -⟩ := emits.told
  -- the counters were at zero when the leg began, and the summary itself is no emission
  have logged : ∀ channels, (added ++ [entry]).countP (·.emitsTo channels) =
      added.countP (·.emitsTo channels) := by
    intro channels
    have silent : entry.emitsTo channels = false := by
      rw [Log.Entry.emitsTo, entry_eq]
      rfl
    rw [List.countP_append, List.countP_singleton, silent]
    rfl
  refine ⟨?_, ?_, ?_, ⟨xs, ys, split, leg.start, restarts, added ++ [entry], ?_, ?_, ?_⟩,
    told, entry, ?_, fun other h => Notice.message_ne_of_summary? (others other h), ?_, ?_⟩
  · rw [read]
    exact counts.id
  · rw [read]
    exact counts.elements.trans (Nat.zero_add _)
  · rw [read]
    exact counts.invocations.trans (Nat.zero_add _)
  · rw [ends, log', List.append_assoc]
  · rw [read, logged, emitted]
    exact emits.main.trans (Nat.zero_add _)
  · rw [read, logged, emitted]
    exact emits.side.trans (Nat.zero_add _)
  · rw [ends, log]
  · rw [entry_eq]
    rfl
  · rw [entry_eq]
    rfl

/-! ### A bundle after one that panicked

The callback announces each bundle, and emits its elements behind a tag.  Over zero it panics.  In
the bundle before, that leaves an emission in the counters; in the bundle that is finished, it is
followed by a second start, which passes and begins to count anew.
-/

namespace Announces

/-- Emits a value to the main output, whatever comes of it. -/
def announce (n : Nat) : Program (@OutputRequest.Answer Nat) Unit :=
  .ask (.emit n none) fun _ => .stop () (.done ())

/-- Announces each bundle at its start and at its finish, and panics over zero. -/
def callback : Callback Nat Nat Unit where
  descriptor := { Descriptor.plain with granularity := .perWindow }
  skew := none
  setup state := .stop state (.done ())
  start _ _ := announce 100
  process view state :=
    if view.element = 0 then .stop state (.panicked "zero")
    else .ask (.output (.emitTagged "elements" ⟨.unsigned, view.element⟩ none)) fun _ =>
      .stop state (.done ())
  finish _ _ := announce 200

/-- One side output, which refuses everything. -/
def binding : Binding Nat Nat :=
  ⟨{ Declarations.ofMain .collecting with
      sideOutputs := [⟨"elements", .unsigned, .failing "full"⟩] },
    by decide, List.nodup_nil⟩

/-- The first twenty milliseconds after the epoch. -/
def twentyMillis : Interval := ⟨.epoch, .clamp 20, by decide⟩

/-- A record of a number at the epoch, in the whole of time and in the first twenty milliseconds. -/
def record (n : Nat) : Record Nat where
  value := n
  timestamp := .epoch
  windows := ⟨[.global, .interval twentyMillis], by simp, by simp⟩

/-- A bundle that panics over zero, and is abandoned. -/
def earlier : List (Call Nat) := [.openBundle, .start, .process (record 0)]

/-- A bundle that panics over its second record and is started again, in vain once more. -/
def later : List (Call Nat) :=
  [.start, .process (record 2), .process (record 0), .start, .start, .process (record 4)]

end Announces

/-- The second bundle counts both of its records, each in two windows, and the emissions since it
    was started again. -/
theorem summary_exact_announces :
    ∃ r, (Runner.build Announces.callback () Announces.binding .default).outcome = .done r ∧
      ∃ opened stopped,
        ((Session.ofRunner r).performAll (Announces.earlier ++ [.openBundle])).1 = opened ∧
        (opened.performAll Announces.later).1 = stopped ∧
        (stopped.perform .finish).2 = .finished (.done ⟨2, 2, 4, 2, 2⟩) ∧
        (opened.processed Announces.later).length = 2 ∧
        ∃ xs ys, Announces.later = xs ++ .start :: ys ∧
          (Stage.mk (opened.performAll xs).1 .start).accepted? = some .start ∧
          ∃ logged, (stopped.perform .finish).1.runner.run.log =
              (opened.performAll xs).1.runner.run.log ++ logged ∧
            2 = logged.countP (·.emitsTo ChannelId.isMain) ∧
            2 = logged.countP (·.emitsTo ChannelId.isSide) := by
  refine ⟨_, rfl, _, _, rfl, rfl, rfl, ?_⟩
  obtain ⟨-, elements, -, ⟨xs, ys, split, accepted, -, logged⟩, -⟩ :=
    summary_exact Announces.callback () Announces.binding .default _ rfl Announces.earlier
      Announces.later (by decide) _ _ rfl rfl ⟨2, 2, 4, 2, 2⟩ rfl
  exact ⟨elements.symm, xs, ys, split, accepted, logged⟩

end BundleRunner
