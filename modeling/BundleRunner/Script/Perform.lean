import BundleRunner.Describe
import BundleRunner.Script.Action

namespace BundleRunner

/-!
# Scripted callbacks

The programs of scripts.  Each action is turned into requests, and what follows it is handed in as a
continuation, so that a script is run by recursion on its list of steps:

* `Script.toCallback` — the callback that runs a script.
-/

namespace Script

universe u

variable {R : Type u} {Answer : R → Type}

/-- What follows an action: it is told the notebook and how the action ended. -/
abbrev Next (P : Type u) := Notebook → Outcome Finding → P

/-- A way to make shared requests within programs of a phase. -/
abbrev AskShared (P : Type 1) := (request : SharedRequest) → (request.Answer → P) → P

/-- A way to make output requests within programs of a phase. -/
abbrev AskOutput (P : Type 1) :=
  (request : OutputRequest String) → (request.Answer → P) → P

/-- Put an element into a text wherever the mark for it stands. -/
def substitute (element text : String) : String := text.replace "\x7be\x7d" element

/-- Add literals to an aggregator, one after the other, then read its result. -/
def addAll {P : Type 1} (ask : AskShared P) (handle : AnyAggregator) (book : Notebook)
    (next : Next P) : List Literal → P
  | [] =>
    ask (.value handle.input handle.output handle.handle) fun result =>
      next book (.done
        (match result with
          | some x => .value ⟨handle.output, x⟩
          | none => .nothing))
  | literal :: literals =>
    match literal.as? handle.input with
    | some x =>
      ask (.add handle.input handle.output handle.handle x) fun _ =>
        addAll ask handle book next literals
    | none => addAll ask handle book next literals

/-- Run an action that every phase offers. -/
def performShared {P : Type 1} (ask : AskShared P) (action : Action) (book : Notebook)
    (next : Next P) : P :=
  match action with
  | .create name recipe binder =>
    ask (.create name recipe.input recipe.output recipe.combiner) fun
      | .ok handle => next (book.keep binder ⟨_, _, handle⟩) (.done (.text handle.name))
      | .error fault => next book (.failed fault)
  | .add binder values =>
    match book.aggregator? binder with
    | some handle => addAll ask handle book next values
    | none => next book (.done .nothing)
  | .value binder =>
    match book.aggregator? binder with
    | some handle => addAll ask handle book next []
    | none => next book (.done .nothing)
  | .interrupt reason => ask (.raise reason) fun _ => next book (.done .nothing)
  | .clear => ask .clear fun _ => next book (.done .nothing)
  | .fail message => next book (.failed (.callback message))
  | .failInterrupted message => next book (.failed (.interrupted message))
  | .panic message => next book (.panicked message)
  | _ => next book (.done .nothing)

/-- Use a handle on keyed state. -/
def applyState {P : Type 1} (ask : AskOutput P) (handle : StateHandle) (use : StateUse)
    (book : Notebook) (next : Next P) : P :=
  match use with
  | .nothing => next book (.done .nothing)
  | .describe => next book (.done (.text Describe.stateHandle))
  | .call call => ask (.useState handle call) fun result =>
    next book (.ofExcept (result.map .bytes))

/-- The part of windowing internals that is asked for. -/
def pick (use : InternalsUse) (i : Internals) : Finding :=
  match use with
  | .pane => .pane i.pane
  | .windows => .windows i.windows
  | .timestamp => .instant i.timestamp
  | _ => .nothing

/-- Use a handle on windowing internals. -/
def applyInternals {P : Type 1} (ask : AskOutput P) (handle : InternalsHandle)
    (use : InternalsUse) (book : Notebook) (next : Next P) : P :=
  match use with
  | .nothing => next book (.done .nothing)
  | .describe => next book (.done (.text Describe.internalsHandle))
  | use => ask (.useInternals handle) fun result => next book (.ofExcept (result.map (pick use)))

/-- The text that says that a script has kept no handle. -/
def nothingKept : Finding := .text "nothing kept"

/-- What the actions of a phase find around them. -/
structure Setting where
  /-- The element, or the empty text. -/
  element : String
  /-- The time of the element. -/
  timestamp : Option Instant
  options : Options

/-- The value of a side output with the element put into it. -/
def substituteValue (element : String) (v : Value) : Value :=
  match v with
  | ⟨.text, (s : String)⟩ => ⟨.text, substitute element s⟩
  | v => v

/-- Run an action that every phase of a bundle offers. -/
def performOutput {P : Type 1} (ask : AskOutput P) (setting : Setting) (action : Action)
    (book : Notebook) (next : Next P) : P :=
  match action with
  | .output value time =>
    ask (.emit (substitute setting.element value) (time.explicit? setting.timestamp)) fun result =>
      next book (.ofExcept (result.map fun _ => .nothing))
  | .side tag value time =>
    ask (.emitTagged tag (substituteValue setting.element value)
      (time.explicit? setting.timestamp)) fun result =>
        next book (.ofExcept (result.map fun _ => .nothing))
  | .option key =>
    next book (.done
      (match setting.options.get? key with
        | some s => .text s
        | none => .nothing))
  | .options => next book (.done (.options setting.options))
  | .keptState use =>
    match book.state with
    | some handle => applyState ask handle use book next
    | none => next book (.done nothingKept)
  | .keptInternals use =>
    match book.internals with
    | some handle => applyInternals ask handle use book next
    | none => next book (.done nothingKept)
  | action => performShared (fun request => ask (.shared request)) action book next

/-- Run an action at the start or the finish of a bundle. -/
def performBundle {P : Type 1} (ask : AskOutput P) (phase : CallbackPhase) (options : Options)
    (action : Action) (book : Notebook) (next : Next P) : P :=
  match action with
  | .phase => next book (.done (.text phase.text))
  | .describe => next book (.done (.text (Describe.bundleContext phase)))
  | action => performOutput ask ⟨"", none, options⟩ action book next

/-- Programs of the element phase that keep a notebook. -/
abbrev ElementProgram := Program (@ElementRequest.Answer String) Notebook

/-- Run an action while an element is processed. -/
def performElement (v : ElementView String) (action : Action) (book : Notebook)
    (next : Next ElementProgram) : ElementProgram :=
  let askOutput : AskOutput ElementProgram := fun request k => .ask (.output request) k
  match action with
  | .element => next book (.done (.text v.element))
  | .timestamp => next book (.done (.instant v.timestamp))
  | .windows => next book (.done (.windows v.windows))
  | .skew => next book (.done (.text v.skew.text))
  | .describe => next book (.done (.text (Describe.elementView v)))
  | .window => .ask .window fun result => next book (.ofExcept (result.map .window))
  | .check => .ask .checkInterrupt fun result =>
    next book (.ofExcept (result.map fun _ => .nothing))
  | .sideInput view type => .ask (.sideInput view type) fun result =>
    next book (.ofExcept (result.map fun x => .value ⟨type, x⟩))
  | .keyed use keep => .ask .keyedState fun
    | .ok handle =>
      let book := if keep then { book with state := some handle } else book
      applyState askOutput handle use book next
    | .error fault => next book (.failed fault)
  | .internals use keep => .ask .internals fun
    | .ok handle =>
      let book := if keep then { book with internals := some handle } else book
      applyInternals askOutput handle use book next
    | .error fault => next book (.failed fault)
  | action => performOutput askOutput ⟨v.element, some v.timestamp, v.options⟩ action book next

/-- Run steps one after the other.  Each is noted; a failure ends the phase unless the step is
    tolerant, and a panic ends it at once without a note. -/
def runSteps (perform : Action → Notebook → Next (Program Answer Notebook) →
    Program Answer Notebook) : List Step → Notebook → Program Answer Notebook
  | [], book => .stop book (.done ())
  | step :: steps, book =>
    perform step.action book fun book outcome =>
      match outcome with
      | .done finding => runSteps perform steps (book.note step.action.label (.ok finding))
      | .failed fault =>
        let noted := book.note step.action.label (.error fault)
        if step.tolerant then runSteps perform steps noted else .stop noted (.failed fault)
      | .panicked message => .stop book (.panicked message)

end Script

/-- A script: what a callback declares, and its steps for each phase. -/
structure Script where
  descriptor : Descriptor
  skew : Option Skew
  setup : List Step
  start : List Step
  /-- Steps by element; the steps under a star are for all elements not named. -/
  process : List (String × List Step)
  finish : List Step

namespace Script

/-- The steps for an element. -/
def stepsFor (s : Script) (element : String) : List Step :=
  match s.process.find? (·.1 == element) with
  | some entry => entry.2
  | none =>
    match s.process.find? (·.1 == "*") with
    | some entry => entry.2
    | none => []

/-- The callback that runs a script. -/
def toCallback (s : Script) : Callback String String Notebook where
  descriptor := s.descriptor
  skew := s.skew
  setup := runSteps (performShared fun request k => .ask (.shared request) k) s.setup
  start options := runSteps (performBundle (fun r k => .ask r k) .startBundle options) s.start
  process v := runSteps (performElement v) (s.stepsFor v.element)
  finish options := runSteps (performBundle (fun r k => .ask r k) .finishBundle options) s.finish

/-- Run one action outside every phase, with what the script has kept. -/
def runOutside (action : Action) (r : Runner String String Notebook) :
    Runner String String Notebook × Outcome Finding :=
  let program : Program (@OutputRequest.Answer String) (Notebook × Outcome Finding) :=
    performOutput (fun request k => .ask request k) ⟨"", none, r.plan.options⟩ action r.state
      fun book outcome => .stop (book, outcome) (.done ())
  let ended := program.run (OutputRequest.perform (.bundle r.plan.windowFn)) r.run
  ({ r with state := ended.state.1, run := ended.env }, ended.state.2)

end Script

end BundleRunner
