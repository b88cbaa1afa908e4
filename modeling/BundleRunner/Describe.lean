import BundleRunner.Bundle

namespace BundleRunner.Describe

/-!
# Descriptions for debugging

Values of the library as texts for a reader of logs: the name of the kind, then its fields between
braces, with two dots for what is not shown.
-/

variable {α β σ : Type}

/-- A list between two brackets, with commas. -/
def listing (opening closing : String) (items : List String) : String :=
  opening ++ ", ".intercalate items ++ closing

/-- Items between square brackets. -/
def sequence (items : List String) : String := listing "[" "]" items

/-- Items between braces. -/
def set (items : List String) : String := listing "\x7b" "\x7d" items

/-- A kind with its fields, all of which are shown. -/
def record (kind : String) (fields : List (String × String)) : String :=
  kind ++ " \x7b " ++ ", ".intercalate (fields.map fun f => f.1 ++ ": " ++ f.2) ++ " \x7d"

/-- A kind with some of its fields. -/
def excerpt (kind : String) (fields : List (String × String)) : String :=
  kind ++ " \x7b " ++ String.join (fields.map fun f => f.1 ++ ": " ++ f.2 ++ ", ") ++ ".. \x7d"

/-- Names in increasing order. -/
def sorted (names : List String) : List String := names.mergeSort fun a b => decide (a ≤ b)

/-- A truth value. -/
def flag : Bool → String
  | true => "true"
  | false => "false"

/-- An instant. -/
def instant (t : Instant) : String := "Instant(" ++ toString t.millis ++ ")"

/-- A window. -/
def window : Window → String
  | .global => "Global"
  | .interval w =>
    "Interval(" ++ record "IntervalWindow" [("start", instant w.start), ("end", instant w.stop)] ++
      ")"

/-- A set of windows. -/
def windowSet (s : WindowSet) : String := "WindowSet(" ++ set (s.windows.map window) ++ ")"

/-- A skew. -/
def skew : Skew → String
  | .bounded span => "Bounded(" ++ span.text ++ ")"
  | .unbounded => "Unbounded"

/-- An interrupt signal. -/
def interrupt (i : Interrupt) : String := record "InterruptSignal" [("raised", flag i.raised)]

/-- A tag with the type of its values. -/
def tag (id : String) (type : ValueType) : String :=
  record "OutputTag" [("id", Text.quote id), ("type", Text.quote type.name)]

/-- A view with the type of its values. -/
def view (id : String) (type : ValueType) : String :=
  record "SideInputView" [("id", Text.quote id), ("type", Text.quote type.name)]

/-- A handle on an aggregator. -/
def aggregator (name : String) : String := excerpt "Aggregator" [("name", Text.quote name)]

/-- A registry. -/
def registry (r : Registry) : String :=
  record "AggregatorRegistry" [("names", sequence (r.names.map Text.quote))]

/-- A channel with a collecting sink. -/
def channel (c : Channel β) : String :=
  record "CollectingSink" [("len", toString c.accepted.length)]

/-- A reader with a number of reads made so far. -/
def staticReader (reads : Nat) : String :=
  excerpt "StaticSideInputReader" [("reads", toString reads)]

/-- A handle on keyed state. -/
def stateHandle : String := excerpt "KeyedStateHandle" []

/-- A handle on windowing internals. -/
def internalsHandle : String := excerpt "WindowingInternalsHandle" []

/-- The name of a callback phase as a kind. -/
def callbackPhase : CallbackPhase → String
  | .startBundle => "StartBundle"
  | .processElement => "ProcessElement"
  | .finishBundle => "FinishBundle"

/-- What a callback sees in a bundle phase. -/
def bundleContext (phase : CallbackPhase) : String :=
  excerpt "BundleContext" [("phase", callbackPhase phase)]

/-- What a callback sees of an element. -/
def elementView (v : ElementView α) : String :=
  excerpt "ProcessContext" [("timestamp", instant v.timestamp), ("windows", windowSet v.windows)]

/-- The capabilities of a phase. -/
def signature (s : Signature) : String :=
  record "PhaseSignature"
    [("keyed_state", flag s.keyedState), ("window", flag s.window),
      ("windowing_internals", flag s.windowingInternals)]

/-- A descriptor. -/
def descriptor (d : Descriptor) : String :=
  record "CallbackDescriptor"
    [("start_bundle", signature d.start), ("process_element", signature d.process),
      ("finish_bundle", signature d.finish), ("invocation", d.granularity.text)]

/-- Declarations, as they are bound. -/
def declarations (d : Declarations α β) : String :=
  excerpt "TransformBinding"
    [("side_outputs", sequence (d.tags.map Text.quote)),
      ("side_inputs",
        excerpt "SideInputs" [("declared", set ((sorted d.views).map Text.quote))]),
      ("keyed", flag d.keyed), ("window_fn", Text.quote d.windowFn.name)]

/-- A router. -/
def router (r : Router β) : String :=
  excerpt "OutputRouter"
    [("tags", sequence ((sorted (r.side.map SideOutput.tag)).map Text.quote)),
      ("limit", toString r.limit)]

/-- A runner. -/
def runner (r : Runner α β σ) : String :=
  excerpt "ElementFnInstance"
    [("descriptor", descriptor r.plan.descriptor), ("skew", skew r.plan.skew),
      ("router", router r.run.router), ("aggregators", registry r.run.registry),
      ("bundles", toString r.bundles)]

/-- A bundle. -/
def bundle (b : Bundle) : String :=
  excerpt "BundleLifecycle" [("bundle", toString b.id), ("phase", b.phase.text)]

/-- A runner under test. -/
def tester (r : Runner α β σ) : String :=
  excerpt "FnTester" [("instance", runner r), ("main", channel r.run.router.main)]

end BundleRunner.Describe
