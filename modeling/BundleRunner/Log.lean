import BundleRunner.Phase
import BundleRunner.Value

namespace BundleRunner

/-!
# The log

What a run tells its observers.  A `Notice` is a typed event; its level, target, message and fields
are views of it.  Notices given inside a call on a bundle carry the number of that bundle.
-/

/-- The main output or a tagged side output. -/
inductive ChannelId where
  | main
  | tagged (tag : String)
deriving DecidableEq

namespace ChannelId

/-- The written form of a channel. -/
def text : ChannelId → String
  | main => "main"
  | tagged tag => "tag:" ++ tag

/-- Whether a channel comes no later than another: the main output first, then side outputs by
    tag. -/
def ordered : ChannelId → ChannelId → Bool
  | main, _ => true
  | tagged _, main => false
  | tagged s, tagged t => decide (s ≤ t)

end ChannelId

/-- An event worth telling. -/
inductive Notice where
  /-- A record was routed to a channel. -/
  | emitted (channel : ChannelId) (timestamp : Instant) (windows : Nat)
  /-- A call was refused because of its order. -/
  | violation (bundle : Nat) (operation : Operation) (phase : BundlePhase)
  /-- A call succeeded and moved its bundle on. -/
  | transition (bundle : Nat) (operation : Operation) (origin goal : BundlePhase)
  /-- A call failed, and its bundle with it. -/
  | bundleFailed (bundle : Nat) (operation : Operation) (phase : BundlePhase) (fault : Fault)
  /-- A bundle was finished. -/
  | bundleFinished (summary : Summary)
  /-- A callback is ready to run. -/
  | runnerReady (skew : Skew) (sideOutputs sideInputs : Nat) (keyed : Bool) (windowFn : String)
      (aggregators : Nat)
  /-- An aggregator was registered. -/
  | aggregatorRegistered (name : String) (input : ValueType)
deriving DecidableEq

namespace Log

/-- How urgent a notice is. -/
inductive Level where
  | trace
  | debug
  | warn
deriving DecidableEq

/-- The name of a level. -/
def Level.text : Level → String
  | trace => "TRACE"
  | debug => "DEBUG"
  | warn => "WARN"

/-- The content of a field. -/
inductive Field where
  | text (s : String)
  | number (n : Nat)
  | flag (b : Bool)
deriving DecidableEq

end Log

namespace Notice

open Log

/-- The level of a notice. -/
def level : Notice → Level
  | emitted .. => .trace
  | violation .. => .warn
  | bundleFailed .. => .warn
  | _ => .debug

/-- The part of the program that a notice comes from. -/
def target : Notice → String
  | emitted .. => "spark_flow::router"
  | violation .. => "spark_flow::lifecycle"
  | transition .. => "spark_flow::lifecycle"
  | bundleFailed .. => "spark_flow::lifecycle"
  | bundleFinished .. => "spark_flow::lifecycle"
  | runnerReady .. => "spark_flow::instance"
  | aggregatorRegistered .. => "spark_flow::aggregator"

/-- The message of a notice. -/
def message : Notice → String
  | emitted .. => "emit"
  | violation .. => "lifecycle violation"
  | transition .. => "phase transition"
  | bundleFailed .. => "bundle failed"
  | bundleFinished .. => "bundle finished"
  | runnerReady .. => "element fn instance ready"
  | aggregatorRegistered .. => "aggregator registered"

/-- The fields of a notice. -/
def fields : Notice → List (String × Field)
  | emitted channel timestamp windows =>
    [("channel", .text channel.text), ("timestamp", .text timestamp.text),
      ("windows", .number windows)]
  | violation bundle operation phase =>
    [("bundle", .number bundle), ("operation", .text operation.text), ("phase", .text phase.text)]
  | transition bundle operation origin goal =>
    [("bundle", .number bundle), ("operation", .text operation.text), ("from", .text origin.text),
      ("to", .text goal.text)]
  | bundleFailed bundle operation phase fault =>
    [("bundle", .number bundle), ("operation", .text operation.text), ("phase", .text phase.text),
      ("code", .text fault.code), ("error", .text fault.message)]
  | bundleFinished summary =>
    [("bundle", .number summary.bundle), ("elements", .number summary.elements),
      ("invocations", .number summary.invocations), ("main_outputs", .number summary.mainOutputs),
      ("side_outputs", .number summary.sideOutputs)]
  | runnerReady skew sideOutputs sideInputs keyed windowFn aggregators =>
    [("skew", .text skew.text), ("side_outputs", .number sideOutputs),
      ("side_inputs", .number sideInputs), ("keyed", .flag keyed), ("window_fn", .text windowFn),
      ("aggregators", .number aggregators)]
  | aggregatorRegistered name input =>
    [("aggregator", .text name), ("input", .text input.name)]

end Notice

namespace Log

/-- A notice and the bundle inside which it was given. -/
structure Entry where
  notice : Notice
  bundle : Option Nat
deriving DecidableEq

/-- The name of the span that a bundle's notices carry. -/
def spanName : String := "spark_flow.bundle"

end Log

end BundleRunner
