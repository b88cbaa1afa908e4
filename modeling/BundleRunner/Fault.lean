import BundleRunner.Time.Skew

namespace BundleRunner

/-!
# Faults

Everything that can go wrong while a callback runs, as one type.  A `Fault` says what happened;
three views say what to do about it:

* `Fault.code` — a stable code, the key for metrics and alerts;
* `Fault.category` — who has to act;
* `Fault.message` — the sentence for a reader.

Names of operations, phases, capabilities and types are texts here, because collaborators report
faults too and have names of their own.
-/

/-- Why a call did not succeed. -/
inductive Fault where
  /-- An operation in a phase that does not allow it. -/
  | lifecycleViolation (operation phase : String)
  /-- A handle used after the invocation it was made for. -/
  | staleContext (accessor : String)
  /-- Data of an element read where there is no element. -/
  | contextMisuse (accessor scope : String)
  /-- An emission to a side output that was not declared. -/
  | unknownTag (tag : String)
  /-- One side output more than the limit. -/
  | tooManyOutputs (limit requested : Nat)
  /-- A value of another type than the side output takes. -/
  | tagTypeMismatch (tag expected : String)
  /-- A timestamp earlier than the skew allows. -/
  | skewViolation (timestamp input : Instant) (skew : Skew)
  /-- A window assignment without windows. -/
  | emptyWindowSet
  /-- Several windows where one is asked for. -/
  | ambiguousWindow (count : Nat)
  /-- A view that was not declared as a side input. -/
  | notASideInput (view : String)
  /-- A side input of another type than the view has. -/
  | sideInputTypeMismatch (view expected : String)
  /-- Keyed state in a transform without keys. -/
  | noKey
  /-- A capability that the descriptor does not declare. -/
  | undeclaredCapability (capability phase : String)
  /-- A capability that the provider does not have. -/
  | capabilityUnavailable (capability : String)
  /-- A descriptor that asks for a capability where none is to be had. -/
  | invalidDescriptor (phase capability : String)
  /-- A name taken twice within a scope. -/
  | duplicateName (scope name : String)
  /-- An argument without content. -/
  | nullArgument (argument : String)
  /-- A configuration that cannot be used. -/
  | invalidConfiguration (detail : String)
  /-- A call stopped by the scheduler. -/
  | interrupted (reason : String)
  /-- A failure of the callback's own. -/
  | callback (source : String)
  /-- A failure of a sink, a reader, a store or a provider. -/
  | collaborator (name source : String)
deriving DecidableEq

namespace Fault

/-- Who has to act on a fault. -/
inductive Category where
  /-- The author of the callback or of the binding: the interface was used wrongly. -/
  | usage
  /-- The author of the callback: a documented limit was not kept. -/
  | policyViolation
  /-- The scheduler, which stopped the call itself. -/
  | interrupted
  /-- The callback, by its own failure. -/
  | callback
  /-- The operator of a collaborator. -/
  | collaborator
deriving DecidableEq

/-- The stable code of a fault. -/
def code : Fault → String
  | .lifecycleViolation .. => "flow.lifecycle.violation"
  | .staleContext .. => "flow.context.stale"
  | .contextMisuse .. => "flow.context.misuse"
  | .unknownTag .. => "flow.output.unknown_tag"
  | .tooManyOutputs .. => "flow.output.too_many"
  | .tagTypeMismatch .. => "flow.output.type_mismatch"
  | .skewViolation .. => "flow.timestamp.skew"
  | .emptyWindowSet => "flow.window.empty"
  | .ambiguousWindow .. => "flow.window.ambiguous"
  | .notASideInput .. => "flow.side_input.undeclared"
  | .sideInputTypeMismatch .. => "flow.side_input.type_mismatch"
  | .noKey => "flow.state.no_key"
  | .undeclaredCapability .. => "flow.capability.undeclared"
  | .capabilityUnavailable .. => "flow.capability.unavailable"
  | .invalidDescriptor .. => "flow.descriptor.invalid"
  | .duplicateName .. => "flow.registry.duplicate"
  | .nullArgument .. => "flow.registry.null_argument"
  | .invalidConfiguration .. => "flow.config.invalid"
  | .interrupted .. => "flow.runtime.interrupted"
  | .callback .. => "flow.callback.failed"
  | .collaborator .. => "flow.collaborator.failed"

/-- The category of a fault: limits of skew, tags, scope and windows are policy, a missing
    capability is the provider's, and what remains is wrong use. -/
def category : Fault → Category
  | .skewViolation .. | .tooManyOutputs .. | .contextMisuse .. | .emptyWindowSet =>
    .policyViolation
  | .interrupted .. => .interrupted
  | .callback .. => .callback
  | .collaborator .. | .capabilityUnavailable .. => .collaborator
  | _ => .usage

/-- The failure that a fault wraps, when it wraps one. -/
def source? : Fault → Option String
  | .callback source => some source
  | .collaborator _ source => some source
  | _ => none

/-- The name of a category. -/
def Category.text : Category → String
  | .usage => "Usage"
  | .policyViolation => "PolicyViolation"
  | .interrupted => "Interrupted"
  | .callback => "Callback"
  | .collaborator => "Collaborator"

/-- A name between ticks. -/
def ticked (name : String) : String := "`" ++ name ++ "`"

/-- The sentence that describes a fault. -/
def message : Fault → String
  | .lifecycleViolation operation phase =>
    "lifecycle violation: " ++ ticked operation ++ " is not permitted in phase " ++ phase
  | .staleContext accessor =>
    "stale context: " ++ ticked accessor ++ " used after its invocation returned"
  | .contextMisuse accessor scope =>
    "context misuse: " ++ ticked accessor ++ " is unavailable " ++ scope
  | .unknownTag tag => "output tag " ++ ticked tag ++ " was not declared for this transform"
  | .tooManyOutputs limit requested =>
    "side output limit exceeded: " ++ toString requested ++ " tags requested, limit is " ++
      toString limit
  | .tagTypeMismatch tag expected =>
    "output tag " ++ ticked tag ++ " expects values of type " ++ ticked expected
  | .skewViolation timestamp input skew =>
    "timestamp " ++ timestamp.text ++ " precedes input timestamp " ++ input.text ++
      " by more than the allowed skew " ++ skew.text
  | .emptyWindowSet => "window assignment produced an empty window set"
  | .ambiguousWindow count =>
    "record spans " ++ toString count ++
      " windows; request per-window invocation to observe a single window"
  | .notASideInput view =>
    "view " ++ ticked view ++ " was not declared as a side input of this transform"
  | .sideInputTypeMismatch view expected =>
    "side input " ++ ticked view ++ " does not materialize as " ++ ticked expected
  | .noKey => "keyed state requested by a transform that is not keyed"
  | .undeclaredCapability capability phase =>
    "capability " ++ ticked capability ++ " was not declared for " ++ phase
  | .capabilityUnavailable capability =>
    "capability " ++ ticked capability ++ " is not supported by the extra-context provider"
  | .invalidDescriptor phase capability =>
    "invalid callback descriptor: " ++ phase ++ " may not request " ++ ticked capability
  | .duplicateName scope name =>
    scope ++ " named " ++ ticked name ++ " already exists within this scope"
  | .nullArgument argument => "argument " ++ ticked argument ++ " must not be empty"
  | .invalidConfiguration detail => "invalid configuration: " ++ detail
  | .interrupted reason => "invocation interrupted: " ++ reason
  | .callback source => "callback failed: " ++ source
  | .collaborator name source => "collaborator " ++ ticked name ++ " failed: " ++ source

end Fault

end BundleRunner
