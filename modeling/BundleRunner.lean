import BundleRunner.Aggregator.Combiner
import BundleRunner.Aggregator.Registry
import BundleRunner.Binding
import BundleRunner.Bundle
import BundleRunner.Callback
import BundleRunner.Channel
import BundleRunner.Describe
import BundleRunner.Descriptor
import BundleRunner.Document.Characters
import BundleRunner.Document.Date
import BundleRunner.Document.Number
import BundleRunner.Document.Quoted
import BundleRunner.Document.Reader
import BundleRunner.Emission
import BundleRunner.Fault
import BundleRunner.Interrupt
import BundleRunner.Invocation
import BundleRunner.KeyedState
import BundleRunner.Log
import BundleRunner.Outcome
import BundleRunner.Phase
import BundleRunner.Program
import BundleRunner.Proofs.Arrivals
import BundleRunner.Proofs.Calm
import BundleRunner.Proofs.Capabilities
import BundleRunner.Proofs.Changes
import BundleRunner.Proofs.Events
import BundleRunner.Proofs.History
import BundleRunner.Proofs.Interruption
import BundleRunner.Proofs.Leads
import BundleRunner.Proofs.Leases
import BundleRunner.Proofs.Lifecycle
import BundleRunner.Proofs.Panic
import BundleRunner.Proofs.PerWindow
import BundleRunner.Proofs.Silence
import BundleRunner.Proofs.TagLimit
import BundleRunner.Proofs.Turns
import BundleRunner.Provider
import BundleRunner.Record
import BundleRunner.Router
import BundleRunner.RunState
import BundleRunner.Runner
import BundleRunner.Script.Action
import BundleRunner.Script.Collaborators
import BundleRunner.Script.Collect
import BundleRunner.Script.Perform
import BundleRunner.Script.Recipe
import BundleRunner.Session
import BundleRunner.Settings
import BundleRunner.SideInput
import BundleRunner.Tester
import BundleRunner.Text.Blank
import BundleRunner.Text.Concealed
import BundleRunner.Text.Hex
import BundleRunner.Text.Quoted
import BundleRunner.Time.Instant
import BundleRunner.Time.Skew
import BundleRunner.Time.Span
import BundleRunner.Value
import BundleRunner.Window.Fixed
import BundleRunner.Window.Function
import BundleRunner.Window.Interval
import BundleRunner.Window.Set
import BundleRunner.Window.Sliding
import BundleRunner.Window.Stride
import BundleRunner.Proofs.Emissions
import BundleRunner.Proofs.Sinks
import BundleRunner.Proofs.Summary
import BundleRunner.Proofs.Handovers
import BundleRunner.Proofs.Aggregates
import BundleRunner.Proofs.Sharding
import BundleRunner.Proofs.Compaction
import BundleRunner.Proofs.Views
import BundleRunner.Proofs.Trace
import BundleRunner.Proofs.Stretches
import BundleRunner.Proofs.FixedGrid
import BundleRunner.Proofs.SlidingGrid
import BundleRunner.Proofs.Influence
import BundleRunner.Proofs.Tumbling
import BundleRunner.Proofs.Residence
import BundleRunner.Proofs.SkewBound
import BundleRunner.Proofs.TaggedEmissions
import BundleRunner.Proofs.SharedSignals
import BundleRunner.Proofs.SideInputs
import BundleRunner.Proofs.OutsideEmissions
import BundleRunner.Proofs.Declarations
import BundleRunner.Proofs.ByteOrder
import BundleRunner.Proofs.Snapshots
import BundleRunner.Proofs.CanonicalSets
import BundleRunner.Proofs.BufferRounds
import BundleRunner.Proofs.WordArithmetic
