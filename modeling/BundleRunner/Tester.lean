import BundleRunner.Bundle

namespace BundleRunner

/-!
# Testers

A `Tester` tries a callback out: every output collects its records, and whole bundles are run at
once.

* `Tester.build` — a tester from a `TesterSetup`;
* `Tester.runBundle` — start, process every record, finish; the first call that is not done ends the
  bundle.
-/

variable {α β σ : Type}

/-- A side input with a value in any window. -/
structure SideInputValue where
  view : String
  value : Value

/-- What a tester is built from. -/
structure TesterSetup (α : Type) where
  sideOutputs : List (String × ValueType)
  sideInputs : List SideInputValue
  keyed : Bool
  windowFn : WindowFn α
  provider : Provider
  options : Options
  interrupt : Interrupt
  settings : Settings

/-- A callback under test. -/
structure Tester (α β σ : Type) : Type 1 where
  runner : Runner α β σ

/-- What an attempt to build a tester leaves behind, whether it succeeds or not. -/
structure TesterBuilding (α β σ : Type) : Type 1 where
  state : σ
  log : List Log.Entry
  outcome : Outcome (Tester α β σ)

namespace TesterSetup

/-- The setup in which nothing is declared. -/
def plain : TesterSetup α where
  sideOutputs := []
  sideInputs := []
  keyed := false
  windowFn := .global
  provider := .minimal
  options := .empty
  interrupt := .clear
  settings := .default

/-- The declarations of a tester: collecting sinks, and the given values as side inputs. -/
def declarations (t : TesterSetup α) : Declarations α β where
  main := .collecting
  sideOutputs := t.sideOutputs.map fun output => ⟨output.1, output.2, .collecting⟩
  views := t.sideInputs.map SideInputValue.view
  reader :=
    (t.sideInputs.foldl (fun reader i => reader.withValue i.view i.value)
      StaticReader.empty).toReader
  keyed := t.keyed
  windowFn := t.windowFn
  provider := t.provider
  options := t.options
  interrupt := t.interrupt

end TesterSetup

namespace Tester

/-- Build a tester: what the setup declares is bound, and the callback is set up. -/
def build (callback : Callback α β σ) (state : σ) (t : TesterSetup α) : TesterBuilding α β σ :=
  match t.declarations.bind with
  | .error fault => ⟨state, [], .failed fault⟩
  | .ok binding =>
    let built := Runner.build callback state binding t.settings
    ⟨built.state, built.run.log, built.outcome.map Tester.mk⟩

/-- Process records within a bundle, until one is not done. -/
def processAll (b : Bundle) (r : Runner α β σ) : List (Record α) → Turn α β σ Unit
  | [] => ⟨r, b, .done ()⟩
  | record :: records =>
    let t := b.process r record
    match t.outcome with
    | .done () => processAll t.bundle t.runner records
    | _ => t

/-- Run a whole bundle over records. -/
def runBundle (t : Tester α β σ) (records : List (Record α)) : Tester α β σ × Outcome Summary :=
  let opened := t.runner.openBundle
  let started := opened.2.start opened.1
  match started.outcome with
  | .failed fault => (⟨started.runner⟩, .failed fault)
  | .panicked message => (⟨started.runner⟩, .panicked message)
  | .done () =>
    let processed := processAll started.bundle started.runner records
    match processed.outcome with
    | .failed fault => (⟨processed.runner⟩, .failed fault)
    | .panicked message => (⟨processed.runner⟩, .panicked message)
    | .done () =>
      let finished := processed.bundle.finish processed.runner
      (⟨finished.runner⟩, finished.outcome)

/-- The records of the main output. -/
def main (t : Tester α β σ) : List (Record β) := t.runner.run.router.main.accepted

/-- The records of the side output with a tag, if it takes values of the type; else none. -/
def side (t : Tester α β σ) (tag : String) (type : ValueType) : List (Record Value) :=
  match t.runner.run.router.side? tag with
  | some output => if output.type = type then output.channel.accepted else []
  | none => []

end Tester

end BundleRunner
