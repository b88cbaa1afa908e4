import BundleRunner.Window.Set

namespace BundleRunner

/-!
# Window functions

A window function assigns windows to a record.  It may ask its context for the element, the
timestamp and the windows of the record that is being placed, in any order and as often as it
likes, and may ignore a refusal.  A `WindowRule` spells these questions out, so that what a rule
reads is part of what it is:

* `AssignContext` — what there is to read, inside and outside element processing;
* `WindowRule.run` — the answer of a rule in a context;
* `WindowFn` — a rule with a name.
-/

variable {α : Type}

/-- What a window function can see of the record that it places. -/
inductive AssignContext (α : Type) where
  /-- A record that stems from an element: everything can be seen. -/
  | element (value : α) (timestamp : Instant) (windows : WindowSet)
  /-- A record emitted outside element processing: at most a timestamp is given. -/
  | bundle (timestamp : Option Instant)

namespace AssignContext

/-- The refusal of data that does not exist outside element processing. -/
def refusal (accessor : String) : Fault :=
  .contextMisuse accessor "outside element processing"

/-- The element that the record stems from. -/
def element? : AssignContext α → Except Fault α
  | element value _ _ => .ok value
  | bundle _ => .error (refusal "element")

/-- The timestamp of the record. -/
def timestamp? : AssignContext α → Except Fault Instant
  | element _ timestamp _ => .ok timestamp
  | bundle (some timestamp) => .ok timestamp
  | bundle none => .error (refusal "timestamp")

/-- The windows that the element lies in. -/
def windows? : AssignContext α → Except Fault WindowSet
  | element _ _ windows => .ok windows
  | bundle _ => .error (refusal "windows")

end AssignContext

/-- How a window function comes to its answer: by reading the context step by step. -/
inductive WindowRule (α : Type) where
  /-- The answer. -/
  | answer (result : Except Fault WindowSet)
  /-- Read the element, then go on with what came back. -/
  | readElement (next : Except Fault α → WindowRule α)
  /-- Read the timestamp, then go on with what came back. -/
  | readTimestamp (next : Except Fault Instant → WindowRule α)
  /-- Read the windows, then go on with what came back. -/
  | readWindows (next : Except Fault WindowSet → WindowRule α)

namespace WindowRule

/-- The answer of a rule in a context. -/
def run (context : AssignContext α) : WindowRule α → Except Fault WindowSet
  | answer result => result
  | readElement next => (next context.element?).run context
  | readTimestamp next => (next context.timestamp?).run context
  | readWindows next => (next context.windows?).run context

@[simp] theorem run_answer (context : AssignContext α) (result : Except Fault WindowSet) :
    (answer result : WindowRule α).run context = result := rfl

@[simp] theorem run_readElement (context : AssignContext α)
    (next : Except Fault α → WindowRule α) :
    (readElement next).run context = (next context.element?).run context := rfl

@[simp] theorem run_readTimestamp (context : AssignContext α)
    (next : Except Fault Instant → WindowRule α) :
    (readTimestamp next).run context = (next context.timestamp?).run context := rfl

@[simp] theorem run_readWindows (context : AssignContext α)
    (next : Except Fault WindowSet → WindowRule α) :
    (readWindows next).run context = (next context.windows?).run context := rfl

/-- The rule that places a record by its timestamp alone, and refuses one without. -/
def byTimestamp (place : Instant → Except Fault WindowSet) : WindowRule α :=
  .readTimestamp fun
    | .ok timestamp => .answer (place timestamp)
    | .error fault => .answer (.error fault)

end WindowRule

/-- A window function: a rule and the name it goes by. -/
structure WindowFn (α : Type) where
  name : String
  rule : WindowRule α

namespace WindowFn

/-- The windows that the function assigns in a context. -/
def assign (f : WindowFn α) (context : AssignContext α) : Except Fault WindowSet :=
  f.rule.run context

/-- The function that puts every record into the one window over the whole of time. -/
def global : WindowFn α := ⟨"global-windows", .answer (.ok .global)⟩

/-- A function without a name of its own. -/
def unnamed (rule : WindowRule α) : WindowFn α := ⟨"window-fn", rule⟩

end WindowFn

end BundleRunner
