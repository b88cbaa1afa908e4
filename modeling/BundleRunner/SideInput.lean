import BundleRunner.Value
import BundleRunner.Window.Set

namespace BundleRunner

/-!
# Side inputs

Besides its elements a transform may read values from declared views, one value for each view and
window.  A `Reader` finds them; its answer may depend on what was read before:

* `SideInputs.ensureDeclared`, `SideInputs.typed` — the checks before and after a read: that the
  view is declared, and that its value has the type asked for;
* `StaticReader` — values registered in advance.
-/

/-- One read that reached the reader: the view and the window it was made for. -/
structure ViewRead where
  view : String
  window : Window
deriving DecidableEq

/-- The source of side inputs: its answer to a read, given all reads before. -/
structure Reader where
  answer : List ViewRead → ViewRead → Except Fault Value

namespace Reader

/-- The reader that knows no view. -/
def none : Reader := ⟨fun _ read => .error (.notASideInput read.view)⟩

/-- The reader that fails at every read. -/
def failing (message : String) : Reader :=
  ⟨fun _ _ => .error (.collaborator "side input reader" message)⟩

end Reader

/-- The declared views of a transform and the reader behind them. -/
structure SideInputs where
  declared : List String
  reader : Reader

namespace SideInputs

/-- Fails for a view that is not declared. -/
def ensureDeclared (s : SideInputs) (view : String) : Except Fault Unit :=
  if s.declared.contains view then .ok () else .error (.notASideInput view)

/-- The outcome of a read as a value of the type that the view has. -/
def typed (view : String) (type : ValueType) : Except Fault Value → Except Fault type.Carrier
  | .error fault => .error fault
  | .ok value =>
    match value.as? type with
    | some x => .ok x
    | .none => .error (.sideInputTypeMismatch view type.name)

end SideInputs

/-! ### Values registered in advance -/

/-- Values of views, some of them for one window only.  Of two registrations the later counts. -/
structure StaticReader where
  perWindow : List (ViewRead × Value)
  anyWindow : List (String × Value)

namespace StaticReader

/-- No value at all. -/
def empty : StaticReader := ⟨[], []⟩

/-- Register a value for a view in any window. -/
def withValue (s : StaticReader) (view : String) (value : Value) : StaticReader :=
  { s with anyWindow := (view, value) :: s.anyWindow }

/-- Register a value for a view in one window. -/
def withWindowValue (s : StaticReader) (view : String) (window : Window) (value : Value) :
    StaticReader :=
  { s with perWindow := (⟨view, window⟩, value) :: s.perWindow }

/-- The value for a read: the one registered for its window, else the one for any window. -/
def find? (s : StaticReader) (read : ViewRead) : Option Value :=
  match s.perWindow.find? (·.1 == read) with
  | some entry => some entry.2
  | none => (s.anyWindow.find? (·.1 == read.view)).map (·.2)

/-- The fault of a read without a value. -/
def missing (read : ViewRead) : Fault :=
  .collaborator "side input reader"
    ("no value for `" ++ read.view ++ "` in window " ++ read.window.text)

/-- The reader that answers with the registered values. -/
def toReader (s : StaticReader) : Reader where
  answer _ read :=
    match s.find? read with
    | some value => .ok value
    | none => .error (missing read)

end StaticReader

end BundleRunner
