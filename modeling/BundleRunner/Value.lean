import BundleRunner.Text.Quoted

namespace BundleRunner

/-!
# Values with a type tag

Side outputs, side inputs and aggregators carry values of several types behind one interface, and
check the type when a value is taken out again:

* `ValueType.Carrier` — the values of a type;
* `Value` — a value together with its type;
* `Value.as?` — the value, if it has the type asked for.
-/

/-- The types that values can have. -/
inductive ValueType where
  /-- Natural numbers. -/
  | unsigned
  /-- Integers. -/
  | signed
  /-- Texts. -/
  | text
  /-- A value of a type, or none. -/
  | optional (type : ValueType)
deriving DecidableEq

namespace ValueType

/-- The values of a type. -/
@[reducible] def Carrier : ValueType → Type
  | unsigned => Nat
  | signed => Int
  | text => String
  | optional type => Option type.Carrier

/-- The name by which messages call a type. -/
def name : ValueType → String
  | unsigned => "u64"
  | signed => "i64"
  | text => "alloc::string::String"
  | optional type => "core::option::Option<" ++ type.name ++ ">"

/-- The written form of a value: texts are quoted, and an optional value says whether it is
    there. -/
def render : (type : ValueType) → type.Carrier → String
  | unsigned, (n : Nat) => toString n
  | signed, (n : Int) => toString n
  | text, (s : String) => Text.quote s
  | optional _, none => "None"
  | optional type, some x => "Some(" ++ type.render x ++ ")"

end ValueType

/-- A value together with its type. -/
structure Value where
  type : ValueType
  content : type.Carrier

namespace Value

/-- The value as one of type `type`, if it is one. -/
def as? (v : Value) (type : ValueType) : Option type.Carrier :=
  if h : v.type = type then some (h ▸ v.content) else none

@[simp] theorem as?_type (v : Value) : v.as? v.type = some v.content := by
  simp [as?]

@[simp] theorem as?_mk (type : ValueType) (x : type.Carrier) :
    (Value.mk type x).as? type = some x := by
  simp [as?]

/-- A value has no other type than its own. -/
theorem as?_eq_none_iff {v : Value} {type : ValueType} : v.as? type = none ↔ v.type ≠ type := by
  simp [as?]

end Value

end BundleRunner
