import BundleRunner.Aggregator.Combiner
import BundleRunner.Value

namespace BundleRunner

/-!
# Recipes for combiners

The combiners that a script can name: sums, counts, extremes, and reductions of buffered values.
Not all reductions are associative, so that it shows when a buffer is reduced.
-/

/-- The types of numbers. -/
inductive NumberType where
  | unsigned
  | signed
deriving DecidableEq

/-- A type of numbers as a type of values. -/
def NumberType.toValueType : NumberType → ValueType
  | unsigned => .unsigned
  | signed => .signed

/-- A type of values as a type of numbers, if it is one. -/
def NumberType.ofValueType? : ValueType → Option NumberType
  | .unsigned => some unsigned
  | .signed => some signed
  | _ => none

/-- The type of values that a script names by a word. -/
def ValueType.ofWord? : String → Option ValueType
  | "u64" => some .unsigned
  | "i64" => some .signed
  | "string" => some .text
  | "option_u64" => some (.optional .unsigned)
  | "option_i64" => some (.optional .signed)
  | _ => none

/-- How a list of integers is reduced to one. -/
inductive SignedReduction where
  | sum
  | product
  | greatest
  | count
  | first
  | last
deriving DecidableEq

namespace SignedReduction

/-- The reduction of a list. -/
def apply : SignedReduction → List Int → Int
  | sum, xs => xs.foldl (· + ·) 0
  | product, xs => xs.foldl (· * ·) 1
  | greatest, xs => xs.max?.getD 0
  | count, xs => xs.length
  | first, xs => xs.head?.getD (-1)
  | last, xs => xs.getLast?.getD (-1)

end SignedReduction

/-- The reduction of integers that a script names by a word. -/
def SignedReduction.ofWord? : String → Option SignedReduction
  | "sum" => some sum
  | "product" => some product
  | "max" => some greatest
  | "count" => some count
  | "first" => some first
  | "last" => some last
  | _ => none

/-- How a list of texts is reduced to one. -/
inductive TextReduction where
  | join
  | concat
  | longest
deriving DecidableEq

namespace TextReduction

/-- The later of two texts, unless the earlier is longer in bytes. -/
def longer (s t : String) : String := if t.utf8ByteSize < s.utf8ByteSize then s else t

/-- The reduction of a list. -/
def apply : TextReduction → List String → String
  | join, xs => "(" ++ ",".intercalate xs ++ ")"
  | concat, xs => String.join xs
  | longest, xs => xs.foldl longer ""

end TextReduction

/-- The reduction of texts that a script names by a word. -/
def TextReduction.ofWord? : String → Option TextReduction
  | "join" => some join
  | "concat" => some concat
  | "longest" => some longest
  | _ => none

/-- A combiner that a script can name. -/
inductive Recipe where
  | sum (type : NumberType)
  | count (input : ValueType)
  | greatest (type : NumberType)
  | least (type : NumberType)
  | signed (reduction : SignedReduction)
  | text (reduction : TextReduction)
deriving DecidableEq

namespace Recipe

/-- The recipe of a kind, for a type of inputs; a simple one needs a word for its reduction. -/
def ofWords? (kind : String) (input : ValueType) (reduction : String) : Option Recipe :=
  match kind with
  | "sum" => (NumberType.ofValueType? input).map sum
  | "count" => some (count input)
  | "max" => (NumberType.ofValueType? input).map greatest
  | "min" => (NumberType.ofValueType? input).map least
  | "simple" =>
    match input with
    | .signed => (SignedReduction.ofWord? reduction).map signed
    | .text => (TextReduction.ofWord? reduction).map text
    | _ => none
  | _ => none

/-- The type of the inputs. -/
@[reducible] def input : Recipe → ValueType
  | sum type => type.toValueType
  | count input => input
  | greatest type => type.toValueType
  | least type => type.toValueType
  | signed _ => .signed
  | text _ => .text

/-- The type of the result. -/
@[reducible] def output : Recipe → ValueType
  | sum type => type.toValueType
  | count _ => .unsigned
  | greatest type => .optional type.toValueType
  | least type => .optional type.toValueType
  | signed _ => .signed
  | text _ => .text

/-- The combiner. -/
@[reducible] def combiner : (r : Recipe) → Combiner r.input.Carrier r.output.Carrier
  | sum .unsigned => (Combiner.sum : Combiner Nat Nat)
  | sum .signed => (Combiner.sum : Combiner Int Int)
  | count _ => Combiner.count
  | greatest .unsigned => (Combiner.max : Combiner Nat (Option Nat))
  | greatest .signed => (Combiner.max : Combiner Int (Option Int))
  | least .unsigned => (Combiner.min : Combiner Nat (Option Nat))
  | least .signed => (Combiner.min : Combiner Int (Option Int))
  | signed reduction => Combiner.reducing reduction.apply
  | text reduction => Combiner.reducing reduction.apply

/-- An accumulator as values: the buffer of a reduction, or one value. -/
inductive Contents where
  | one (value : Value)
  | many (values : List Value)

/-- The contents of an accumulator. -/
def contents : (r : Recipe) → r.combiner.Acc → Contents
  | sum .unsigned, (n : Nat) => .one ⟨.unsigned, n⟩
  | sum .signed, (n : Int) => .one ⟨.signed, n⟩
  | count _, (n : Nat) => .one ⟨.unsigned, n⟩
  | greatest .unsigned, (n : Option Nat) => .one ⟨.optional .unsigned, n⟩
  | greatest .signed, (n : Option Int) => .one ⟨.optional .signed, n⟩
  | least .unsigned, (n : Option Nat) => .one ⟨.optional .unsigned, n⟩
  | least .signed, (n : Option Int) => .one ⟨.optional .signed, n⟩
  | signed _, (ns : List Int) => .many (ns.map fun n => ⟨.signed, n⟩)
  | text _, (ss : List String) => .many (ss.map fun s => ⟨.text, s⟩)

/-- What an accumulator holds and what it results in. -/
structure Inspection where
  contents : Contents
  output : Value

/-- Look at an accumulator. -/
def inspect (r : Recipe) (acc : r.combiner.Acc) : Inspection :=
  ⟨r.contents acc, ⟨r.output, r.combiner.output acc⟩⟩

/-- Fold each of several lists of inputs, and look at the accumulators. -/
def inspectShards (r : Recipe) (shards : List (List r.input.Carrier)) : List Inspection :=
  shards.map fun shard => r.inspect (r.combiner.fold shard)

/-- Fold each of several lists of inputs, and look at the merged accumulator. -/
def inspectMerged (r : Recipe) (shards : List (List r.input.Carrier)) : Inspection :=
  r.inspect (r.combiner.merge (shards.map r.combiner.fold))

end Recipe

end BundleRunner
