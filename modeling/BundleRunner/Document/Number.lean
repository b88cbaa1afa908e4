import BundleRunner.Document.Characters

namespace BundleRunner.Document

/-!
# Integers in a document

An integer is written in base ten, with an optional sign and without leading zeros, or after `0x`,
`0o` or `0b` in another base.  A single underscore may stand between two digits.  Only integers in
the signed 64-bit range are read.
-/

/-- More digits, perhaps each after one underscore, as the continuation of a number. -/
def moreDigits (base : Nat) (value : Nat) : List Char → Option (Nat × List Char)
  | [] => some (value, [])
  | '_' :: c :: rest =>
    match digitValue? base c with
    | some d => moreDigits base (value * base + d) rest
    | none => none
  | c :: rest =>
    if c == '_' then none
    else
      match digitValue? base c with
      | some d => moreDigits base (value * base + d) rest
      | none => some (value, c :: rest)

/-- A number of at least one digit. -/
def number? (base : Nat) : List Char → Option (Nat × List Char)
  | c :: rest => do moreDigits base (← digitValue? base c) rest
  | [] => none

/-- A number in base ten, in which a zero stands alone. -/
def decimal? : List Char → Option (Nat × List Char)
  | '0' :: rest => some (0, rest)
  | cs => number? 10 cs

/-- A number that fits into the signed 64-bit range, once it has its sign. -/
def inRange (n : Int) (rest : List Char) : Option (Int × List Char) :=
  if -9223372036854775808 ≤ n ∧ n ≤ 9223372036854775807 then some (n, rest) else none

/-- An integer. -/
def integer? : List Char → Option (Int × List Char)
  | '0' :: 'x' :: rest => do let (n, last) ← number? 16 rest; inRange n last
  | '0' :: 'o' :: rest => do let (n, last) ← number? 8 rest; inRange n last
  | '0' :: 'b' :: rest => do let (n, last) ← number? 2 rest; inRange n last
  | '+' :: rest => do let (n, last) ← decimal? rest; inRange n last
  | '-' :: rest => do let (n, last) ← decimal? rest; inRange (-(n : Int)) last
  | cs => do let (n, last) ← decimal? cs; inRange n last

end BundleRunner.Document
