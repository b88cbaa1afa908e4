import BundleRunner.Document.Characters

namespace BundleRunner.Document

/-!
# Dates in a document

A date, a time of day, or both, the latter perhaps with an offset from universal time.  A date is
read for its normal form only: `T` between the parts, `Z` in upper case, and no more than nine
digits of a second, without trailing zeros.
-/

/-- A number with zeros before it up to a width. -/
def padded (width n : Nat) : String :=
  let digits := Nat.toDigits 10 n
  String.ofList (List.replicate (width - digits.length) '0' ++ digits)

/-- The number of days in a month. -/
def daysInMonth (year month : Nat) : Nat :=
  if month = 2 then
    if year % 4 = 0 ∧ (year % 100 ≠ 0 ∨ year % 400 = 0) then 29 else 28
  else if month = 4 ∨ month = 6 ∨ month = 9 ∨ month = 11 then 30
  else 31

/-- Take one of the characters in a list. -/
def oneOf? (choices : List Char) : List Char → Option (List Char)
  | c :: rest => if choices.contains c then some rest else none
  | [] => none

/-- A date of the calendar. -/
def day? (cs : List Char) : Option (String × List Char) := do
  let (year, cs) ← digits? 10 4 cs
  let cs ← oneOf? ['-'] cs
  let (month, cs) ← digits? 10 2 cs
  let cs ← oneOf? ['-'] cs
  let (day, cs) ← digits? 10 2 cs
  if 1 ≤ month ∧ month ≤ 12 ∧ 1 ≤ day ∧ day ≤ daysInMonth year month then
    some (padded 4 year ++ "-" ++ padded 2 month ++ "-" ++ padded 2 day, cs)
  else none

/-- The digits of a fraction of a second in normal form, with the point. -/
def fractionText (digits : List Char) : String :=
  let kept := ((digits.take 9).reverse.dropWhile (· == '0')).reverse
  if kept.isEmpty then "" else "." ++ String.ofList kept

/-- A fraction of a second, if there is one. -/
def fraction? : List Char → Option (String × List Char)
  | '.' :: rest =>
    let digits := rest.takeWhile Char.isDigit
    if digits.isEmpty then none else some (fractionText digits, rest.dropWhile Char.isDigit)
  | cs => some ("", cs)

/-- A time of day. -/
def time? (cs : List Char) : Option (String × List Char) := do
  let (hour, cs) ← digits? 10 2 cs
  let cs ← oneOf? [':'] cs
  let (minute, cs) ← digits? 10 2 cs
  let cs ← oneOf? [':'] cs
  let (second, cs) ← digits? 10 2 cs
  let (fraction, cs) ← fraction? cs
  if hour ≤ 23 ∧ minute ≤ 59 ∧ second ≤ 60 then
    some (padded 2 hour ++ ":" ++ padded 2 minute ++ ":" ++ padded 2 second ++ fraction, cs)
  else none

/-- The hours and minutes of an offset. -/
def offsetSpan? (cs : List Char) : Option ((Nat × Nat) × List Char) := do
  let (hour, cs) ← digits? 10 2 cs
  let cs ← oneOf? [':'] cs
  let (minute, cs) ← digits? 10 2 cs
  if hour ≤ 23 ∧ minute ≤ 59 then some ((hour, minute), cs) else none

/-- An offset from universal time, if there is one. -/
def offset? : List Char → Option (String × List Char)
  | 'Z' :: rest => some ("Z", rest)
  | 'z' :: rest => some ("Z", rest)
  | '+' :: rest => do
    let ((hour, minute), rest) ← offsetSpan? rest
    return ("+" ++ padded 2 hour ++ ":" ++ padded 2 minute, rest)
  | '-' :: rest => do
    let ((hour, minute), rest) ← offsetSpan? rest
    let sign := if hour = 0 ∧ minute = 0 then "+" else "-"
    return (sign ++ padded 2 hour ++ ":" ++ padded 2 minute, rest)
  | cs => some ("", cs)

/-- A date, a time of day, or both. -/
def date? (cs : List Char) : Option (String × List Char) :=
  match day? cs with
  | none => time? cs
  | some (day, rest) =>
    match (oneOf? ['T', 't', ' '] rest).bind time? with
    | none => some (day, rest)
    | some (time, rest) =>
      (offset? rest).map fun (offset, last) => (day ++ "T" ++ time ++ offset, last)

end BundleRunner.Document
