import BundleRunner.Document.Date
import BundleRunner.Document.Number
import BundleRunner.Document.Quoted

namespace BundleRunner.Document

/-!
# Documents of settings

Settings are written as a TOML document: assignments to dotted keys, line by line, and headers that
open a section.  Settings hold texts, integers, dates and tables of them; a document with any other
kind of value holds no settings, and is refused where the value stands.

* `statements?` — the statements of a document, or nothing when it is malformed.
-/

/-- A value without parts. -/
inductive Scalar where
  | text (s : String)
  | integer (n : Int)
  | date (s : String)
deriving DecidableEq

/-- A value: a scalar, or a table written on one line. -/
inductive Datum where
  | scalar (value : Scalar)
  | table (entries : List (List String × Scalar))
deriving DecidableEq

/-- A line of a document. -/
inductive Statement where
  /-- An assignment to a dotted key. -/
  | assign (path : List String) (value : Datum)
  /-- The header of a section. -/
  | section (path : List String)
deriving DecidableEq

/-- A part of a dotted key. -/
def keyPart? (cs : List Char) : Option (String × List Char) :=
  match shortText? cs with
  | some found => some found
  | none =>
    let bare := cs.takeWhile isBare
    if bare.isEmpty then none else some (String.ofList bare, cs.dropWhile isBare)

/-- A dotted key, with spaces around its parts. -/
def key? (cs : List Char) : Option (List String × List Char) :=
  match keyPart? (skipSpaces cs) with
  | none => none
  | some (part, rest) =>
    match skipSpaces rest with
    | '.' :: rest' =>
      if _shorter : rest'.length < cs.length then
        (key? rest').map fun (parts, last) => (part :: parts, last)
      else none
    | rest' => some ([part], rest')
termination_by cs.length

/-- A scalar: a text, else a date, else an integer. -/
def scalarValue? (cs : List Char) : Option (Scalar × List Char) :=
  match text? cs with
  | some (s, rest) => some (.text s, rest)
  | none =>
    match date? cs with
    | some (s, rest) => some (.date s, rest)
    | none => (integer? cs).map fun (n, rest) => (.integer n, rest)

/-- A key, an equals sign, and what follows it. -/
def assigned? (cs : List Char) : Option (List String × List Char) :=
  match key? cs with
  | some (path, '=' :: rest) => some (path, skipSpaces rest)
  | _ => none

/-- The entries of a table from the first one on, up to the closing brace. -/
def tableEntries (cs : List Char) : Option (List (List String × Scalar) × List Char) := do
  let (path, rest) ← assigned? cs
  let (value, rest) ← scalarValue? rest
  match skipSpaces rest with
  | ',' :: rest' =>
    if _shorter : rest'.length < cs.length then
      let (entries, last) ← tableEntries rest'
      return ((path, value) :: entries, last)
    else none
  | c :: rest' => if c == '\x7d' then return ([(path, value)], rest') else none
  | [] => none
termination_by cs.length

/-- A value: a table if it begins with a brace, else a scalar. -/
def datum? (cs : List Char) : Option (Datum × List Char) :=
  match cs with
  | [] => none
  | c :: rest =>
    if c == '\x7b' then
      match skipSpaces rest with
      | d :: last =>
        if d == '\x7d' then some (.table [], last)
        else (tableEntries (d :: last)).map fun (entries, last) => (.table entries, last)
      | [] => none
    else (scalarValue? cs).map fun (value, last) => (.scalar value, last)

/-- One statement, with the end of its line. -/
def statement? : List Char → Option (Statement × List Char)
  | '[' :: rest =>
    match key? rest with
    | some (path, ']' :: rest) => (lineEnd? rest).map fun last => (.section path, last)
    | _ => none
  | cs => do
    let (path, rest) ← assigned? cs
    let (value, rest) ← datum? rest
    return (.assign path value, ← lineEnd? rest)

/-- The statements of the rest of a document, with empty lines and comments between them. -/
def lines? (cs : List Char) : Option (List Statement) :=
  match skipSpaces cs with
  | [] => some []
  | c :: rest =>
    if c == '#' || c == '\n' || c == '\r' then
      match lineEnd? (c :: rest) with
      | some last => if _shorter : last.length < cs.length then lines? last else none
      | none => none
    else
      match statement? (c :: rest) with
      | some (s, last) =>
        if _shorter : last.length < cs.length then (lines? last).map (s :: ·) else none
      | none => none
termination_by cs.length

/-- The statements of a document, after its byte order mark if it has one. -/
def statements? (source : String) : Option (List Statement) :=
  match source.toList with
  | c :: rest => if c.toNat = 0xfeff then lines? rest else lines? (c :: rest)
  | [] => some []

end BundleRunner.Document
