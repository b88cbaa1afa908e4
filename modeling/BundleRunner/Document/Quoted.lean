import BundleRunner.Document.Characters

namespace BundleRunner.Document

/-!
# Texts in a document

A text stands between double quotes, with escapes, or between single quotes, without; three quotes
instead of one let it run over several lines.
-/

/-- Take a Unicode scalar value of `count` hexadecimal digits. -/
def scalar? (count : Nat) (cs : List Char) : Option (Char × List Char) := do
  let (n, rest) ← digits? 16 count cs
  if n.isValidChar then some (Char.ofNat n, rest) else none

/-- Take what follows a backslash. -/
def escape? : List Char → Option (Char × List Char)
  | 'b' :: rest => some (Char.ofNat 8, rest)
  | 't' :: rest => some ('\t', rest)
  | 'n' :: rest => some ('\n', rest)
  | 'f' :: rest => some (Char.ofNat 12, rest)
  | 'r' :: rest => some ('\r', rest)
  | '"' :: rest => some ('"', rest)
  | '\\' :: rest => some ('\\', rest)
  | 'u' :: rest => scalar? 4 rest
  | 'U' :: rest => scalar? 8 rest
  | _ => none

/-- The rest of a text on one line with escapes, up to its closing quote. -/
def basicText (cs : List Char) : Option (List Char × List Char) :=
  match cs with
  | [] => none
  | '"' :: rest => some ([], rest)
  | '\\' :: rest =>
    match escape? rest with
    | some (c, rest') =>
      if _shorter : rest'.length ≤ rest.length then
        (basicText rest').map fun (tail, last) => (c :: tail, last)
      else none
    | none => none
  | c :: rest =>
    if isPlain c then (basicText rest).map fun (tail, last) => (c :: tail, last) else none
termination_by cs.length

/-- The rest of a text on one line without escapes. -/
def literalText : List Char → Option (List Char × List Char)
  | [] => none
  | c :: rest =>
    if c == '\x27' then some ([], rest)
    else if isPlain c then (literalText rest).map fun (tail, last) => (c :: tail, last)
    else none

/-- Whether a backslash is followed by nothing but spaces to the end of its line. -/
def endsLine (cs : List Char) : Bool := (newline? (skipSpaces cs)).isSome

/-- Leave out spaces and newlines. -/
def skipLines : List Char → List Char
  | '\r' :: '\n' :: rest => skipLines rest
  | c :: rest => if c == '\n' || isSpace c then skipLines rest else c :: rest
  | [] => []

/-- The rest of a text over several lines with escapes.  The last two quotes before the closing
    three belong to the text, and a backslash at the end of a line joins it to the next one. -/
def basicLines (cs : List Char) : Option (List Char × List Char) :=
  match cs with
  | [] => none
  | '"' :: '"' :: '"' :: '"' :: '"' :: rest => some (['"', '"'], rest)
  | '"' :: '"' :: '"' :: '"' :: rest => some (['"'], rest)
  | '"' :: '"' :: '"' :: rest => some ([], rest)
  | '\r' :: '\n' :: rest => (basicLines rest).map fun (tail, last) => ('\n' :: tail, last)
  | '\\' :: rest =>
    if endsLine rest then
      if _shorter : (skipLines rest).length ≤ rest.length then basicLines (skipLines rest)
      else none
    else
      match escape? rest with
      | some (c, rest') =>
        if _shorter : rest'.length ≤ rest.length then
          (basicLines rest').map fun (tail, last) => (c :: tail, last)
        else none
      | none => none
  | c :: rest =>
    if isPlain c || c == '\n' then
      (basicLines rest).map fun (tail, last) => (c :: tail, last)
    else none
termination_by cs.length

/-- The rest of a text over several lines without escapes. -/
def literalLines : List Char → Option (List Char × List Char)
  | '\x27' :: '\x27' :: '\x27' :: '\x27' :: '\x27' :: rest => some (['\x27', '\x27'], rest)
  | '\x27' :: '\x27' :: '\x27' :: '\x27' :: rest => some (['\x27'], rest)
  | '\x27' :: '\x27' :: '\x27' :: rest => some ([], rest)
  | '\r' :: '\n' :: rest => (literalLines rest).map fun (tail, last) => ('\n' :: tail, last)
  | c :: rest =>
    if isPlain c || c == '\n' then
      (literalLines rest).map fun (tail, last) => (c :: tail, last)
    else none
  | [] => none

/-- A newline right after the opening quotes is no part of the text. -/
def skipFirstNewline (cs : List Char) : List Char := (newline? cs).getD cs

/-- A text on one line. -/
def shortText? : List Char → Option (String × List Char)
  | '"' :: rest => (basicText rest).map fun (s, last) => (String.ofList s, last)
  | '\x27' :: rest => (literalText rest).map fun (s, last) => (String.ofList s, last)
  | _ => none

/-- A text of any of the four kinds. -/
def text? : List Char → Option (String × List Char)
  | '"' :: '"' :: '"' :: rest =>
    (basicLines (skipFirstNewline rest)).map fun (s, last) => (String.ofList s, last)
  | '\x27' :: '\x27' :: '\x27' :: rest =>
    (literalLines (skipFirstNewline rest)).map fun (s, last) => (String.ofList s, last)
  | cs => shortText? cs

end BundleRunner.Document
