import BundleRunner.Text.Concealed

namespace BundleRunner.Text

/-!
# Quoted text

A text between double quotes in which every character can be seen: quotes and backslashes are
marked, the common controls have a letter, and other concealed characters are written by number.
-/

/-- How a character is written between quotes. -/
def escape (c : Char) : List Char :=
  if c = '"' then ['\\', '"']
  else if c = '\\' then ['\\', '\\']
  else if c = '\n' then ['\\', 'n']
  else if c = '\r' then ['\\', 'r']
  else if c = '\t' then ['\\', 't']
  else if c = Char.ofNat 0 then ['\\', '0']
  else if isConcealed c then
    ['\\', 'u', Char.ofNat 0x7b] ++ Nat.toDigits 16 c.toNat ++ [Char.ofNat 0x7d]
  else [c]

/-- A text between double quotes, with every concealed character spelt out. -/
def quote (s : String) : String :=
  "\"" ++ String.ofList (s.toList.flatMap escape) ++ "\""

end BundleRunner.Text
