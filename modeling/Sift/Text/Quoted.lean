import Sift.Unicode.Property

/-!
# Quoted texts

Messages and outlines show a text between quotes, with everything that would not print as itself
escaped: the quote and the backslash by a backslash, four common controls by a letter, and other
unprintable or grapheme-extending characters by their code point in hexadecimal.
-/

namespace Sift.Text

/-- A code point in lower-case hexadecimal, as an escape. -/
def pointEscape (c : Char) : List Char :=
  "\\u\x7b".toList ++ Nat.toDigits 16 c.toNat ++ ['\x7d']

/-- How a character is written between a given kind of quotes. -/
def escape (quote c : Char) : List Char :=
  if c = quote ∨ c = '\\' then ['\\', c]
  else if c = '\n' then ['\\', 'n']
  else if c = '\r' then ['\\', 'r']
  else if c = '\t' then ['\\', 't']
  else if c.toNat = 0 then ['\\', '0']
  else if Unicode.isPrintable c && !Unicode.isGraphemeExtend c then [c]
  else pointEscape c

/-- A text between double quotes. -/
def quoted (s : String) : String :=
  String.ofList ('"' :: s.toList.flatMap (escape '"') ++ ['"'])

/-- A character between single quotes. -/
def quotedChar (c : Char) : String :=
  String.ofList ('\'' :: escape '\'' c ++ ['\''])

end Sift.Text
