import Sift.Number.Decimal
import Sift.Entries

/-!
# JSON documents

A document keeps whole numbers and floating-point numbers apart: a number written without point
and exponent that fits 64 bits stays whole. Objects hold their members in the order of the keys.
-/

namespace Sift

/-- A JSON document. -/
inductive Json where
  | null
  | bool (b : Bool)
  /-- A whole number that fits 64 bits with a sign. -/
  | int (n : Int64)
  /-- A whole number beyond those that fits 64 bits without a sign. -/
  | uint (n : UInt64)
  | float (x : Binary64)
  | string (s : String)
  | array (items : List Json)
  | object (members : List (String × Json))
deriving Inhabited

namespace Json

/-! ## Writing -/

/-- How a character is written between quotes. -/
def escape (c : Char) : List Char :=
  if c = '"' ∨ c = '\\' then ['\\', c]
  else if c.toNat = 8 then ['\\', 'b']
  else if c = '\t' then ['\\', 't']
  else if c = '\n' then ['\\', 'n']
  else if c.toNat = 12 then ['\\', 'f']
  else if c = '\r' then ['\\', 'r']
  else if c.toNat < 32 then
    ['\\', 'u', '0', '0', Nat.digitChar (c.toNat / 16), Nat.digitChar (c.toNat % 16)]
  else [c]

/-- A text between quotes. -/
def quote (s : String) : String :=
  String.ofList ('"' :: s.toList.flatMap escape ++ ['"'])

mutual

/-- The text of a document without any blanks. -/
def compact : Json → String
  | null => "null"
  | bool b => if b then "true" else "false"
  | int n => toString n.toInt
  | uint n => toString n.toNat
  | float x => if x.isFinite then x.render .document else "null"
  | string s => quote s
  | array items => "[" ++ ",".intercalate (compactItems items) ++ "]"
  | object members => "\x7b" ++ ",".intercalate (compactMembers members) ++ "\x7d"

def compactItems : List Json → List String
  | [] => []
  | item :: rest => compact item :: compactItems rest

def compactMembers : List (String × Json) → List String
  | [] => []
  | (key, value) :: rest => (quote key ++ ":" ++ compact value) :: compactMembers rest

end

/-- Lines between brackets, the inner ones indented one level further than the closing one. -/
def block (opening closing indent : String) (lines : List String) : String :=
  if lines.isEmpty then opening ++ closing
  else
    let inner := lines.map fun line => indent ++ "  " ++ line
    opening ++ "\n" ++ ",\n".intercalate inner ++ "\n" ++ indent ++ closing

mutual

/-- The text of a document with a line for each item and member, indented by two spaces a
level; what is empty stays on one line. -/
def pretty (indent : String) : Json → String
  | array items => block "[" "]" indent (prettyItems (indent ++ "  ") items)
  | object members => block "\x7b" "\x7d" indent (prettyMembers (indent ++ "  ") members)
  | scalar => compact scalar

def prettyItems (indent : String) : List Json → List String
  | [] => []
  | item :: rest => pretty indent item :: prettyItems indent rest

def prettyMembers (indent : String) : List (String × Json) → List String
  | [] => []
  | (key, value) :: rest =>
    (quote key ++ ": " ++ pretty indent value) :: prettyMembers indent rest

end

end Json

end Sift
