import Sift.Datum.Basic
import Sift.Json.Basic

/-!
# Data and documents

A document becomes a datum of the same shape, its objects becoming maps. The way back also has to
write what no document holds: a record shows its public fields under their own names, a key of
any kind becomes the text of its own document, and numbers that are not finite and judges become
`null`.
-/

namespace Sift

namespace Datum

mutual

/-- The datum of the same shape as a document. -/
def ofJson : Json → Datum
  | .null => .null
  | .bool b => .bool b
  | .int n => .int n
  | .uint n => .uint n
  | .float x => .float64 x
  | .string s => .string s
  | .array items => .list (ofItems items)
  | .object members => .map (ofMembers members)

def ofItems : List Json → List Datum
  | [] => []
  | item :: rest => ofJson item :: ofItems rest

def ofMembers : List (String × Json) → List (String × Datum)
  | [] => []
  | (key, value) :: rest => (key, ofJson value) :: ofMembers rest

end

/-- A number as a document, if it is finite. -/
def numberJson (x : Binary64) : Json := if x.isFinite then .float x else .null

mutual

/-- The document that shows a datum. -/
def toJson : Datum → Json
  | null | judge _ => .null
  | bool b => .bool b
  | int n => .int n
  | uint n => .uint n
  | float32 x => numberJson x.convert
  | float64 x => numberJson x
  | string s => .string s
  | list items => .array (toItems items)
  | map entries => .object (sortEntries (toMembers entries))
  | pairs entries => .object (sortEntries (toPairMembers entries))
  | record _ fields => .object (sortEntries (toFieldMembers fields))

def toItems : List Datum → List Json
  | [] => []
  | item :: rest => toJson item :: toItems rest

def toMembers : List (String × Datum) → List (String × Json)
  | [] => []
  | (key, value) :: rest => (key, toJson value) :: toMembers rest

def toPairMembers : List (Datum × Datum) → List (String × Json)
  | [] => []
  | (key, value) :: rest => ((toJson key).compact, toJson value) :: toPairMembers rest

def toFieldMembers : List (Member × Datum) → List (String × Json)
  | [] => []
  | (member, value) :: rest =>
    if member.isPrivate then toFieldMembers rest
    else (member.name, toJson value) :: toFieldMembers rest

end

end Datum

end Sift
