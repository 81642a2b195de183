import Sift.Datum.Basic

/-!
# Diagnostic text of data

The diagnostic text names the kind of every part of a datum and quotes its texts, so that data
which are not the same are seen to differ.
-/

namespace Sift

/-- The diagnostic text of a member up to its value. -/
def Member.diagnostic (m : Member) : String :=
  let tags := m.tags.map fun (tag, directive) =>
    "(" ++ Text.quoted tag ++ ", " ++ Text.quoted directive ++ ")"
  "name: " ++ Text.quoted m.name ++ ", visibility: " ++
    (if m.isPrivate then "Private" else "Public") ++ ", tags: [" ++ ", ".intercalate tags ++ "]"

namespace Datum

mutual

/-- The diagnostic text of a datum. -/
def diagnostic : Datum → String
  | null => "Null"
  | bool b => if b then "Bool(true)" else "Bool(false)"
  | int n => s!"Int({n.toInt})"
  | uint n => s!"Uint({n.toNat})"
  | float32 x => "Float32(" ++ x.render .diagnostic ++ ")"
  | float64 x => "Float64(" ++ x.render .diagnostic ++ ")"
  | string s => "String(" ++ Text.quoted s ++ ")"
  | list items => "List([" ++ ", ".intercalate (diagnosticItems items) ++ "])"
  | map entries => "Map(\x7b" ++ ", ".intercalate (diagnosticEntries entries) ++ "\x7d)"
  | pairs entries => "Pairs([" ++ ", ".intercalate (diagnosticPairs entries) ++ "])"
  | record typeName fields =>
    "Record \x7b type_name: " ++ Text.quoted typeName ++ ", fields: [" ++
      ", ".intercalate (diagnosticFields fields) ++ "] \x7d"
  | judge j => s!"Custom({j.id})"

def diagnosticItems : List Datum → List String
  | [] => []
  | item :: rest => diagnostic item :: diagnosticItems rest

def diagnosticEntries : List (String × Datum) → List String
  | [] => []
  | (key, value) :: rest =>
    (Text.quoted key ++ ": " ++ diagnostic value) :: diagnosticEntries rest

def diagnosticPairs : List (Datum × Datum) → List String
  | [] => []
  | (key, value) :: rest =>
    ("(" ++ diagnostic key ++ ", " ++ diagnostic value ++ ")") :: diagnosticPairs rest

def diagnosticFields : List (Member × Datum) → List String
  | [] => []
  | (member, value) :: rest =>
    ("RecordField \x7b " ++ member.diagnostic ++ ", value: " ++ diagnostic value ++ " \x7d") ::
      diagnosticFields rest

end

end Datum

end Sift
