import Sift.Schema.Basic

/-!
# Walking a schema

`Schema.paths` lists every field of a schema under its full path, parents before children.
`Schema.walk` shows them to a visitor in that order and ends as soon as the visitor does not want
any more.
-/

namespace Sift.Schema

mutual

/-- The fields of a level under their paths, each before those below it. -/
def pathsFrom (path : List FieldName) : Schema → List (List FieldName × Field)
  | [] => []
  | (name, field) :: rest =>
    (path ++ [name], field) :: (pathsBelow (path ++ [name]) field ++ pathsFrom path rest)

/-- The fields below a field. -/
def pathsBelow (path : List FieldName) : Field → List (List FieldName × Field)
  | ⟨_, _, _, _, _, _, fields⟩ => pathsFrom path fields

end

/-- All fields of a schema under their paths. -/
def paths (schema : Schema) : List (List FieldName × Field) := schema.pathsFrom []

/-! ## Visitors -/

/-- Sees a field under its path, changes its state, and tells whether to go on. -/
abbrev Visitor (σ : Type) := List FieldName → Field → σ → σ × Bool

mutual

/-- Shows a level to a visitor; the flag tells whether it was shown to the end. There is one path for
the whole walk: a name is pushed to its end before the field is shown, and popped behind what is below
the field, but not where the visitor has had enough. -/
def walkFrom {σ : Type} (visit : Visitor σ) :
    Schema → List FieldName → σ → List FieldName × σ × Bool
  | [], path, state => (path, state, true)
  | (name, field) :: rest, path, state =>
    let path := path ++ [name]
    match visit path field state with
    | (state, false) => (path, state, false)
    | (state, true) =>
      match walkBelow visit field path state with
      | (path, state, false) => (path, state, false)
      | (path, state, true) => walkFrom visit rest path.dropLast state

/-- Shows what is below a field to a visitor. -/
def walkBelow {σ : Type} (visit : Visitor σ) :
    Field → List FieldName → σ → List FieldName × σ × Bool
  | ⟨_, _, _, _, _, _, fields⟩, path, state => walkFrom visit fields path state

end

/-- Shows a whole schema to a visitor. -/
def walk {σ : Type} (schema : Schema) (visit : Visitor σ) (state : σ) : σ × Bool :=
  (schema.walkFrom visit [] state).2

/-- A line for each field: its path and its operators. -/
def text (schema : Schema) : String :=
  String.join <| schema.paths.map fun (path, field) =>
    ".".intercalate (path.map FieldName.text) ++ ": [" ++
      ", ".intercalate (field.operators.map Operator.name) ++ "]\n"

end Sift.Schema
