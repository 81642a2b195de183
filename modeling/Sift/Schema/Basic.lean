import Sift.Entries
import Sift.Literal.Basic
import Sift.Operator

/-!
# Schemas

A schema tells which paths exist and what may be done with the data at their ends. One level of it
is a list of entries in the order of their names, the wildcard last, and each field holds the
schema of the next level. A path is followed by exact name first and by the wildcard otherwise.
-/

namespace Sift

/-- The name of an entry. -/
inductive FieldName where
  | named (name : String)
  /-- Any segment that has no entry of its own. -/
  | wildcard
deriving DecidableEq, Repr

namespace FieldName

/-- Names are in the order of their characters, and the wildcard comes last. -/
instance : Ord FieldName where
  compare
    | named a, named b => compare a b
    | named _, wildcard => .lt
    | wildcard, named _ => .gt
    | wildcard, wildcard => .eq

/-- How a name is shown. -/
def text : FieldName → String
  | named name => name
  | wildcard => "*"

end FieldName

/-- The sorts of collections. -/
inductive Collection where
  | map
  | list
deriving DecidableEq, Repr

/-- What is known of the data at the end of a path. -/
structure Field where
  /-- The name that a record declares the field under. -/
  declaredName : Option String := none
  /-- What literals are read as. No type but those of this library can be named: a field has no
  conversion of its own. -/
  literalType : Option LiteralType := none
  /-- The operators that may be used, in their usual order. -/
  operators : List Operator := []
  /-- Whether and how the data can be quantified over. -/
  collection : Option Collection := none
  /-- What is known of positions or keys. -/
  index : Option Field := none
  /-- What is known of elements or values. -/
  value : Option Field := none
  /-- The next level. -/
  fields : List (FieldName × Field) := []

/-- One level of a schema. -/
abbrev Schema := List (FieldName × Field)

namespace Schema

/-- The entry under exactly this name. -/
def get? (schema : Schema) (name : FieldName) : Option Field := schema.lookup name

/-- The field that a segment of a path leads to. -/
def field? (schema : Schema) (segment : String) : Option Field :=
  (schema.get? (.named segment)).or (schema.get? .wildcard)

end Schema

namespace Field

/-- Whether an operator may be used. -/
def supports (field : Field) (operator : Operator) : Bool := field.operators.contains operator

/-- A field with a set of operators, whatever their order and number. -/
def ofOperators (operators : List Operator) : Field :=
  { operators := Operator.all.filter operators.contains }

end Field

end Sift
