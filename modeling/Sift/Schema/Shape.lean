import Sift.Datum.Basic
import Sift.Schema.Basic

/-!
# Shapes of host types

A shape states what values of a host type look like, without any value at hand. Schemas are
derived from shapes: scalars take comparisons, texts take searches as well, collections take
membership or emptiness, and records pass on the fields they expose. What a path cannot look into
is left out.
-/

namespace Sift

/-- The shape of a host type. -/
inductive Shape where
  | bool
  | int (width : Width)
  | uint (width : Width)
  | float32
  | float64
  | string
  | list (element : Shape)
  | map (key value : Shape)
  | optional (inner : Shape)
  | record (name : String) (fields : List (Member × Shape))
  /-- A judge, which brings a schema of its own. -/
  | judge (name : String) (schema : Schema)
  /-- Data of any shape. -/
  | any
  /-- Data that no path looks into. -/
  | sealed (name : String)
deriving Inhabited

namespace Shape

/-- The shape inside any number of optional ones. -/
def required : Shape → Shape
  | optional inner => inner.required
  | shape => shape

/-- The type of literals of a scalar shape, optional or not. -/
def literalType? (shape : Shape) : Option LiteralType :=
  match shape.required with
  | bool => some .bool
  | int width => some (.int width)
  | uint width => some (.uint width)
  | float32 => some .float32
  | float64 => some .float64
  | string => some .string
  | _ => none

/-- Whether the shape is that of a scalar, optional or not. -/
def isScalar (shape : Shape) : Bool := shape.literalType?.isSome

/-- Whether the shape is that of a text, optional or not. -/
def isText (shape : Shape) : Bool := shape.literalType? == some .string

/-- The name of the type. -/
def typeName : Shape → String
  | bool => "bool"
  | int width => "i" ++ toString width.bits
  | uint width => "u" ++ toString width.bits
  | float32 => "f32"
  | float64 => "f64"
  | string => "String"
  | list element => "Vec<" ++ element.typeName ++ ">"
  | map key value => "Map<" ++ key.typeName ++ ", " ++ value.typeName ++ ">"
  | optional inner => "Option<" ++ inner.typeName ++ ">"
  | record name _ => name
  | judge name _ => name
  | any => "Value"
  | sealed name => name

end Shape

/-! ## Operators by shape -/

namespace LiteralType

/-- The operators that compare two literals of an ordered type. -/
def comparisons : List Operator :=
  [.equal, .notEqual, .less, .lessEqual, .greater, .greaterEqual]

/-- The operators that a scalar takes. -/
def operators : LiteralType → List Operator
  | bool => [.equal, .notEqual]
  | string =>
    [.equal, .notEqual, .isIn, .notIn, .isMatch, .notMatch,
     .less, .lessEqual, .greater, .greaterEqual]
  | _ => comparisons

end LiteralType

namespace Field

/-- The operators of a collection whose elements are known to be scalars. -/
def membership : List Operator := [.isIn, .notIn, .isEmpty, .isNotEmpty]

/-- The operators of any other collection. -/
def emptiness : List Operator := [.isEmpty, .isNotEmpty]

/-- The field of a scalar. -/
def scalar (type : LiteralType) : Field :=
  { literalType := some type, operators := type.operators }

/-- The field of a list. Scalar elements can be looked for; other elements pass on what lies
below them. -/
def ofElement (element : Option Field) (scalarElement : Bool) : Field :=
  let index := some (scalar (.int .w64))
  if scalarElement then
    { literalType := element.bind Field.literalType, operators := membership
      collection := some .list, index, value := element }
  else
    { operators := emptiness, collection := some .list, index, value := element
      fields := (element.map Field.fields).getD [] }

/-- The field of a map under texts, all of whose values are alike. -/
def ofValue (value : Option Field) : Field :=
  { literalType := some .string, operators := membership, collection := some .map
    index := some (scalar .string), value
    fields := (value.map fun field => [(FieldName.wildcard, field)]).getD [] }

end Field

/-! ## Schemas of shapes -/

/-- Why a type has no schema. -/
inductive SchemaError where
  /-- Only records, maps under texts and judges can be at the top. -/
  | invalidTopLevel (typeName : String)
  /-- The keys of a map at the top are not texts. -/
  | nonTextKey (typeName : String)
deriving DecidableEq, Repr

/-- The wording of the error. -/
def SchemaError.message : SchemaError → String
  | invalidTopLevel typeName =>
    "Invalid top level type " ++ typeName ++
      " - can only use records, maps keyed by strings or custom matchers"
  | nonTextKey typeName =>
    "Cannot generate FieldConfigurations for maps with keys that are not strings (" ++
      typeName ++ ")"

namespace Schema

/-- Puts a field under several names, each replacing what was there. -/
def insertAll (field : Field) (names : List String) (schema : Schema) : Schema :=
  names.foldl (fun schema name => insertEntry (.named name) field schema) schema

mutual

/-- The field of a shape, unless no path looks into it. -/
def deriveField (tag : String) : Shape → Except SchemaError (Option Field)
  | .bool => return some (.scalar .bool)
  | .int width => return some (.scalar (.int width))
  | .uint width => return some (.scalar (.uint width))
  | .float32 => return some (.scalar .float32)
  | .float64 => return some (.scalar .float64)
  | .string => return some (.scalar .string)
  | .optional inner => deriveField tag inner
  | .list element => do
    let field ← deriveField tag element
    return some (.ofElement field element.isScalar)
  | .map key value =>
    if key.isText then do
      let field ← deriveField tag value
      return some (.ofValue field)
    else return some { operators := Field.emptiness }
  | .record _ fields => do
    let level ← deriveMembers tag fields []
    return some { fields := level }
  | .judge _ schema => return some { fields := schema }
  | .any | .sealed _ => return none

/-- A level with the exposed fields of a record added in the order they are declared in; of two
that claim a name the later one has it. -/
def deriveMembers (tag : String) : List (Member × Shape) → Schema → Except SchemaError Schema
  | [], schema => return schema
  | (member, shape) :: rest, schema =>
    match member.exposure tag with
    | .hidden | .ignored => deriveMembers tag rest schema
    | .names names => do
      match ← deriveField tag shape with
      | none => deriveMembers tag rest schema
      | some field =>
        let field := { field with declaredName := some member.name }
        deriveMembers tag rest (insertAll field names schema)

end

/-- The schema of a type, by its shape and under a tag. -/
def ofShape (tag : String) (shape : Shape) : Except SchemaError Schema :=
  match shape.required with
  | .record _ fields => deriveMembers tag fields []
  | .map key value =>
    if key.isText then do
      let field ← deriveField tag value
      return (field.map fun field => [(FieldName.wildcard, field)]).toList.flatten
    else .error (.nonTextKey key.typeName)
  | .judge _ schema => .ok schema
  | other => .error (.invalidTopLevel other.typeName)

/-- The tag that is looked at if no other one is named. -/
def defaultTag : String := "bexpr"

end Schema

end Sift
