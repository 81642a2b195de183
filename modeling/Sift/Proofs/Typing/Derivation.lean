import Sift.Schema.Shape

/-!
# Deriving fields

Deriving a field may give an error by its type, but no shape makes it do so: errors are for what
stands at the top, and a record or a map below it derives its parts as fields. So the derivation of
a field has a form without errors, `Schema.fieldOf?`, and the schema of a type is made of fields in
this form (`Schema.ofShape_eq`).
-/

namespace Sift.Schema

mutual

/-- The field of a shape, unless no path looks into it. -/
def fieldOf? (tag : String) : Shape → Option Field
  | .bool => some (.scalar .bool)
  | .int width => some (.scalar (.int width))
  | .uint width => some (.scalar (.uint width))
  | .float32 => some (.scalar .float32)
  | .float64 => some (.scalar .float64)
  | .string => some (.scalar .string)
  | .optional inner => fieldOf? tag inner
  | .list element => some (.ofElement (fieldOf? tag element) element.isScalar)
  | .map key value =>
    if key.isText then some (.ofValue (fieldOf? tag value))
    else some { operators := Field.emptiness }
  | .record _ fields => some { fields := addMembers tag fields [] }
  | .judge _ schema => some { fields := schema }
  | .any | .sealed _ => none

/-- A level with the exposed fields of a record added in the order they are declared in; of two
that claim a name the later one has it. -/
def addMembers (tag : String) : List (Member × Shape) → Schema → Schema
  | [], schema => schema
  | (member, shape) :: rest, schema =>
    match member.exposure tag, fieldOf? tag shape with
    | .names names, some field =>
      addMembers tag rest (insertAll { field with declaredName := some member.name } names schema)
    | _, _ => addMembers tag rest schema

end

mutual

/-- Deriving a field does not fail. -/
theorem deriveField_eq (tag : String) (shape : Shape) :
    deriveField tag shape = .ok (fieldOf? tag shape) := by
  cases shape with
  | list element =>
    rw [deriveField, deriveField_eq tag element, fieldOf?]
    rfl
  | map key value =>
    rw [deriveField, fieldOf?, deriveField_eq tag value]
    split <;> rfl
  | optional inner => rw [deriveField, deriveField_eq tag inner, fieldOf?]
  | record name fields =>
    rw [deriveField, deriveMembers_eq tag fields [], fieldOf?]
    rfl
  | _ => rw [deriveField, fieldOf?]; rfl

/-- Nor does deriving the fields of a record. -/
theorem deriveMembers_eq (tag : String) (fields : List (Member × Shape)) (schema : Schema) :
    deriveMembers tag fields schema = .ok (addMembers tag fields schema) := by
  match fields with
  | [] => rw [deriveMembers, addMembers]; rfl
  | (member, shape) :: rest =>
    rw [deriveMembers, addMembers, deriveField_eq tag shape]
    cases member.exposure tag with
    | hidden | ignored => exact deriveMembers_eq tag rest schema
    | names names =>
      cases fieldOf? tag shape with
      | none => exact deriveMembers_eq tag rest schema
      | some field => exact deriveMembers_eq tag rest _

end

/-- The schema of a type is made of fields, and fails only where it has no level. -/
theorem ofShape_eq (tag : String) (shape : Shape) :
    ofShape tag shape =
      match shape.required with
      | .record _ fields => .ok (addMembers tag fields [])
      | .map key value =>
        if key.isText then
          .ok ((fieldOf? tag value).map fun field => [(FieldName.wildcard, field)]).toList.flatten
        else .error (.nonTextKey key.typeName)
      | .judge _ schema => .ok schema
      | other => .error (.invalidTopLevel other.typeName) := by
  unfold ofShape
  cases shape.required with
  | record _ fields => exact deriveMembers_eq tag fields []
  | map _ value =>
    simp only [deriveField_eq tag value]
    rfl
  | _ => rfl

end Sift.Schema
