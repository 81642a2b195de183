import Sift.Datum.Document
import Sift.Schema.Shape

/-!
# Host types

A Lean type whose values expressions are evaluated against has an instance of `Host`: a name that
tells the type apart, the shape that its schema is derived from, and the datum that a value of it
becomes. Scalars, options, lists and dictionaries have instances here; a structure gets one from
the list of its fields by `Host.ofFields`.
-/

namespace Sift

/-- A host type seen from outside. -/
structure HostType where
  /-- The name, which no other host type has. -/
  name : String
  shape : Shape

/-- A type whose values become data. -/
class Host (α : Type) where
  hostType : HostType
  toDatum : α → Datum

/-! ## Scalars -/

instance : Host Bool := ⟨⟨"Bool", .bool⟩, .bool⟩

instance : Host Int8 := ⟨⟨"Int8", .int .w8⟩, fun n => .int n.toInt64⟩

instance : Host Int16 := ⟨⟨"Int16", .int .w16⟩, fun n => .int n.toInt64⟩

instance : Host Int32 := ⟨⟨"Int32", .int .w32⟩, fun n => .int n.toInt64⟩

instance : Host Int64 := ⟨⟨"Int64", .int .w64⟩, .int⟩

instance : Host UInt8 := ⟨⟨"UInt8", .uint .w8⟩, fun n => .uint n.toUInt64⟩

instance : Host UInt16 := ⟨⟨"UInt16", .uint .w16⟩, fun n => .uint n.toUInt64⟩

instance : Host UInt32 := ⟨⟨"UInt32", .uint .w32⟩, fun n => .uint n.toUInt64⟩

instance : Host UInt64 := ⟨⟨"UInt64", .uint .w64⟩, .uint⟩

instance : Host Binary32 := ⟨⟨"Binary32", .float32⟩, .float32⟩

instance : Host Binary64 := ⟨⟨"Binary64", .float64⟩, .float64⟩

instance : Host String := ⟨⟨"String", .string⟩, .string⟩

/-! ## Data of any shape -/

instance : Host Datum := ⟨⟨"Datum", .any⟩, id⟩

instance : Host Json := ⟨⟨"Json", .any⟩, .ofJson⟩

/-! ## Containers -/

instance {α : Type} [Host α] : Host (Option α) where
  hostType := ⟨"Option (" ++ (Host.hostType α).name ++ ")", .optional (Host.hostType α).shape⟩
  toDatum
    | some a => Host.toDatum a
    | none => .null

instance {α : Type} [Host α] : Host (List α) where
  hostType := ⟨"List (" ++ (Host.hostType α).name ++ ")", .list (Host.hostType α).shape⟩
  toDatum items := .list (items.map Host.toDatum)

/-- A dictionary: entries in the order of their keys, one per key. -/
structure Dict (κ α : Type) where
  entries : List (κ × α)

namespace Dict

/-- The dictionary of some entries; of equal keys the last one stays. -/
def ofList {κ α : Type} [Ord κ] (entries : List (κ × α)) : Dict κ α := ⟨sortEntries entries⟩

end Dict

/-- The map of some entries: a map under texts if every key is one. -/
def Datum.ofEntries (entries : List (Datum × Datum)) : Datum :=
  match entries.mapM fun (key, value) => key.text?.map (·, value) with
  | some named => .map (sortEntries named)
  | none => .pairs entries

instance {κ α : Type} [Host κ] [Host α] : Host (Dict κ α) where
  hostType :=
    ⟨"Dict (" ++ (Host.hostType κ).name ++ ") (" ++ (Host.hostType α).name ++ ")",
      .map (Host.hostType κ).shape (Host.hostType α).shape⟩
  toDatum dict :=
    .ofEntries (dict.entries.map fun (key, value) => (Host.toDatum key, Host.toDatum value))

/-! ## Structures -/

/-- A field of a structure: what is known of it, and how it is read from a value. -/
structure HostField (α : Type) where
  member : Member
  shape : Shape
  read : α → Datum

/-- The field that a projection reads. -/
def HostField.of {α β : Type} [Host β] (member : Member) (get : α → β) : HostField α :=
  ⟨member, (Host.hostType β).shape, fun a => Host.toDatum (get a)⟩

/-- The instance of a structure with a name and fields. -/
@[reducible] def Host.ofFields {α : Type} (name : String) (fields : List (HostField α)) :
    Host α where
  hostType := ⟨name, .record name (fields.map fun field => (field.member, field.shape))⟩
  toDatum a := .record name (fields.map fun field => (field.member, field.read a))

end Sift
