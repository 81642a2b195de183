import Sift.Event
import Sift.Host
import Sift.Traced

/-!
# Catalogs of schemas

A catalog derives the schemas of host types on request. A keeping catalog has a slot for every type
and tag that was asked for. The schema is derived into the slot and given from it from then on;
after a failure the slot stays empty, so the next request tries again. Only keeping catalogs report
what they derive. A type is asked for its shape by a call, which is a note of the answer like the
report, so that the calls can be counted.
-/

namespace Sift

/-- A step on the way to a schema. -/
inductive CatalogStep where
  /-- A type was asked for its shape. -/
  | described (typeName : String)
  /-- The derivation was reported. -/
  | reported (event : Event)
deriving DecidableEq, Repr

namespace CatalogStep

/-- The report of a step. -/
def report? : CatalogStep → Option Event
  | described _ => none
  | reported event => some event

/-- Whether a type was asked for its shape. -/
def isDescription : CatalogStep → Bool
  | described _ => true
  | reported _ => false

end CatalogStep

/-- The shape of a type, which is asked for it. -/
def HostType.describe (type : HostType) : Traced CatalogStep SchemaError Shape := do
  .note (.described type.name)
  return type.shape

/-- A source of schemas. -/
structure Catalog where
  /-- Whether derived schemas are kept. -/
  keeps : Bool
  /-- A slot under the name of each type and the tag that were asked for, in the order in which they
  first were; it is empty as long as the schema has not been derived. -/
  slots : List ((String × String) × Option Schema) := []

/-- What a request to a catalog comes to. -/
structure Supply where
  /-- The schema, with the steps to it. -/
  answer : Traced CatalogStep SchemaError Schema
  /-- The place of the slot that the schema is kept in, if it is kept. -/
  place : Option Nat
  /-- The catalog after the request. -/
  catalog : Catalog

namespace Supply

/-- The schema, with the reports on the way to it. -/
def reported (supply : Supply) : Traced Event SchemaError Schema :=
  ⟨supply.answer.notes.filterMap CatalogStep.report?, supply.answer.outcome⟩

/-- How often a type was asked for its shape. -/
def descriptions (supply : Supply) : Nat :=
  supply.answer.notes.countP CatalogStep.isDescription

end Supply

namespace Catalog

/-- The name of a type and a tag. -/
abbrev Key := String × String

/-- A catalog that keeps what it derives. -/
def keeping : Catalog := ⟨true, []⟩

/-- A catalog that derives every schema anew. -/
def forgetful : Catalog := ⟨false, []⟩

/-- The number of schemas kept. Empty slots do not count. -/
def size (c : Catalog) : Nat := c.slots.countP fun (_, slot) => slot.isSome

/-- Whether no schema is kept. -/
def isEmpty (c : Catalog) : Bool := c.size == 0

/-- The place of a slot. -/
def place? (c : Catalog) (key : Key) : Option Nat := c.slots.findIdx? fun (other, _) => other == key

/-- The schema kept in a slot. -/
def kept? (c : Catalog) (key : Key) : Option Schema := (c.slots.lookup key).join

/-- The catalog with a slot for a type under a tag, an empty one if there was none. -/
def withSlot (c : Catalog) (key : Key) : Catalog :=
  match c.slots.lookup key with
  | some _ => c
  | none => { c with slots := c.slots ++ [(key, none)] }

/-- The catalog with a schema in a slot. -/
def fill (c : Catalog) (key : Key) (schema : Schema) : Catalog :=
  { c with slots := c.slots.map fun (other, slot) =>
      (other, if other = key then some schema else slot) }

/-- The derivation of a schema, reported if the catalog keeps it. -/
def derivation (c : Catalog) (type : HostType) (tag : String) :
    Traced CatalogStep SchemaError Schema := do
  let shape ← type.describe
  if c.keeps then .note (.reported (.derived shape.typeName tag))
  .ofExcept (Schema.ofShape tag shape)

/-- The schema of a type under a tag, newly derived into its slot. -/
def derive (c : Catalog) (type : HostType) (tag : String) : Supply :=
  let answer := c.derivation type tag
  match answer.outcome with
  | .error _ => ⟨answer, none, c⟩
  | .ok schema => ⟨answer, c.place? (type.name, tag), c.fill (type.name, tag) schema⟩

/-- The schema of a type under a tag, as kept or newly derived. -/
def request (c : Catalog) (type : HostType) (tag : String) : Supply :=
  if c.keeps then
    let key := (type.name, tag)
    let reserved := c.withSlot key
    match reserved.kept? key with
    | some schema => ⟨pure schema, reserved.place? key, reserved⟩
    | none => reserved.derive type tag
  else ⟨c.derivation type tag, none, c⟩

end Catalog

end Sift
