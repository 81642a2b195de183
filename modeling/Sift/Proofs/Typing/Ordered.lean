import Sift.Proofs.Typing.Levels
import Sift.Proofs.Walks

/-!
# Schemas in order

An insertion keeps a level in the order of its names, and each of them has one entry. So it is at every
level of a schema that was derived from a shape (`ordered_of_ofShape`), and what holds of schemas with one
entry for each name holds of these (`Schema.Ordered.keyed`).
-/

namespace Sift

/-- Two names are in the order of their characters, and no name is behind the wildcard. -/
instance : Std.TransOrd FieldName where
  eq_swap {a b} := by
    cases a <;> cases b
    case named.named a b =>
      have texts : compare a b = (compare b a).swap := Std.OrientedCmp.eq_swap
      exact texts
    all_goals rfl
  isLE_trans {a b c} first second := by
    cases a <;> cases b <;> cases c
    case named.named.named a b c =>
      have texts : (compare a b).isLE = true → (compare b c).isLE = true →
          (compare a c).isLE = true := Std.TransCmp.isLE_trans
      exact texts first second
    all_goals first | rfl | exact absurd first Bool.false_ne_true | exact absurd second Bool.false_ne_true

namespace Schema

/-- Every level is in the order of its names. -/
inductive Ordered : Schema → Prop
  | intro {schema : Schema} : SortedEntries schema → (∀ entry ∈ schema, Ordered entry.2.fields) →
    Ordered schema

variable {schema : Schema} {field : Field}

theorem Ordered.nil : Ordered [] := .intro .nil (List.forall_mem_nil _)

theorem Ordered.wildcard (below : Ordered field.fields) : Ordered [(.wildcard, field)] :=
  .intro (List.pairwise_singleton _ _) (List.forall_mem_singleton.mpr below)

theorem Ordered.insertEntry (ordered : schema.Ordered) (name : FieldName)
    (below : Ordered field.fields) : Ordered (Sift.insertEntry name field schema) := by
  cases ordered with
  | intro sorted fields =>
    refine .intro (sorted_insertEntry sorted name field) fun entry inside => ?_
    rcases of_mem_insertEntry inside with rfl | before
    · exact below
    · exact fields entry before

theorem Ordered.insertAll (ordered : schema.Ordered) (names : List String)
    (below : Ordered field.fields) : Ordered (Schema.insertAll field names schema) := by
  induction names generalizing schema with
  | nil => exact ordered
  | cons name rest ih => exact ih (ordered.insertEntry (.named name) below)

/-- A level in order has one entry for each name. -/
theorem Ordered.keyed (ordered : schema.Ordered) : schema.Keyed := by
  induction schema using Schema.induction with
  | nil => exact .nil
  | cons name field rest below behind =>
    cases ordered with
    | intro sorted fields =>
      obtain ⟨first, others⟩ := List.pairwise_cons.mp sorted
      obtain ⟨here, later⟩ := List.forall_mem_cons.mp fields
      refine .cons (fun entry inside same => ?_) (below here) (behind (.intro others later))
      have less := first entry inside
      have equal : compare entry.1 entry.1 = .eq := Std.ReflCmp.compare_self
      rw [same] at less equal
      cases equal.symm.trans less

end Schema

/-! ## Schemas of shapes -/

section

variable {tag : String} {shape : Shape}

theorem Schema.Ordered.addMembers {schema : Schema} (ordered : schema.Ordered)
    {fields : List (Member × Shape)}
    (below : ∀ p ∈ fields, ∀ field, Schema.fieldOf? tag p.2 = some field → Ordered field.fields) :
    Ordered (Schema.addMembers tag fields schema) := by
  induction fields generalizing schema with
  | nil => exact ordered
  | cons head rest ih =>
    obtain ⟨member, shape⟩ := head
    obtain ⟨here, later⟩ := List.forall_mem_cons.mp below
    simp only [Schema.addMembers]
    split
    next names field _ derived => exact ih (ordered.insertAll names (here field derived)) later
    next => exact ih ordered later

theorem ordered_of_fieldOf? (free : shape.JudgeFree) {field : Field}
    (derived : Schema.fieldOf? tag shape = some field) : Schema.Ordered field.fields := by
  induction free generalizing field with
  | bool | int | uint | float32 | float64 | string =>
    rw [Schema.fieldOf?] at derived
    cases derived
    exact .nil
  | any | sealed =>
    rw [Schema.fieldOf?] at derived
    cases derived
  | optional _ ih =>
    rw [Schema.fieldOf?] at derived
    exact ih derived
  | @list element _ ih =>
    rw [Schema.fieldOf?] at derived
    cases derived
    cases element.isScalar with
    | true => exact .nil
    | false =>
      have below (next : Field) (same : Schema.fieldOf? tag element = some next) :
          Schema.Ordered next.fields := ih same
      cases known : Schema.fieldOf? tag element with
      | none => exact .nil
      | some next => exact below next known
  | @map key value _ _ _ ih =>
    rw [Schema.fieldOf?] at derived
    split at derived
    next =>
      cases derived
      cases below : Schema.fieldOf? tag value with
      | none => exact .nil
      | some next => exact .wildcard (ih below)
    next =>
      cases derived
      exact .nil
  | record name _ ih =>
    rw [Schema.fieldOf?] at derived
    cases derived
    exact Schema.Ordered.nil.addMembers fun p inside field derived => ih p inside derived

/-- The schema of a shape without judges is in order at every level. -/
theorem ordered_of_ofShape (free : shape.JudgeFree) {schema : Schema}
    (derived : Schema.ofShape tag shape = .ok schema) : schema.Ordered := by
  obtain ⟨field, ⟨plain, name, same, rfl⟩, rfl, -⟩ := describes_of_ofShape free.required_ne derived
  have ordered := ordered_of_fieldOf? free same
  exact ordered

end

end Sift
