import Sift.Datum.Document
import Sift.Proofs.Lookup

/-!
# Documents kept as data

A document becomes a datum and comes back as it was (`toJson_ofJson`), if its numbers are finite and
each of its objects holds its members in the order of the keys, one member per key: data keep the
entries of a map in the order that they are given in, and the way back sorts them again.
-/

namespace Sift

/-! ## Documents -/

/-- A document whose numbers are finite and whose objects hold their members in order. -/
inductive Json.WellFormed : Json → Prop
  | null : WellFormed .null
  | bool (b : Bool) : WellFormed (.bool b)
  | int (n : Int64) : WellFormed (.int n)
  | uint (n : UInt64) : WellFormed (.uint n)
  | float {x : Binary64} : x.isFinite = true → WellFormed (.float x)
  | string (s : String) : WellFormed (.string s)
  | array {items : List Json} : (∀ item ∈ items, WellFormed item) → WellFormed (.array items)
  | object {members : List (String × Json)} : SortedEntries members →
    (∀ member ∈ members, WellFormed member.2) → WellFormed (.object members)

namespace Datum

theorem ofItems_eq_map (items : List Json) : ofItems items = items.map ofJson := by
  induction items with
  | nil => rfl
  | cons item rest ih => rw [ofItems, ih, List.map_cons]

theorem ofMembers_eq_map (members : List (String × Json)) :
    ofMembers members = members.map fun (key, value) => (key, ofJson value) := by
  induction members with
  | nil => rfl
  | cons member rest ih => rw [ofMembers, ih, List.map_cons]

theorem toItems_eq_map (items : List Datum) : toItems items = items.map toJson := by
  induction items with
  | nil => rfl
  | cons item rest ih => rw [toItems, ih, List.map_cons]

theorem toMembers_eq_map (entries : List (String × Datum)) :
    toMembers entries = entries.map fun (key, value) => (key, toJson value) := by
  induction entries with
  | nil => rfl
  | cons entry rest ih => rw [toMembers, ih, List.map_cons]

/-- A well-formed document comes back from the datum that it becomes. -/
theorem toJson_ofJson {document : Json} (wf : document.WellFormed) :
    (ofJson document).toJson = document := by
  induction wf with
  | null | bool | int | uint | string => rfl
  | float finite =>
    rw [ofJson, toJson, numberJson, if_pos finite]
  | @array items _ ih =>
    have same : items.map (toJson ∘ ofJson) = items := (List.map_congr_left ih).trans (List.map_id _)
    rw [ofJson, toJson, ofItems_eq_map, toItems_eq_map, List.map_map, same]
  | @object members sorted _ ih =>
    have same : toMembers (ofMembers members) = members := by
      rw [toMembers_eq_map, ofMembers_eq_map, List.map_map]
      refine (List.map_congr_left fun member inside => ?_).trans (List.map_id members)
      exact Prod.ext rfl (ih member inside)
    rw [ofJson, toJson, same, sortEntries_of_sorted sorted]

end Datum

end Sift
