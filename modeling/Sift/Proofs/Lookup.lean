import Sift.Schema.Basic

/-!
# Looking up names

Frames, scopes and levels of a schema are lists of pairs, looked up from the front. Some of them are
kept in order by insertions.
-/

namespace Sift

section

variable {κ α : Type} [BEq κ] [LawfulBEq κ]

/-- What is looked up stands in the list. -/
theorem mem_of_lookup {entries : List (κ × α)} {key : κ} {a : α}
    (found : entries.lookup key = some a) : (key, a) ∈ entries := by
  obtain ⟨before, behind, rfl, -⟩ := List.lookup_eq_some_iff.mp found
  simp

theorem lookup_cons_if [DecidableEq κ] (key other : κ) (a : α) (rest : List (κ × α)) :
    ((key, a) :: rest).lookup other = if other = key then some a else rest.lookup other := by
  rw [List.lookup_cons]
  by_cases same : other = key
  · simp [same]
  · have different : (other == key) = false := by simpa using same
    simp [same, different]

end

/-! ## Insertions -/

/-- An insertion adds its own entry only. -/
theorem of_mem_insertEntry {ι β : Type} [Ord ι] {key : ι} {value : β} {entries : List (ι × β)}
    {entry : ι × β} (inside : entry ∈ insertEntry key value entries) :
    entry = (key, value) ∨ entry ∈ entries := by
  induction entries with
  | nil => exact .inl (List.mem_singleton.mp inside)
  | cons head rest ih =>
    simp only [insertEntry] at inside
    split at inside
    · exact List.mem_cons.mp inside
    · rcases List.mem_cons.mp inside with here | behind
      · exact .inl here
      · exact .inr (List.mem_cons_of_mem _ behind)
    · rcases List.mem_cons.mp inside with here | behind
      · exact .inr (here ▸ List.mem_cons_self)
      · exact (ih behind).imp_right (List.mem_cons_of_mem _)

/-- Insertions add their own entries only. -/
theorem of_mem_foldl_insertEntry {ι β : Type} [Ord ι] {before entries : List (ι × β)}
    {entry : ι × β} (inside : entry ∈
    entries.foldl (fun sorted (key, value) => insertEntry key value sorted) before) :
    entry ∈ before ∨ entry ∈ entries := by
  induction entries generalizing before with
  | nil => exact .inl inside
  | cons head rest ih =>
    rcases ih inside with before | behind
    · rcases of_mem_insertEntry before with rfl | before
      · exact .inr List.mem_cons_self
      · exact .inl before
    · exact .inr (List.mem_cons_of_mem _ behind)

theorem of_mem_sortEntries {ι β : Type} [Ord ι] {entries : List (ι × β)} {entry : ι × β}
    (inside : entry ∈ sortEntries entries) : entry ∈ entries :=
  (of_mem_foldl_insertEntry inside).resolve_left List.not_mem_nil

section

variable {κ α : Type} [Ord κ] [Std.TransOrd κ] {entries : List (κ × α)}

/-- The keys come in order, each of them once. -/
def SortedEntries (entries : List (κ × α)) : Prop :=
  entries.Pairwise fun first second => compare first.1 second.1 = .lt

/-- An insertion keeps the order. -/
theorem sorted_insertEntry (sorted : SortedEntries entries) (key : κ) (value : α) :
    SortedEntries (insertEntry key value entries) := by
  induction entries with
  | nil => exact List.pairwise_singleton _ _
  | cons head rest ih =>
    obtain ⟨other, old⟩ := head
    obtain ⟨first, others⟩ := List.pairwise_cons.mp sorted
    rw [insertEntry]
    split
    next less =>
      refine List.pairwise_cons.mpr ⟨List.forall_mem_cons.mpr ⟨less, fun entry inside => ?_⟩, sorted⟩
      exact Std.TransCmp.lt_trans less (first entry inside)
    next same =>
      refine List.pairwise_cons.mpr ⟨fun entry inside => ?_, others⟩
      exact Std.TransCmp.lt_of_eq_of_lt same (first entry inside)
    next greater =>
      refine List.pairwise_cons.mpr ⟨fun entry inside => ?_, ih others⟩
      rcases of_mem_insertEntry inside with rfl | behind
      · exact Std.OrientedCmp.lt_of_gt greater
      · exact first entry behind

theorem sorted_foldl_insertEntry {before : List (κ × α)} (sorted : SortedEntries before) :
    SortedEntries
      (entries.foldl (fun sorted (key, value) => insertEntry key value sorted) before) := by
  induction entries generalizing before with
  | nil => exact sorted
  | cons entry rest ih => exact ih (sorted_insertEntry sorted entry.1 entry.2)

/-- Sorting gives sorted entries. -/
theorem sorted_sortEntries (entries : List (κ × α)) : SortedEntries (sortEntries entries) :=
  sorted_foldl_insertEntry List.Pairwise.nil

/-- What comes behind all other keys is put at the end. -/
theorem insertEntry_of_behind {key : κ} {value : α}
    (behind : ∀ entry ∈ entries, compare entry.1 key = .lt) :
    insertEntry key value entries = entries ++ [(key, value)] := by
  induction entries with
  | nil => rfl
  | cons head rest ih =>
    obtain ⟨other, old⟩ := head
    obtain ⟨less, behindRest⟩ := List.forall_mem_cons.mp behind
    have greater : compare key other = .gt := Std.OrientedCmp.gt_of_lt less
    rw [insertEntry, greater]
    exact congrArg ((other, old) :: ·) (ih behindRest)

/-- Sorted entries are inserted one behind the other. -/
theorem foldl_insertEntry_of_sorted {before : List (κ × α)}
    (sorted : SortedEntries (before ++ entries)) :
    entries.foldl (fun sorted (key, value) => insertEntry key value sorted) before =
      before ++ entries := by
  induction entries generalizing before with
  | nil => exact (List.append_nil before).symm
  | cons head rest ih =>
    obtain ⟨key, value⟩ := head
    have behind : ∀ entry ∈ before, compare entry.1 key = .lt := by
      intro entry inside
      exact (List.pairwise_append.mp sorted).2.2 entry inside (key, value) List.mem_cons_self
    rw [List.append_cons] at sorted ⊢
    rw [List.foldl_cons]
    dsimp only
    rw [insertEntry_of_behind behind]
    exact ih sorted

/-- Sorting changes nothing about entries that are sorted. -/
theorem sortEntries_of_sorted (sorted : SortedEntries entries) : sortEntries entries = entries :=
  @foldl_insertEntry_of_sorted _ _ _ _ entries [] sorted

end

/-! ## Levels of a schema -/

theorem compare_fieldName_eq (a b : FieldName) : compare a b = .eq ↔ a = b := by
  cases a with
  | named a =>
    cases b with
    | named b =>
      have texts : compare (FieldName.named a) (FieldName.named b) = compare a b := rfl
      rw [texts, Std.compare_eq_iff_eq, FieldName.named.injEq]
    | wildcard => exact ⟨nofun, nofun⟩
  | wildcard =>
    cases b with
    | named b => exact ⟨nofun, nofun⟩
    | wildcard => exact ⟨fun _ => rfl, fun _ => rfl⟩

/-- An entry that is put into a level is found there, and nothing else has changed. -/
theorem lookup_insertEntry (name other : FieldName) (field : Field) (schema : Schema) :
    (insertEntry name field schema).lookup other =
      if other = name then some field else schema.lookup other := by
  induction schema with
  | nil => exact lookup_cons_if name other field []
  | cons head rest ih =>
    obtain ⟨key, old⟩ := head
    have same := compare_fieldName_eq name key
    simp only [insertEntry]
    split
    next less => exact lookup_cons_if name other field _
    next equal =>
      obtain rfl := same.mp equal
      rw [lookup_cons_if, lookup_cons_if]
      split <;> rfl
    next greater =>
      have different : name ≠ key := fun equal => by
        rw [same.mpr equal] at greater
        cases greater
      rw [lookup_cons_if, lookup_cons_if, ih]
      by_cases here : other = name
      · rw [if_pos here, if_pos here, if_neg (here ▸ different)]
      · rw [if_neg here, if_neg here]

end Sift
