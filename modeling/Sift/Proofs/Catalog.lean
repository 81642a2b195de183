import Mathlib
import Sift.Catalog
import Sift.Proofs.Lookup

/-!
# Keeping and deriving anew

No answer tells a catalog that keeps its schemas from one that derives them anew: what differs is how
often a type is asked for its shape, and what is left behind. Both are told for any requests, made
one after another, in `keeping_serves_as_forgetful`, each type having one shape.

What a keeping catalog holds depends on the keys that have been asked for alone: it has a slot for
each of them, which is filled if there is a schema (`Catalog.recording`). A request adds at most the
slot of its own key (`recording_request`), whether its schema can be derived or not.
-/

namespace Sift.Catalog

variable (shapeOf : String → Shape)

/-- The schema of a type under a tag, by the shape that the type has. -/
def schemaOf (key : Key) : Except SchemaError Schema := Schema.ofShape key.2 (shapeOf key.1)

/-- What requests come to that are made to a catalog one after another. -/
def serve (c : Catalog) : List Key → List Supply
  | [] => []
  | key :: rest =>
    let supply := c.request ⟨key.1, shapeOf key.1⟩ key.2
    supply :: serve supply.catalog rest

/-- How often a type was asked for its shape in answer to requests for a key. -/
def descriptions (key : Key) (requests : List Key) (supplies : List Supply) : Nat :=
  ((requests.zip supplies).map fun (asked, supply) =>
    if asked = key then supply.descriptions else 0).sum

/-! ## What is left behind -/

/-- The keeping catalog with a slot for each of some keys. -/
def recording (keys : List Key) : Catalog :=
  ⟨true, keys.map fun key => (key, (schemaOf shapeOf key).toOption)⟩

/-- The keys of the slots after one more request. -/
def noted (keys : List Key) (key : Key) : List Key := if key ∈ keys then keys else keys ++ [key]

variable {keys : List Key} {key : Key}

theorem nodup_noted (apart : keys.Nodup) : (noted keys key).Nodup := by
  unfold noted
  split
  next => exact apart
  next new => exact List.Nodup.append apart (List.nodup_singleton key) (by simpa using new)

theorem mem_noted {other : Key} : other ∈ noted keys key ↔ other ∈ keys ∨ other = key := by
  unfold noted
  split
  next there =>
    refine ⟨.inl, ?_⟩
    rintro (old | rfl)
    · exact old
    · exact there
  next => rw [List.mem_append, List.mem_singleton]

theorem lookup_slots_recording :
    (recording shapeOf keys).slots.lookup key =
      if key ∈ keys then some (schemaOf shapeOf key).toOption else none := by
  unfold recording
  induction keys with
  | nil => rfl
  | cons first rest ih =>
    dsimp only at ih ⊢
    rw [List.map_cons, lookup_cons_if, ih]
    by_cases here : key = first
    · rw [if_pos here, if_pos (here ▸ List.mem_cons_self), here]
    · have mem : key ∈ first :: rest ↔ key ∈ rest := by simp only [List.mem_cons, here, false_or]
      simp only [if_neg here, mem]

theorem size_recording (apart : keys.Nodup) :
    (recording shapeOf keys).size =
      (keys.toFinset.filter fun key => (schemaOf shapeOf key).isOk).card := by
  rw [← List.toFinset_filter, List.toFinset_card_of_nodup (apart.filter _), size, recording,
    List.countP_map, List.countP_eq_length_filter]
  congr 2
  funext key
  rw [Function.comp_apply]
  cases schemaOf shapeOf key <;> rfl

/-! ## One request -/

/-- The slot of a key that has been asked for is there. -/
theorem withSlot_recording_of_mem (there : key ∈ keys) :
    (recording shapeOf keys).withSlot key = recording shapeOf keys := by
  rw [withSlot, lookup_slots_recording, if_pos there]

/-- A new slot is empty, whatever the schema of its key. -/
theorem withSlot_recording_of_not_mem (new : key ∉ keys) :
    (recording shapeOf keys).withSlot key =
      ⟨true, (recording shapeOf keys).slots ++ [(key, none)]⟩ := by
  rw [withSlot, lookup_slots_recording, if_neg new]
  rfl

/-- Filling the new slot touches no other one. -/
theorem fill_new {schema : Schema} (new : key ∉ keys) (derived : schemaOf shapeOf key = .ok schema) :
    fill ⟨true, (recording shapeOf keys).slots ++ [(key, none)]⟩ key schema =
      recording shapeOf (keys ++ [key]) := by
  have others : ∀ other ∈ keys, (other, if other = key then some schema else
      (schemaOf shapeOf other).toOption) = (other, (schemaOf shapeOf other).toOption) := by
    intro other inside
    have different : other ≠ key := fun same => new (same ▸ inside)
    rw [if_neg different]
  have filled : (schemaOf shapeOf key).toOption = some schema := by
    rw [derived]
    rfl
  simp only [fill, recording, List.map_append, List.map_map, Function.comp_def, List.map_cons,
    List.map_nil, if_true, filled, List.map_congr_left others]

/-- With a report or without, deriving gives the schema of the shape. -/
theorem outcome_derivation (c : Catalog) (type : HostType) (tag : String) :
    (c.derivation type tag).outcome = Schema.ofShape tag type.shape := by
  unfold derivation
  cases c.keeps <;> rfl

/-- Whatever comes of it, deriving asks the type for its shape once. -/
theorem countP_derivation (c : Catalog) (type : HostType) (tag : String) :
    (c.derivation type tag).notes.countP CatalogStep.isDescription = 1 := by
  unfold derivation
  cases c.keeps <;> rfl

theorem answer_derive (c : Catalog) (type : HostType) (tag : String) :
    (c.derive type tag).answer = c.derivation type tag := by
  unfold derive
  dsimp only
  split <;> rfl

theorem catalog_derive_of_ok (c : Catalog) {type : HostType} {tag : String} {schema : Schema}
    (derived : Schema.ofShape tag type.shape = .ok schema) :
    (c.derive type tag).catalog = c.fill (type.name, tag) schema := by
  simp only [derive, outcome_derivation, derived]

theorem catalog_derive_of_error (c : Catalog) {type : HostType} {tag : String} {cause : SchemaError}
    (failed : Schema.ofShape tag type.shape = .error cause) : (c.derive type tag).catalog = c := by
  simp only [derive, outcome_derivation, failed]

/-- A request is answered with the schema of its key, for which the type is asked for its shape unless
it was asked before and there is a schema, and it adds the slot of its key. -/
theorem recording_request (keys : List Key) (key : Key) :
    let supply := (recording shapeOf keys).request ⟨key.1, shapeOf key.1⟩ key.2
    supply.answer.outcome = schemaOf shapeOf key ∧
      supply.descriptions = (if key ∈ keys ∧ (schemaOf shapeOf key).isOk then 0 else 1) ∧
      supply.catalog = recording shapeOf (noted keys key) := by
  obtain ⟨name, tag⟩ := key
  have keeps : (recording shapeOf keys).keeps = true := rfl
  rw [request, if_pos keeps]
  dsimp only
  by_cases there : (name, tag) ∈ keys
  · rw [withSlot_recording_of_mem shapeOf there, noted, if_pos there, kept?, lookup_slots_recording,
      if_pos there]
    cases derived : schemaOf shapeOf (name, tag) with
    | ok schema =>
      rw [if_pos ⟨there, rfl⟩]
      exact ⟨rfl, rfl, rfl⟩
    | error cause =>
      dsimp only [Except.toOption, Option.join_some]
      rw [Supply.descriptions, answer_derive, countP_derivation, outcome_derivation,
        @catalog_derive_of_error _ ⟨name, _⟩ tag _ derived, if_neg fun fine => Bool.noConfusion fine.2]
      exact ⟨derived, rfl, rfl⟩
  · have empty : kept? ⟨true, (recording shapeOf keys).slots ++ [((name, tag), none)]⟩ (name, tag) =
        none := by
      rw [kept?, List.lookup_append, lookup_slots_recording, if_neg there, lookup_cons_if,
        if_pos rfl]
      rfl
    rw [withSlot_recording_of_not_mem shapeOf there, empty, noted, if_neg there,
      if_neg fun fine => there fine.1]
    dsimp only
    rw [Supply.descriptions, answer_derive, countP_derivation, outcome_derivation]
    refine ⟨rfl, rfl, ?_⟩
    cases derived : schemaOf shapeOf (name, tag) with
    | ok schema => rw [@catalog_derive_of_ok _ ⟨name, _⟩ tag _ derived, fill_new shapeOf there derived]
    | error cause =>
      rw [@catalog_derive_of_error _ ⟨name, _⟩ tag _ derived]
      simp only [recording, List.map_append, List.map_cons, List.map_nil, derived, Except.toOption]

/-! ## Requests one after another -/

theorem answers_recording (keys requests : List Key) :
    (serve shapeOf (recording shapeOf keys) requests).map (·.answer.outcome) =
      requests.map (schemaOf shapeOf) := by
  induction requests generalizing keys with
  | nil => rfl
  | cons key rest ih =>
    obtain ⟨answer, -, after⟩ := recording_request shapeOf keys key
    rw [serve, List.map_cons, List.map_cons, answer, after, ih]

theorem answers_forgetful (requests : List Key) :
    (serve shapeOf forgetful requests).map (·.answer.outcome) = requests.map (schemaOf shapeOf) := by
  induction requests with
  | nil => rfl
  | cons key rest ih => exact congrArg (schemaOf shapeOf key :: ·) ih

/-- A type is asked for its shape for each request, if there is no schema, and for the first one
otherwise, unless there was one before. -/
theorem descriptions_recording (keys requests : List Key) (key : Key) :
    descriptions key requests (serve shapeOf (recording shapeOf keys) requests) =
      if (schemaOf shapeOf key).isOk then (if key ∈ requests ∧ key ∉ keys then 1 else 0)
      else requests.count key := by
  induction requests generalizing keys with
  | nil => simp [serve, descriptions]
  | cons asked rest ih =>
    obtain ⟨-, here, after⟩ := recording_request shapeOf keys asked
    have step : descriptions key (asked :: rest)
        (serve shapeOf (recording shapeOf keys) (asked :: rest)) =
        (if asked = key then
          (if asked ∈ keys ∧ (schemaOf shapeOf asked).isOk then 0 else 1) else 0) +
          descriptions key rest (serve shapeOf (recording shapeOf (noted keys asked)) rest) := by
      rw [descriptions, serve, List.zip_cons_cons, List.map_cons, List.sum_cons, after]
      dsimp only
      rw [here]
      rfl
    rw [step, ih, List.count_cons]
    by_cases same : asked = key
    · subst same
      cases succeeds : (schemaOf shapeOf asked).isOk with
      | true => by_cases there : asked ∈ keys <;> simp [mem_noted, there]
      | false => simp [Nat.add_comm]
    · have other : key ≠ asked := Ne.symm same
      simp [mem_noted, same, other]

/-- After each request the schemas that are kept are those of the keys asked for so far. -/
theorem size_recording_request (apart : keys.Nodup) {requests : List Key} {n : Nat} {supply : Supply}
    (there : (serve shapeOf (recording shapeOf keys) requests)[n]? = some supply) :
    supply.catalog.size =
      ((keys ++ requests.take (n + 1)).toFinset.filter fun key => (schemaOf shapeOf key).isOk).card := by
  induction requests generalizing keys n with
  | nil => cases there
  | cons key rest ih =>
    obtain ⟨-, -, after⟩ := recording_request shapeOf keys key
    have sameKeys (more : List Key) :
        (noted keys key ++ more).toFinset = (keys ++ key :: more).toFinset := by
      ext other
      simp only [List.mem_toFinset, List.mem_append, mem_noted, List.mem_cons, or_assoc]
    cases n with
    | zero =>
      cases there
      rw [after, size_recording shapeOf (nodup_noted apart), List.take_succ_cons, List.take_zero,
        ← sameKeys, List.append_nil]
    | succ n =>
      rw [serve, List.getElem?_cons_succ, after] at there
      rw [ih (nodup_noted apart) there, sameKeys, List.take_succ_cons]

end Sift.Catalog

namespace Sift

/-- For any requests, a keeping catalog gives the answers that a forgetful one gives. It asks a type for
its shape once for every key asked for that has a schema, and for every request if there is none;
and after each step it holds as many schemas as different keys with one have been asked for. -/
theorem keeping_serves_as_forgetful (shapeOf : String → Shape) (requests : List Catalog.Key) :
    let supplies := Catalog.keeping.serve shapeOf requests
    supplies.map (·.answer.outcome) =
        (Catalog.forgetful.serve shapeOf requests).map (·.answer.outcome) ∧
      (∀ key, Catalog.descriptions key requests supplies =
        if (Catalog.schemaOf shapeOf key).isOk then (if key ∈ requests then 1 else 0)
        else requests.count key) ∧
      ∀ n supply, supplies[n]? = some supply → supply.catalog.size =
        ((requests.take (n + 1)).toFinset.filter fun key =>
          (Catalog.schemaOf shapeOf key).isOk).card := by
  have start : Catalog.keeping = Catalog.recording shapeOf [] := rfl
  rw [start]
  refine ⟨?_, fun key => ?_, fun n supply there => ?_⟩
  · rw [Catalog.answers_recording, Catalog.answers_forgetful]
  · rw [Catalog.descriptions_recording]
    simp only [List.not_mem_nil, not_false_eq_true, and_true]
  · exact Catalog.size_recording_request shapeOf List.nodup_nil there

end Sift
