import Sift.Proofs.Lookup
import Sift.Schema.Walk

/-!
# Walks

A walk shows the fields of a schema one by one, each under its path, and ends as soon as the visitor wants
no more. What it shows is the list of all paths that lead down from entry to entry (`mem_paths_iff`), and
in that list nothing stands behind what lies below it (`Keyed.ordered_paths`). So no path comes twice, and
a field comes before those that are below it. `Schema.Walks` puts together what a walk does, and
`walks_paths` states it of every schema whose levels have one entry for each name.
-/

namespace Sift.Schema

/-- A statement about schemas, for an entry from what is below it and what is behind it. -/
@[elab_as_elim]
theorem induction {P : Schema → Prop} (nil : P [])
    (cons : ∀ (name : FieldName) (field : Field) (rest : Schema), P field.fields → P rest →
      P ((name, field) :: rest)) : ∀ schema, P schema
  | [] => nil
  | (name, ⟨_, _, _, _, _, _, fields⟩) :: rest =>
    cons name _ rest (induction nil cons fields) (induction nil cons rest)

/-! ## Visitors -/

section

variable {σ : Type} {visit : Visitor σ}

/-- Shows fields to a visitor, one by one; the flag tells whether it wanted to see them all. -/
def visitEach (visit : Visitor σ) : List (List FieldName × Field) → σ → σ × Bool
  | [], state => (state, true)
  | (path, field) :: rest, state =>
    match visit path field state with
    | (state, false) => (state, false)
    | (state, true) => visitEach visit rest state

theorem visitEach_append (fields more : List (List FieldName × Field)) (state : σ) :
    visitEach visit (fields ++ more) state =
      match visitEach visit fields state with
      | (state, false) => (state, false)
      | (state, true) => visitEach visit more state := by
  induction fields generalizing state with
  | nil => rfl
  | cons head rest ih =>
    simp only [List.cons_append, visitEach]
    split
    next => rfl
    next => exact ih _

theorem pathsBelow_eq (path : List FieldName) (field : Field) :
    pathsBelow path field = pathsFrom path field.fields := by
  cases field
  rw [pathsBelow]

theorem walkBelow_eq (path : List FieldName) (field : Field) (state : σ) :
    walkBelow visit field path state = walkFrom visit field.fields path state := by
  cases field
  rw [walkBelow]

/-- A walk over a level shows one path after the other. At its end the shared path is what it was, if
the visitor has not had enough before. -/
theorem walkFrom_eq (schema : Schema) (path : List FieldName) (state : σ) :
    (walkFrom visit schema path state).2 = visitEach visit (pathsFrom path schema) state ∧
      ((walkFrom visit schema path state).2.2 = true →
        (walkFrom visit schema path state).1 = path) := by
  induction schema using Schema.induction generalizing path state with
  | nil => exact ⟨by rw [walkFrom, pathsFrom, visitEach], fun _ => by rw [walkFrom]⟩
  | cons name field rest below behind =>
    rw [walkFrom, pathsFrom, visitEach]
    obtain ⟨state, goesOn⟩ := visit (path ++ [name]) field state
    cases goesOn with
    | false => exact ⟨rfl, nofun⟩
    | true =>
      have inner := below (path ++ [name]) state
      simp only [visitEach_append, walkBelow_eq, pathsBelow_eq]
      rw [← inner.1]
      generalize walkFrom visit field.fields (path ++ [name]) state = walked at inner
      obtain ⟨shared, state, goesOn⟩ := walked
      cases goesOn with
      | false => exact ⟨rfl, nofun⟩
      | true =>
        have popped : shared.dropLast = path := by
          rw [show shared = path ++ [name] from inner.2 rfl, List.dropLast_concat]
        simp only [popped]
        exact behind path state

/-- A walk shows one path after the other. -/
theorem walk_eq_visitEach (visit : Visitor σ) (schema : Schema) (state : σ) :
    schema.walk visit state = visitEach visit schema.paths state :=
  (walkFrom_eq schema [] state).1

end

/-- Writes down what it is shown. With the last field that it wants to see, if there is to be a last one,
it wants no more; the fields are counted from one. -/
def recorder (last : Option Nat) : Visitor (List (List FieldName × Field)) :=
  fun path field seen => (seen ++ [(path, field)], last != some (seen.length + 1))

theorem visitEach_recorder_none (fields seen : List (List FieldName × Field)) :
    visitEach (recorder none) fields seen = (seen ++ fields, true) := by
  induction fields generalizing seen with
  | nil => rw [visitEach, List.append_nil]
  | cons head rest ih =>
    show visitEach (recorder none) rest (seen ++ [head]) = _
    rw [ih, List.append_assoc, List.singleton_append]

theorem visitEach_recorder_some {n : Nat} (fields seen : List (List FieldName × Field))
    (more : seen.length < n) (enough : n ≤ seen.length + fields.length) :
    visitEach (recorder (some n)) fields seen = (seen ++ fields.take (n - seen.length), false) := by
  induction fields generalizing seen with
  | nil =>
    rw [List.length_nil] at enough
    omega
  | cons head rest ih =>
    rw [List.length_cons] at enough
    have count : n - seen.length = (n - (seen.length + 1)) + 1 := by omega
    rw [count, List.take_succ_cons]
    by_cases last : n = seen.length + 1
    · subst last
      simp [visitEach, recorder]
    · have goesOn : (some n != some (seen.length + 1)) = true := by simpa using last
      simp only [visitEach, recorder, goesOn]
      have length : (seen ++ [head]).length = seen.length + 1 := by simp
      refine (ih (seen ++ [head]) (by omega) (by omega)).trans ?_
      rw [length, List.append_assoc, List.singleton_append]

/-! ## Paths -/

theorem pathsFrom_append (before path : List FieldName) (schema : Schema) :
    schema.pathsFrom (before ++ path) =
      (schema.pathsFrom path).map fun entry => (before ++ entry.1, entry.2) := by
  induction schema using Schema.induction generalizing path with
  | nil => simp only [pathsFrom, List.map_nil]
  | cons name field rest below behind =>
    simp only [pathsFrom, pathsBelow_eq, List.map_cons, List.map_append, List.append_assoc, below,
      behind]

/-- First an entry, then what is below it, then what is behind it. -/
theorem paths_cons (name : FieldName) (field : Field) (rest : Schema) :
    paths ((name, field) :: rest) =
      ([name], field) ::
        ((paths field.fields).map (fun entry => (name :: entry.1, entry.2)) ++ paths rest) := by
  have below : pathsFrom [name] field.fields =
      (paths field.fields).map fun entry => (name :: entry.1, entry.2) :=
    pathsFrom_append [name] [] field.fields
  rw [← below]
  simp only [paths, pathsFrom, pathsBelow_eq, List.nil_append]

/-- A path of names leads from a level to a field, from entry to entry. -/
inductive Holds : Schema → List FieldName → Field → Prop
  | entry {schema : Schema} {name : FieldName} {field : Field} :
    (name, field) ∈ schema → Holds schema [name] field
  | through {schema : Schema} {name : FieldName} {field target : Field} {path : List FieldName} :
    (name, field) ∈ schema → Holds field.fields path target → Holds schema (name :: path) target

section

variable {schema rest : Schema} {name : FieldName} {path : List FieldName} {field target : Field}

/-- A path begins with the name of an entry. -/
theorem Holds.first (holds : schema.Holds path target) :
    ∃ name field below, (name, field) ∈ schema ∧ path = name :: below := by
  cases holds with
  | entry inside => exact ⟨_, _, [], inside, rfl⟩
  | through inside _ => exact ⟨_, _, _, inside, rfl⟩

theorem Holds.behind (holds : rest.Holds path target) :
    Holds ((name, field) :: rest) path target := by
  cases holds with
  | entry inside => exact .entry (List.mem_cons_of_mem _ inside)
  | through inside holds => exact .through (List.mem_cons_of_mem _ inside) holds

/-- The paths are those that lead to some field. -/
theorem mem_paths_iff : (path, target) ∈ schema.paths ↔ schema.Holds path target := by
  induction schema using Schema.induction generalizing path with
  | nil =>
    refine ⟨fun inside => absurd inside List.not_mem_nil, fun holds => ?_⟩
    obtain ⟨_, _, _, inside, -⟩ := holds.first
    cases inside
  | cons name field rest below behind =>
    simp only [paths_cons, List.mem_cons, List.mem_append, List.mem_map, Prod.mk.injEq,
      Prod.exists]
    constructor
    · rintro (⟨rfl, rfl⟩ | ⟨path, target, inside, rfl, rfl⟩ | inside)
      · exact .entry List.mem_cons_self
      · exact .through List.mem_cons_self (below.mp inside)
      · exact (behind.mp inside).behind
    · intro holds
      cases holds with
      | entry inside =>
        rcases List.mem_cons.mp inside with here | inside
        · cases here
          exact .inl ⟨rfl, rfl⟩
        · exact .inr (.inr (behind.mpr (.entry inside)))
      | through inside holds =>
        rcases List.mem_cons.mp inside with here | inside
        · cases here
          exact .inr (.inl ⟨_, _, below.mpr holds, rfl, rfl⟩)
        · exact .inr (.inr (behind.mpr (.through inside holds)))

end

/-! ## One entry for each name -/

/-- No level has two entries of one name, as is so where entries are put in by name. -/
inductive Keyed : Schema → Prop
  | nil : Keyed []
  | cons {name : FieldName} {field : Field} {rest : Schema} :
    (∀ entry ∈ rest, entry.1 ≠ name) → Keyed field.fields → Keyed rest →
    Keyed ((name, field) :: rest)

section

variable {schema : Schema} {name : FieldName} {path : List FieldName} {field target : Field}

theorem Keyed.fields (keyed : schema.Keyed) (inside : (name, field) ∈ schema) :
    Keyed field.fields := by
  induction keyed with
  | nil => cases inside
  | cons _ fields _ _ ih =>
    rcases List.mem_cons.mp inside with here | inside
    · cases here
      exact fields
    · exact ih inside

/-- Looking a name up finds its only entry. -/
theorem Keyed.get?_eq_some_iff (keyed : schema.Keyed) :
    schema.get? name = some field ↔ (name, field) ∈ schema := by
  induction keyed with
  | nil => exact ⟨nofun, nofun⟩
  | @cons key first rest others _ _ _ ih =>
    rw [get?, lookup_cons_if, List.mem_cons, Prod.mk.injEq]
    split
    next here =>
      subst here
      have notBehind : (name, field) ∉ rest := fun inside => others _ inside rfl
      simp [notBehind, eq_comm]
    next other =>
      rw [← get?, ih]
      exact (or_iff_right fun same => other same.1).symm

/-- Nothing stands behind what is below it. -/
theorem Keyed.ordered_paths (keyed : schema.Keyed) :
    schema.paths.Pairwise fun earlier later => ¬ later.1 <+: earlier.1 := by
  induction keyed with
  | nil => exact .nil
  | @cons name field rest others _ _ below behind =>
    -- A path through an entry behind begins with another name.
    have otherName {path : List FieldName} {target : Field} (inside : (path, target) ∈ rest.paths)
        (more : List FieldName) : ¬ path <+: name :: more := by
      obtain ⟨other, field, _, entry, rfl⟩ := (mem_paths_iff.mp inside).first
      exact fun leads => others _ entry (List.cons_prefix_cons.mp leads).1
    rw [paths_cons, List.pairwise_cons, List.pairwise_append, List.pairwise_map]
    refine ⟨?_, ?_, behind, ?_⟩
    · rintro ⟨path, target⟩ inside
      rcases List.mem_append.mp inside with inside | inside
      · obtain ⟨⟨path, target⟩, there, same⟩ := List.mem_map.mp inside
        cases same
        obtain ⟨_, _, _, -, rfl⟩ := (mem_paths_iff.mp there).first
        simp
      · exact otherName inside []
    · exact below.imp fun notBefore leads => notBefore (List.cons_prefix_cons.mp leads).2
    · rintro _ inside ⟨path, target⟩ later
      obtain ⟨⟨path, target⟩, -, rfl⟩ := List.mem_map.mp inside
      exact otherName later _

end

/-! ## Walks -/

/-- The fields that a walk through a schema shows, in order. -/
structure Walks (schema : Schema) (visited : List (List FieldName × Field)) : Prop where
  /-- Every visitor sees one after the other until it wants no more. -/
  each {σ : Type} (visit : Visitor σ) (state : σ) :
    schema.walk visit state = visitEach visit visited state
  /-- A visitor that never has enough sees all of them. -/
  complete : schema.walk (recorder none) [] = (visited, true)
  /-- A visitor that has enough with the `n`-th sees the first `n`. -/
  stopped (n : Nat) : 0 < n → n ≤ visited.length →
    schema.walk (recorder (some n)) [] = (visited.take n, false)
  /-- They are the fields that some path leads to, under that path. -/
  holds (path : List FieldName) (field : Field) :
    (path, field) ∈ visited ↔ schema.Holds path field
  /-- No path is shown twice. -/
  once : (visited.map Prod.fst).Nodup
  /-- What is below a field comes after the field. -/
  parentsFirst {before behind : List (List FieldName × Field)} {path : List FieldName}
    {name : FieldName} {field : Field} : path ≠ [] →
    visited = before ++ (path ++ [name], field) :: behind →
    ∃ parent, (path, parent) ∈ before

section

variable {schema : Schema} {name : FieldName} {path : List FieldName} {field target : Field}

/-- Whatever is below a field, there is a path to the field. -/
theorem Holds.parent (holds : schema.Holds (path ++ [name]) target) (nonempty : path ≠ []) :
    ∃ field, schema.Holds path field := by
  induction path generalizing schema with
  | nil => exact absurd rfl nonempty
  | cons first rest ih =>
    rw [List.cons_append] at holds
    generalize further : rest ++ [name] = behind at holds
    cases holds with
    | entry _ => simp at further
    | through inside holds =>
      subst further
      cases rest with
      | nil => exact ⟨_, .entry inside⟩
      | cons second rest =>
        obtain ⟨field, holds⟩ := ih holds (List.cons_ne_nil second rest)
        exact ⟨field, .through inside holds⟩

theorem walks_paths (keyed : schema.Keyed) : schema.Walks schema.paths where
  each visit state := walk_eq_visitEach visit schema state
  complete := by rw [walk_eq_visitEach, visitEach_recorder_none, List.nil_append]
  stopped n more enough := by
    have seen := visitEach_recorder_some schema.paths [] more (by simpa using enough)
    rwa [← walk_eq_visitEach, List.nil_append, List.length_nil, Nat.sub_zero] at seen
  holds path field := mem_paths_iff
  once := by
    refine List.pairwise_map.mpr (keyed.ordered_paths.imp ?_)
    intro earlier later notBefore same
    exact notBefore (same ▸ List.prefix_rfl)
  parentsFirst := by
    intro before behind path name field nonempty split
    have shown : schema.Holds (path ++ [name]) field := by
      rw [← mem_paths_iff, split]
      exact List.mem_append_right _ List.mem_cons_self
    obtain ⟨parent, holds⟩ := shown.parent nonempty
    have ordered := keyed.ordered_paths
    rw [← mem_paths_iff, split] at holds
    rw [split] at ordered
    refine ⟨parent, (List.mem_append.mp holds).resolve_right fun after => ?_⟩
    rcases List.mem_cons.mp after with here | later
    · have same := congrArg (·.1.length) here
      simp at same
    · have notBehind := (List.pairwise_cons.mp (List.pairwise_append.mp ordered).2.1).1 _ later
      exact notBehind (List.prefix_append path [name])

end

end Sift.Schema
