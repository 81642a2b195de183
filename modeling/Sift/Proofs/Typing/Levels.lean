import Sift.Proofs.Checking
import Sift.Proofs.Typing.Scopes

/-!
# Fields at every level

From a field the check goes on to the next level, and to what is known of positions, keys, elements
and values. `Field.Everywhere` states something of all fields that are reached so. A property that
each rule for deriving a field establishes (`Field.Derivable`) holds everywhere in the schema of a
shape, as long as no judge brings a schema of its own (`everywhere_of_ofShape`), and what is kept
from field to field holds at the end of every route (`Field.Hereditary`, `good_of_route`).
-/

namespace Sift

/-! ## From field to field -/

namespace Field

/-- A property that goes on to every field that is reached in one step. -/
structure Hereditary (good : Field → Prop) : Prop where
  index {field next : Field} : good field → field.index = some next → good next
  value {field next : Field} : good field → field.value = some next → good next
  fields {field : Field} : good field → ∀ entry ∈ field.fields, good entry.2

theorem Hereditary.trivial : Hereditary fun _ => True where
  index _ _ := True.intro
  value _ _ := True.intro
  fields _ _ _ := True.intro

/-- A field and all that are reached from it have a property. -/
inductive Everywhere (P : Field → Prop) : Field → Prop
  | intro {field : Field} : P field → (∀ next, field.index = some next → Everywhere P next) →
    (∀ next, field.value = some next → Everywhere P next) →
    (∀ entry ∈ field.fields, Everywhere P entry.2) → Everywhere P field

theorem Everywhere.here {P : Field → Prop} {field : Field} (everywhere : field.Everywhere P) :
    P field := by
  cases everywhere with
  | intro here _ _ _ => exact here

/-- From a field without parts nothing is reached. -/
theorem Everywhere.of_leaf {P : Field → Prop} {field : Field} (here : P field)
    (index : field.index = none) (value : field.value = none) (fields : field.fields = []) :
    field.Everywhere P := by
  refine .intro here ?_ ?_ ?_
  · intro next known
    cases index.symm.trans known
  · intro next known
    cases value.symm.trans known
  · rw [fields]
    exact List.forall_mem_nil _

theorem Everywhere.hereditary (P : Field → Prop) : Hereditary (Everywhere P) where
  index everywhere known := by cases everywhere with | intro _ index _ _ => exact index _ known
  value everywhere known := by cases everywhere with | intro _ _ value _ => exact value _ known
  fields everywhere := by cases everywhere with | intro _ _ _ fields => exact fields

end Field

section

variable {good : Field → Prop}

/-- A segment leads to a field of the level. -/
theorem good_of_field? {schema : Schema} (level : ∀ entry ∈ schema, good entry.2)
    {segment : String} {field : Field} (found : schema.field? segment = some field) :
    good field := by
  simp only [Schema.field?, Schema.get?, Option.or_eq_some_iff] at found
  rcases found with named | ⟨-, wildcard⟩
  · exact level _ (mem_of_lookup named)
  · exact level _ (mem_of_lookup wildcard)

variable (closed : Field.Hereditary good)
include closed

theorem good_of_follow {field : Field} (here : good field) {path : List String} {route : Route}
    (followed : field.follow path = .ok route) : good route.field := by
  induction path generalizing field route with
  | nil =>
    cases followed
    exact here
  | cons segment rest ih =>
    obtain ⟨next, below, step, behind, cut⟩ := of_follow_cons followed
    have further := ih (good_of_field? (closed.fields here) step) behind
    rcases cut with ⟨-, rfl⟩ | ⟨-, rfl⟩ <;> exact further

/-- What all names in scope and the whole level have, the field at the end of a route has. -/
theorem good_of_route {schema : Schema} (level : ∀ entry ∈ schema, good entry.2) {scope : Scope}
    (known : ∀ name ∈ scope, good name.2) {selector : Selector} {route : Route}
    (routed : schema.route scope selector = .ok route) : good route.field := by
  obtain ⟨first, rest, field, below, -, start, followed, rfl⟩ := of_route routed
  have here : good field := by
    rcases Option.or_eq_some_iff.mp start with bound | ⟨-, found⟩
    · exact known _ (mem_of_lookup bound)
    · exact good_of_field? level found
  have further := good_of_follow closed here followed
  exact further

/-- What is known of the names of a binding is reached from the collection. -/
theorem good_of_binding {collection : Field} (here : good collection) (binding : Binding) :
    ∀ entry ∈ binding.fields collection, good entry.2 := by
  have known (name : String) {part : Option Field} (parts : ∀ next, part = some next → good next) :
      ∀ entry ∈ (part.map fun field => (name, field)).toList, good entry.2 := by
    intro entry inside
    obtain ⟨field, same, rfl⟩ := Option.map_eq_some_iff.mp (Option.mem_toList.mp inside)
    exact parts field same
  have index (next : Field) : collection.index = some next → good next := closed.index here
  have value (next : Field) : collection.value = some next → good next := closed.value here
  cases binding with
  | each name =>
    refine known name fun next same => ?_
    split at same
    · exact index next same
    · exact value next same
  | index name => exact known name index
  | value name => exact known name value
  | both i v => exact List.forall_mem_append.mpr ⟨known i index, known v value⟩

end

/-! ## Schemas of shapes -/

/-- There is no judge in a shape. -/
inductive Shape.JudgeFree : Shape → Prop
  | bool : JudgeFree .bool
  | int (width : Width) : JudgeFree (.int width)
  | uint (width : Width) : JudgeFree (.uint width)
  | float32 : JudgeFree .float32
  | float64 : JudgeFree .float64
  | string : JudgeFree .string
  | list {element : Shape} : JudgeFree element → JudgeFree (.list element)
  | map {key value : Shape} : JudgeFree key → JudgeFree value → JudgeFree (.map key value)
  | optional {inner : Shape} : JudgeFree inner → JudgeFree (.optional inner)
  | record (name : String) {fields : List (Member × Shape)} :
    (∀ p ∈ fields, JudgeFree p.2) → JudgeFree (.record name fields)
  | any : JudgeFree .any
  | sealed (name : String) : JudgeFree (.sealed name)

/-- A property of the fields that are derived from shapes, whatever has been derived for the parts of
the shapes. -/
structure Field.Derivable (P : Field → Prop) : Prop where
  scalar (type : LiteralType) : P (.scalar type)
  scalars (type : LiteralType) : P (.ofElement (some (.scalar type)) true)
  list (element : Option Field) : P (.ofElement element false)
  map (value : Option Field) : P (.ofValue value)
  /-- A map whose keys are no texts. -/
  closed : P { operators := Field.emptiness }
  record (schema : Schema) : P { fields := schema }
  named {field : Field} (name : Option String) : P field → P { field with declaredName := name }

section

variable {tag : String} {shape : Shape} {P : Field → Prop}

/-- A scalar has the field of its literals. -/
theorem exists_scalar_of_isScalar (isScalar : shape.isScalar = true) :
    ∃ type, Schema.fieldOf? tag shape = some (.scalar type) := by
  rw [← fieldOf?_required]
  unfold Shape.isScalar Shape.literalType? at isScalar
  split at isScalar
  next same => exact ⟨.bool, by rw [same, Schema.fieldOf?]⟩
  next width same => exact ⟨.int width, by rw [same, Schema.fieldOf?]⟩
  next width same => exact ⟨.uint width, by rw [same, Schema.fieldOf?]⟩
  next same => exact ⟨.float32, by rw [same, Schema.fieldOf?]⟩
  next same => exact ⟨.float64, by rw [same, Schema.fieldOf?]⟩
  next same => exact ⟨.string, by rw [same, Schema.fieldOf?]⟩
  next => cases isScalar

/-- A field is put under each of the names. -/
theorem of_mem_insertAll {field : Field} {names : List String} {schema : Schema}
    {entry : FieldName × Field} (inside : entry ∈ Schema.insertAll field names schema) :
    entry.2 = field ∨ entry ∈ schema := by
  induction names generalizing schema with
  | nil => exact .inr inside
  | cons name rest ih =>
    rcases ih inside with put | before
    · exact .inl put
    · exact (of_mem_insertEntry before).imp_left fun here => congrArg Prod.snd here

/-- Whatever stands in the level of a record describes one of its fields, or has been there before. -/
theorem of_mem_addMembers {fields : List (Member × Shape)} {schema : Schema}
    {entry : FieldName × Field} (inside : entry ∈ Schema.addMembers tag fields schema) :
    entry ∈ schema ∨ ∃ p ∈ fields, entry.2.Describes tag p.2 := by
  induction fields generalizing schema with
  | nil => exact .inl inside
  | cons head rest ih =>
    obtain ⟨member, shape⟩ := head
    have later {schema' : Schema} (inside : entry ∈ Schema.addMembers tag rest schema') :
        entry ∈ schema' ∨ ∃ p ∈ (member, shape) :: rest, entry.2.Describes tag p.2 := by
      refine (ih inside).imp_right ?_
      rintro ⟨p, there, describes⟩
      exact ⟨p, List.mem_cons_of_mem _ there, describes⟩
    simp only [Schema.addMembers] at inside
    split at inside
    next names plain _ derived =>
      rcases later inside with before | behind
      · refine (of_mem_insertAll before).symm.imp_right fun put => ?_
        exact ⟨(member, shape), List.mem_cons_self, plain, _, derived, put⟩
      · exact .inr behind
    next => exact later inside

namespace Field

/-- The name that a field is declared under says nothing about what is reached from it. -/
theorem Everywhere.named (derivable : Derivable P) {field : Field} (everywhere : field.Everywhere P)
    (name : Option String) : Everywhere P { field with declaredName := name } := by
  cases everywhere with
  | intro here index value fields => exact .intro (derivable.named name here) index value fields

theorem Derivable.everywhere_scalar (derivable : Derivable P) (type : LiteralType) :
    Everywhere P (.scalar type) :=
  .of_leaf (derivable.scalar type) rfl rfl rfl

theorem Derivable.everywhere_index (derivable : Derivable P) (type : LiteralType) (next : Field)
    (known : some (Field.scalar type) = some next) : next.Everywhere P := by
  cases known
  exact derivable.everywhere_scalar type

end Field

/-- Everywhere in the field that is derived from a shape without judges. -/
theorem everywhere_of_fieldOf? (derivable : Field.Derivable P) (free : shape.JudgeFree)
    {field : Field} (derived : Schema.fieldOf? tag shape = some field) : field.Everywhere P := by
  induction free generalizing field with
  | bool | int | uint | float32 | float64 | string =>
    rw [Schema.fieldOf?] at derived
    cases derived
    exact derivable.everywhere_scalar _
  | any | sealed =>
    rw [Schema.fieldOf?] at derived
    cases derived
  | optional _ ih =>
    rw [Schema.fieldOf?] at derived
    exact ih derived
  | @list element _ ih =>
    rw [Schema.fieldOf?] at derived
    cases derived
    have value (next : Field) : Schema.fieldOf? tag element = some next → next.Everywhere P := ih
    cases scalar : element.isScalar with
    | true =>
      obtain ⟨type, same⟩ : ∃ type, Schema.fieldOf? tag element = some (.scalar type) :=
        exists_scalar_of_isScalar scalar
      rw [same] at value ⊢
      exact .intro (derivable.scalars type) (derivable.everywhere_index _) value
        (List.forall_mem_nil _)
    | false =>
      refine .intro (derivable.list _) (derivable.everywhere_index _) value ?_
      intro entry inside
      cases below : Schema.fieldOf? tag element with
      | none =>
        rw [below] at inside
        cases inside
      | some next =>
        rw [below] at inside
        exact (Field.Everywhere.hereditary P).fields (ih below) entry inside
  | @map key value _ _ _ ih =>
    rw [Schema.fieldOf?] at derived
    split at derived
    next =>
      cases derived
      refine .intro (derivable.map _) (derivable.everywhere_index _) (fun next => ih) ?_
      intro entry inside
      cases below : Schema.fieldOf? tag value with
      | none =>
        rw [below] at inside
        cases inside
      | some next =>
        rw [below] at inside
        cases List.mem_singleton.mp inside
        exact ih below
    next =>
      cases derived
      exact .of_leaf derivable.closed rfl rfl rfl
  | @record name fields _ ih =>
    rw [Schema.fieldOf?] at derived
    cases derived
    refine .intro (derivable.record _) ?_ ?_ fun entry inside => ?_
    · intro next known
      cases known
    · intro next known
      cases known
    · rcases of_mem_addMembers inside with nothing | ⟨p, there, plain, declared, derived, same⟩
      · cases nothing
      · rw [same]
        exact (ih p there derived).named derivable declared

theorem Shape.JudgeFree.required_ne (free : shape.JudgeFree) (name : String) (schema : Schema) :
    shape.required ≠ .judge name schema := by
  induction free with
  | optional _ ih => exact ih
  | _ =>
    intro isJudge
    cases isJudge

/-- Everywhere in the schema of a shape without judges. -/
theorem everywhere_of_ofShape (derivable : Field.Derivable P) (free : shape.JudgeFree)
    {schema : Schema} (derived : Schema.ofShape tag shape = .ok schema) :
    ∀ entry ∈ schema, entry.2.Everywhere P := by
  obtain ⟨field, ⟨plain, name, same, rfl⟩, rfl, -⟩ := describes_of_ofShape free.required_ne derived
  have everywhere := (everywhere_of_fieldOf? derivable free same).named derivable name
  exact (Field.Everywhere.hereditary P).fields everywhere

end

end Sift
