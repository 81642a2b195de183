import Sift.Evaluation.Path
import Sift.Proofs.Lookup
import Sift.Proofs.Typing.Derivation

/-!
# Data of a shape

`Shape.Admits` states which data have a shape all the way down, and `Field.Describes` that a field
of a schema is the one derived from a shape. What ties them together is a single segment: if a
schema leads from a field to another one, the shapes do (`leads_of_field?`), and the data follow the
shapes (`Shape.Leads.admits`). The second half asks that the exposed names of a record are told
apart, since the schema keeps the last field under a name and a datum gives the first.
-/

namespace Sift

namespace Shape

/-- The data of a shape. An optional datum may be absent; whatever stands where no path looks into
is free. -/
inductive Admits : Shape → Datum → Prop
  | bool (b : Bool) : Admits .bool (.bool b)
  | int (width : Width) (n : Int64) : Admits (.int width) (.int n)
  | uint (width : Width) (n : UInt64) : Admits (.uint width) (.uint n)
  | float32 (x : Binary32) : Admits .float32 (.float32 x)
  | float64 (x : Binary64) : Admits .float64 (.float64 x)
  | string (s : String) : Admits .string (.string s)
  | absent (inner : Shape) : Admits (.optional inner) .null
  | present {inner : Shape} {d : Datum} : Admits inner d → Admits (.optional inner) d
  | list {element : Shape} {items : List Datum} : (∀ d ∈ items, Admits element d) →
    Admits (.list element) (.list items)
  | map {key value : Shape} {entries : List (String × Datum)} :
    (∀ p ∈ entries, Admits key (.string p.1)) → (∀ p ∈ entries, Admits value p.2) →
    Admits (.map key value) (.map entries)
  | pairs {key value : Shape} {entries : List (Datum × Datum)} :
    (∀ p ∈ entries, Admits key p.1) → (∀ p ∈ entries, Admits value p.2) →
    Admits (.map key value) (.pairs entries)
  | record {name : String} {fields : List (Member × Shape)} {values : List (Member × Datum)} :
    fields.map (·.1) = values.map (·.1) →
    (∀ p ∈ fields.zip values, Admits p.1.2 p.2.2) →
    Admits (.record name fields) (.record name values)
  | judge (name : String) (schema : Schema) (j : Judge) : Admits (.judge name schema) (.judge j)
  | any (d : Datum) : Admits .any d
  | sealed (name : String) (d : Datum) : Admits (.sealed name) d

/-- A datum that is there has the shape inside the optional ones. -/
theorem Admits.required {shape : Shape} {d : Datum} (admits : shape.Admits d) (there : d ≠ .null) :
    shape.required.Admits d := by
  induction admits with
  | absent => exact absurd rfl there
  | present _ ih => exact ih there
  | bool | int | uint | float32 | float64 | string | judge | any | sealed => constructor
  | list items => exact .list items
  | map keys values => exact .map keys values
  | pairs keys values => exact .pairs keys values
  | record names values => exact .record names values

end Shape

/-- A field is exposed under a name. -/
def Member.Exposes (tag : String) (m : Member) (name : String) : Prop :=
  ∃ names, m.exposure tag = .names names ∧ name ∈ names

namespace Shape

/-- There is no judge in a shape, and no two fields of a record are exposed under one name. -/
inductive Regular (tag : String) : Shape → Prop
  | bool : Regular tag .bool
  | int (width : Width) : Regular tag (.int width)
  | uint (width : Width) : Regular tag (.uint width)
  | float32 : Regular tag .float32
  | float64 : Regular tag .float64
  | string : Regular tag .string
  | list {element : Shape} : Regular tag element → Regular tag (.list element)
  | map {key value : Shape} : Regular tag key → Regular tag value → Regular tag (.map key value)
  | optional {inner : Shape} : Regular tag inner → Regular tag (.optional inner)
  | record {name : String} {fields : List (Member × Shape)} :
    (∀ p ∈ fields, Regular tag p.2) →
    fields.Pairwise (fun p q => ∀ name, p.1.Exposes tag name → ¬ q.1.Exposes tag name) →
    Regular tag (.record name fields)
  | any : Regular tag .any
  | sealed (name : String) : Regular tag (.sealed name)

/-- A segment leads from a shape to the one below it. -/
inductive Leads (tag segment : String) : Shape → Shape → Prop
  | map {key value : Shape} : key.isText = true → Leads tag segment (.map key value) value
  | record {name : String} {fields : List (Member × Shape)} {member : Member} {shape : Shape} :
    (member, shape) ∈ fields → member.Exposes tag segment →
    Leads tag segment (.record name fields) shape

/-- The shape that the segments behind a path are taken in: lists pass them on to their
elements. -/
def inside : Shape → Shape
  | optional inner => inner.inside
  | list element => element.inside
  | shape => shape

/-- An order with items that may be absent. -/
def sampleOrder : Shape :=
  record "Order" [({ name := "items" }, optional (list (record "Item"
    [({ name := "price" }, int .w64)])))]

end Shape

/-! ## Levels of a schema -/

namespace Schema

theorem lookup_insertAll (field : Field) (names : List String) (schema : Schema)
    (other : FieldName) :
    (insertAll field names schema).lookup other =
      if ∃ name ∈ names, other = .named name then some field else schema.lookup other := by
  induction names generalizing schema with
  | nil => simp [insertAll]
  | cons name rest ih =>
    have step : insertAll field (name :: rest) schema =
        insertAll field rest (insertEntry (.named name) field schema) := rfl
    rw [step, ih, lookup_insertEntry]
    by_cases later : ∃ name ∈ rest, other = .named name
    · rw [if_pos later, if_pos]
      obtain ⟨name', inside, same⟩ := later
      exact ⟨name', List.mem_cons_of_mem _ inside, same⟩
    · rw [if_neg later]
      by_cases here : other = .named name
      · rw [if_pos here, if_pos ⟨name, List.mem_cons_self, here⟩]
      · rw [if_neg here, if_neg]
        rintro ⟨name', inside, same⟩
        rcases List.mem_cons.mp inside with rfl | inside
        · exact here same
        · exact later ⟨name', inside, same⟩

end Schema

/-! ## Fields of shapes -/

/-- A field is the one derived from a shape, whatever name it is declared under. -/
def Field.Describes (tag : String) (field : Field) (shape : Shape) : Prop :=
  ∃ plain name, Schema.fieldOf? tag shape = some plain ∧ field = { plain with declaredName := name }

theorem Field.Describes.of_fieldOf? {tag : String} {shape : Shape} {field : Field}
    (derived : Schema.fieldOf? tag shape = some field) : field.Describes tag shape := by
  refine ⟨field, field.declaredName, derived, ?_⟩
  cases field
  rfl

/-- There is no other field for a shape than the one derived from it, but for the name. -/
theorem Field.Describes.exists_name {tag : String} {shape : Shape} {field plain : Field}
    (describes : field.Describes tag shape) (derived : Schema.fieldOf? tag shape = some plain) :
    ∃ name, field = { plain with declaredName := name } := by
  obtain ⟨plain', name, derived', rfl⟩ := describes
  cases derived.symm.trans derived'
  exact ⟨name, rfl⟩

/-- What may be absent is described like what it is if it is not. -/
theorem Field.Describes.inner {tag : String} {inner : Shape} {field : Field}
    (describes : field.Describes tag (.optional inner)) : field.Describes tag inner := by
  obtain ⟨plain, name, derived, same⟩ := describes
  rw [Schema.fieldOf?] at derived
  exact ⟨plain, name, derived, same⟩

/-- Nothing describes what no path looks into. -/
theorem Field.Describes.ne_none {tag : String} {shape : Shape} {field : Field}
    (describes : field.Describes tag shape) : Schema.fieldOf? tag shape ≠ none := by
  obtain ⟨plain, name, derived, -⟩ := describes
  intro unknown
  cases unknown.symm.trans derived

namespace Schema

variable {tag : String}

/-- What stands in the level of a record comes from one of its fields, or has been there before. -/
theorem of_lookup_addMembers {fields : List (Member × Shape)} {schema : Schema} {name : FieldName}
    {field : Field} (found : (addMembers tag fields schema).lookup name = some field) :
    schema.lookup name = some field ∨ ∃ p ∈ fields, ∃ segment, name = .named segment ∧
      p.1.Exposes tag segment ∧ field.Describes tag p.2 := by
  induction fields generalizing schema with
  | nil => exact .inl found
  | cons head rest ih =>
    obtain ⟨member, shape⟩ := head
    have later {schema' : Schema} (found : (addMembers tag rest schema').lookup name = some field) :
        schema'.lookup name = some field ∨ ∃ p ∈ (member, shape) :: rest, ∃ segment,
          name = .named segment ∧ p.1.Exposes tag segment ∧ field.Describes tag p.2 := by
      rcases ih found with before | ⟨p, inside, rest⟩
      · exact .inl before
      · exact .inr ⟨p, List.mem_cons_of_mem _ inside, rest⟩
    simp only [addMembers] at found
    split at found
    next names plain exposure derived =>
      rcases later found with before | behind
      · rw [lookup_insertAll] at before
        split at before
        next claimed =>
          obtain ⟨segment, inside, rfl⟩ := claimed
          cases before
          exact .inr ⟨(member, shape), List.mem_cons_self, segment, rfl, ⟨names, exposure, inside⟩,
            plain, _, derived, rfl⟩
        next => exact .inl before
      · exact .inr behind
    next => exact later found

/-- There is no wildcard in the level of a record. -/
theorem field?_addMembers {fields : List (Member × Shape)} {segment : String} {field : Field}
    (found : field? (addMembers tag fields []) segment = some field) :
    ∃ p ∈ fields, p.1.Exposes tag segment ∧ field.Describes tag p.2 := by
  simp only [field?, get?, Option.or_eq_some_iff] at found
  rcases found with named | ⟨-, wildcard⟩
  · rcases of_lookup_addMembers named with nothing | ⟨p, inside, segment', same, rest⟩
    · cases nothing
    · cases same
      exact ⟨p, inside, rest⟩
  · rcases of_lookup_addMembers wildcard with nothing | ⟨p, inside, segment', same, rest⟩
    · cases nothing
    · cases same

end Schema

/-! ## One segment -/

namespace Shape

variable {tag segment : String}

/-- Where a schema leads on, so does the shape it was derived from. -/
theorem leads_of_fieldOf? {shape : Shape} (regular : shape.Regular tag) {field next : Field}
    (derived : Schema.fieldOf? tag shape = some field)
    (step : Schema.field? field.fields segment = some next) :
    ∃ child, shape.inside.Leads tag segment child ∧ next.Describes tag child := by
  induction regular generalizing field with
  | bool | int | uint | float32 | float64 | string =>
    simp only [Schema.fieldOf?, Option.some.injEq] at derived
    subst derived
    cases step
  | any | sealed =>
    simp only [Schema.fieldOf?] at derived
    cases derived
  | optional _ ih =>
    rw [Schema.fieldOf?] at derived
    exact ih derived step
  | @list element _ ih =>
    simp only [Schema.fieldOf?, Option.some.injEq] at derived
    subst derived
    unfold Field.ofElement at step
    split at step
    · cases step
    · cases elementField : Schema.fieldOf? tag element with
      | none =>
        rw [elementField] at step
        cases step
      | some plain =>
        rw [elementField] at step
        exact ih elementField step
  | @map key value _ _ _ _ =>
    simp only [Schema.fieldOf?] at derived
    split at derived
    next text =>
      cases derived
      cases valueField : Schema.fieldOf? tag value with
      | none =>
        rw [valueField] at step
        cases step
      | some plain =>
        rw [valueField] at step
        cases step
        exact ⟨value, .map text, .of_fieldOf? valueField⟩
    next =>
      cases derived
      cases step
  | @record name fields _ _ _ =>
    simp only [Schema.fieldOf?, Option.some.injEq] at derived
    subst derived
    obtain ⟨⟨member, shape⟩, inside, exposes, describes⟩ := Schema.field?_addMembers step
    exact ⟨shape, .record inside exposes, describes⟩

theorem leads_of_field? {shape : Shape} (regular : shape.Regular tag) {field next : Field}
    (describes : field.Describes tag shape)
    (step : Schema.field? field.fields segment = some next) :
    ∃ child, shape.inside.Leads tag segment child ∧ next.Describes tag child := by
  obtain ⟨plain, name, derived, rfl⟩ := describes
  exact leads_of_fieldOf? regular derived step

/-- Of fields told apart by their names, a datum gives the value of the one that claims it. -/
theorem admits_of_field? {fields : List (Member × Shape)} {values : List (Member × Datum)}
    (names : fields.map (·.1) = values.map (·.1))
    (admits : ∀ p ∈ fields.zip values, p.1.2.Admits p.2.2)
    (apart : fields.Pairwise fun p q => ∀ name, p.1.Exposes tag name → ¬ q.1.Exposes tag name)
    {member : Member} {shape : Shape} (inside : (member, shape) ∈ fields)
    (exposes : member.Exposes tag segment) {found : Datum}
    (step : Datum.field? tag segment values = .ok found) : shape.Admits found := by
  induction fields generalizing values with
  | nil => cases inside
  | cons head rest ih =>
    obtain ⟨headMember, headShape⟩ := head
    rcases values with - | ⟨⟨valueMember, value⟩, others⟩
    · cases names
    · obtain ⟨rfl, restNames⟩ := List.cons_eq_cons.mp names
      obtain ⟨headApart, restApart⟩ := List.pairwise_cons.mp apart
      rw [List.zip_cons_cons, List.forall_mem_cons] at admits
      have later (step : Datum.field? tag segment others = .ok found)
          (hidden : ¬ headMember.Exposes tag segment) : shape.Admits found := by
        rcases List.mem_cons.mp inside with same | inside
        · cases same
          exact absurd exposes hidden
        · exact ih restNames admits.2 restApart inside step
      simp only [Datum.field?] at step
      split at step
      next exposure => exact later step fun ⟨_, named, _⟩ => by rw [exposure] at named; cases named
      next exposure =>
        split at step
        · cases step
        · exact later step fun ⟨_, named, _⟩ => by rw [exposure] at named; cases named
      next exposed exposure =>
        split at step
        next claimed =>
          cases step
          have headExposes : headMember.Exposes tag segment :=
            ⟨exposed, exposure, List.contains_iff_mem.mp claimed⟩
          rcases List.mem_cons.mp inside with same | inside
          · cases same
            exact admits.1
          · exact absurd exposes (headApart _ inside segment headExposes)
        next unclaimed =>
          refine later step fun ⟨names', named, mine⟩ => unclaimed ?_
          rw [exposure] at named
          cases named
          exact List.contains_iff_mem.mpr mine

/-- A part of a datum has the shape that the segment leads to. -/
theorem Leads.admits {shape child : Shape} (leads : shape.Leads tag segment child)
    (regular : shape.Regular tag) {d found : Datum} (admits : shape.Admits d)
    (step : d.part? tag segment = .ok found) : child.Admits found := by
  cases leads with
  | map text =>
    cases admits with
    | map keys values =>
      simp only [Datum.part?] at step
      split at step
      next here =>
        cases step
        exact values _ (mem_of_lookup here)
      next => cases step
    | pairs keys values =>
      simp only [Datum.part?] at step
      split at step
      next here =>
        cases step
        exact values _ (List.mem_of_find?_eq_some here)
      next => cases step
  | record inside exposes =>
    cases admits with
    | record names values =>
      cases regular with
      | record _ apart => exact admits_of_field? names values apart inside exposes step

end Shape

end Sift
