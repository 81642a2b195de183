import Mathlib
import Sift.Proofs.Checking.Renaming
import Sift.Proofs.Typing.ExposedNames
import Sift.Proofs.Typing.NestedLists

/-!
# Wider shapes

A host type may be given more fields. `Shape.Widens` relates its shape to the one with further fields
in any of its records, as long as they take none of the names that the others are exposed under. What a
schema has under a path it still has then, with the same literals, operators and collections
(`Shape.Widens.step`, `Shape.Widens.uses`), though there may be more below it. So an expression that
checks under the schema checks under the wider one, and nothing else comes out (`checkIn_widens`).
-/

namespace Sift

/-- A list with further entries put in anywhere. -/
inductive Inserted {α : Type} (new : α → Prop) : List α → List α → Prop
  | nil : Inserted new [] []
  | kept (a : α) {old more : List α} : Inserted new old more → Inserted new (a :: old) (a :: more)
  | added {a : α} {old more : List α} : new a → Inserted new old more → Inserted new old (a :: more)

namespace Inserted

variable {α : Type} {new : α → Prop} {old more : List α}

theorem subset (inserted : Inserted new old more) : old ⊆ more := by
  induction inserted with
  | nil => exact fun _ inside => inside
  | kept a _ ih => exact List.cons_subset_cons a ih
  | added _ _ ih => exact List.subset_cons_of_subset _ ih

theorem old_or_new (inserted : Inserted new old more) {a : α} (inside : a ∈ more) :
    a ∈ old ∨ new a := by
  induction inserted with
  | nil => cases inside
  | kept b _ ih =>
    rcases List.mem_cons.mp inside with rfl | later
    · exact .inl List.mem_cons_self
    · exact (ih later).imp_left (List.mem_cons_of_mem b)
  | added isNew _ ih =>
    rcases List.mem_cons.mp inside with rfl | later
    · exact .inr isNew
    · exact ih later

theorem refl : ∀ list : List α, Inserted new list list
  | [] => .nil
  | a :: list => .kept a (refl list)

end Inserted

/-- A field leaves others the names that they are exposed under. -/
def Member.Spares (tag : String) (m : Member) (others : List Member) : Prop :=
  ∀ other ∈ others, ∀ name, other.Exposes tag name → ¬ m.Claims tag name

/-- A public field without tags spares the names of others if its own name is new. -/
theorem Member.spares_of_new {tag : String} {m : Member} {others : List Member}
    (isPublic : m.isPrivate = false) (untagged : m.tags = [])
    (new : ∀ other ∈ others, ¬ other.Exposes tag m.name) : m.Spares tag others := by
  have exposure : m.exposure tag = .names [m.name] := by
    simp [exposure, directive?, isPublic, untagged]
  rintro other inside name exposes (⟨names, same, here⟩ | ⟨ignored, -⟩)
  · rw [exposure] at same
    cases same
    obtain rfl := List.mem_singleton.mp here
    exact new other inside exposes
  · rw [exposure] at ignored
    cases ignored

namespace Shape

/-- A shape and the same one with further fields in its records. -/
inductive Widens (tag : String) : Shape → Shape → Prop
  | bool : Widens tag .bool .bool
  | int (width : Width) : Widens tag (.int width) (.int width)
  | uint (width : Width) : Widens tag (.uint width) (.uint width)
  | float32 : Widens tag .float32 .float32
  | float64 : Widens tag .float64 .float64
  | string : Widens tag .string .string
  | list {element element' : Shape} : Widens tag element element' →
    Widens tag (.list element) (.list element')
  | map {key key' value value' : Shape} : Widens tag key key' → Widens tag value value' →
    Widens tag (.map key value) (.map key' value')
  | optional {inner inner' : Shape} : Widens tag inner inner' →
    Widens tag (.optional inner) (.optional inner')
  | record {name : String} {kept : List (Member × Shape × Shape)} {fields : List (Member × Shape)} :
    (∀ p ∈ kept, Widens tag p.2.1 p.2.2) →
    Inserted (fun p => p.1.Spares tag (kept.map (·.1))) (kept.map fun p => (p.1, p.2.2)) fields →
    Widens tag (.record name (kept.map fun p => (p.1, p.2.1))) (.record name fields)
  | any : Widens tag .any .any
  | sealed (name : String) : Widens tag (.sealed name) (.sealed name)

variable {tag : String} {shape shape' : Shape}

theorem Widens.required (widens : shape.Widens tag shape') :
    shape.required.Widens tag shape'.required := by
  induction widens with
  | optional _ ih => exact ih
  | list element _ => exact .list element
  | map key value _ _ => exact .map key value
  | record kept inserted _ => exact .record kept inserted
  | bool | int | uint | float32 | float64 | string | any | sealed => constructor

theorem Widens.literalType?_eq (widens : shape.Widens tag shape') :
    shape'.literalType? = shape.literalType? := by
  have inner := widens.required
  unfold literalType?
  generalize shape.required = required, shape'.required = required' at inner
  cases inner <;> rfl

/-- There are no judges in either. -/
theorem Widens.ne_judge (widens : shape.Widens tag shape') :
    (∀ name level, shape ≠ .judge name level) ∧ ∀ name level, shape' ≠ .judge name level := by
  cases widens <;> exact ⟨nofun, nofun⟩

theorem Widens.isScalar_eq (widens : shape.Widens tag shape') : shape'.isScalar = shape.isScalar := by
  rw [isScalar, isScalar, widens.literalType?_eq]

theorem Widens.isText_eq (widens : shape.Widens tag shape') : shape'.isText = shape.isText := by
  rw [isText, isText, widens.literalType?_eq]

/-- A path looks into the wider shape exactly if it looks into the other one. -/
theorem Widens.fieldOf?_eq_none (widens : shape.Widens tag shape') :
    Schema.fieldOf? tag shape' = none ↔ Schema.fieldOf? tag shape = none := by
  induction widens with
  | optional _ ih =>
    rw [Schema.fieldOf?, Schema.fieldOf?]
    exact ih
  | map key value _ _ =>
    simp only [Schema.fieldOf?]
    rw [key.isText_eq]
    split <;> simp
  | _ => simp [Schema.fieldOf?]

end Shape

/-! ## Fields -/

/-- The fields of a shape and of a wider one. -/
def Field.Widens (tag : String) (field field' : Field) : Prop :=
  ∃ shape shape' : Shape, shape.Regular tag ∧ shape.Widens tag shape' ∧
    field.Describes tag shape ∧ field'.Describes tag shape'

section

variable {tag segment : String} {shape shape' : Shape} {field field' next : Field}

theorem rel_fieldOf? (regular : shape.Regular tag) (widens : shape.Widens tag shape') :
    Option.Rel (Field.Widens tag) (Schema.fieldOf? tag shape) (Schema.fieldOf? tag shape') := by
  cases derived : Schema.fieldOf? tag shape with
  | none =>
    rw [widens.fieldOf?_eq_none.mpr derived]
    exact .none
  | some field =>
    cases derived' : Schema.fieldOf? tag shape' with
    | none => exact absurd (widens.fieldOf?_eq_none.mp derived') (by simp [derived])
    | some field' =>
      exact .some ⟨shape, shape', regular, widens, .of_fieldOf? derived, .of_fieldOf? derived'⟩

/-- What may be done with the data of a field is what may be done with those of another one. -/
structure Field.SameUse (tag : String) (field field' : Field) : Prop where
  literalType : field'.literalType = field.literalType
  operators : field'.operators = field.operators
  collection : field'.collection = field.collection
  index : Option.Rel (Field.Widens tag) field.index field'.index
  value : Option.Rel (Field.Widens tag) field.value field'.value

theorem widens_scalar_int : (Field.scalar (.int .w64)).Widens tag (.scalar (.int .w64)) :=
  have derived : Schema.fieldOf? tag (.int .w64) = some (.scalar (.int .w64)) := by
    rw [Schema.fieldOf?]
  ⟨_, _, .int .w64, .int .w64, .of_fieldOf? derived, .of_fieldOf? derived⟩

theorem widens_scalar_string : (Field.scalar .string).Widens tag (.scalar .string) :=
  have derived : Schema.fieldOf? tag .string = some (.scalar .string) := by rw [Schema.fieldOf?]
  ⟨_, _, .string, .string, .of_fieldOf? derived, .of_fieldOf? derived⟩

theorem Shape.Widens.uses (widens : shape.Widens tag shape') (regular : shape.Regular tag)
    (describes : field.Describes tag shape) (describes' : field'.Describes tag shape') :
    field.SameUse tag field' := by
  induction widens generalizing field field' with
  | bool | int | uint | float32 | float64 | string | record =>
    obtain ⟨name, rfl⟩ := describes.exists_name (by rw [Schema.fieldOf?])
    obtain ⟨name', rfl⟩ := describes'.exists_name (by rw [Schema.fieldOf?])
    exact ⟨rfl, rfl, rfl, .none, .none⟩
  | any | sealed => exact absurd (by rw [Schema.fieldOf?]) describes.ne_none
  | optional _ ih =>
    cases regular with
    | optional regular => exact ih regular describes.inner describes'.inner
  | @list element element' widens ih =>
    cases regular with
    | list regular =>
      obtain ⟨name, rfl⟩ := describes.exists_name (by rw [Schema.fieldOf?])
      obtain ⟨name', rfl⟩ := describes'.exists_name (by rw [Schema.fieldOf?])
      have elements := rel_fieldOf? regular widens
      rw [widens.isScalar_eq]
      unfold Field.ofElement
      split
      next =>
        refine ⟨?_, rfl, rfl, .some widens_scalar_int, elements⟩
        cases derived : Schema.fieldOf? tag element with
        | none =>
          rw [widens.fieldOf?_eq_none.mpr derived]
        | some plain =>
          rw [derived] at elements
          generalize derived' : Schema.fieldOf? tag element' = plain' at elements
          cases elements
          exact (ih regular (.of_fieldOf? derived) (.of_fieldOf? derived')).literalType
      next => exact ⟨rfl, rfl, rfl, .some widens_scalar_int, elements⟩
  | @map key key' value value' keyWidens valueWidens _ _ =>
    cases regular with
    | map _ regular =>
      obtain ⟨plain, name, derived, rfl⟩ := describes
      obtain ⟨plain', name', derived', rfl⟩ := describes'
      simp only [Schema.fieldOf?] at derived derived'
      rw [keyWidens.isText_eq] at derived'
      split at derived
      next text =>
        rw [if_pos text] at derived'
        cases derived
        cases derived'
        exact ⟨rfl, rfl, rfl, .some widens_scalar_string, rel_fieldOf? regular valueWidens⟩
      next other =>
        rw [if_neg other] at derived'
        cases derived
        cases derived'
        exact ⟨rfl, rfl, rfl, .none, .none⟩

/-- What a record has under a name it has with further fields as well. -/
theorem step_addMembers {kept : List (Member × Shape × Shape)} {fields : List (Member × Shape)}
    (regular : ∀ p ∈ kept, p.2.1.Regular tag)
    (apart : kept.Pairwise fun p q => ∀ name, p.1.Exposes tag name → ¬ q.1.Exposes tag name)
    (widens : ∀ p ∈ kept, p.2.1.Widens tag p.2.2)
    (inserted : Inserted (fun p => p.1.Spares tag (kept.map (·.1)))
      (kept.map fun p => (p.1, p.2.2)) fields)
    (step : (Schema.addMembers tag (kept.map fun p => (p.1, p.2.1)) []).field? segment = some next) :
    ∃ next', (Schema.addMembers tag fields []).field? segment = some next' ∧
      next.Widens tag next' := by
  obtain ⟨_, inside, exposes, describes⟩ := Schema.field?_addMembers step
  obtain ⟨p, there, rfl⟩ := List.mem_map.mp inside
  have known : Schema.fieldOf? tag p.2.2 ≠ none :=
    mt (widens p there).fieldOf?_eq_none.mp describes.ne_none
  have found : (Schema.addMembers tag fields []).lookup (.named segment) ≠ none :=
    lookup_addMembers_of_exposes (inserted.subset (List.mem_map_of_mem there)) exposes known
  obtain ⟨next', found⟩ := Option.ne_none_iff_exists'.mp found
  have reached : (Schema.addMembers tag fields []).field? segment = some next' := by
    rw [Schema.field?, Schema.get?, found, Option.some_or]
  obtain ⟨entry, inside', exposes', describes'⟩ := Schema.field?_addMembers reached
  -- of several fields under the name the schema would have the last one, be it an old one or not
  have same : entry = (p.1, p.2.2) := by
    rcases inserted.old_or_new inside' with old | spares
    · obtain ⟨q, also, rfl⟩ := List.mem_map.mp old
      rw [eq_of_exposes apart there also exposes exposes']
    · exact absurd (.inl exposes') (spares _ (List.mem_map_of_mem there) segment exposes)
  subst same
  exact ⟨next', reached, p.2.1, p.2.2, regular p there, widens p there, describes, describes'⟩

/-- Where a schema leads on, it does for a wider shape. -/
theorem Shape.Widens.step (widens : shape.Widens tag shape') (regular : shape.Regular tag)
    (describes : field.Describes tag shape) (describes' : field'.Describes tag shape')
    (step : Schema.field? field.fields segment = some next) :
    ∃ next', Schema.field? field'.fields segment = some next' ∧ next.Widens tag next' := by
  induction widens generalizing field field' with
  | bool | int | uint | float32 | float64 | string =>
    obtain ⟨name, rfl⟩ := describes.exists_name (by rw [Schema.fieldOf?])
    cases step
  | any | sealed => exact absurd (by rw [Schema.fieldOf?]) describes.ne_none
  | optional _ ih =>
    cases regular with
    | optional regular => exact ih regular describes.inner describes'.inner step
  | @list element element' widens ih =>
    cases regular with
    | list regular =>
      obtain ⟨name, rfl⟩ := describes.exists_name (by rw [Schema.fieldOf?])
      obtain ⟨name', rfl⟩ := describes'.exists_name (by rw [Schema.fieldOf?])
      rw [widens.isScalar_eq]
      unfold Field.ofElement at step ⊢
      split at step
      next => cases step
      next notScalar =>
        rw [if_neg notScalar]
        cases derived : Schema.fieldOf? tag element with
        | none =>
          rw [derived] at step
          cases step
        | some plain =>
          have known := mt widens.fieldOf?_eq_none.mp (derived ▸ Option.some_ne_none plain)
          obtain ⟨plain', derived'⟩ := Option.ne_none_iff_exists'.mp known
          rw [derived] at step
          rw [derived']
          have below := ih regular (.of_fieldOf? derived) (.of_fieldOf? derived') step
          exact below
  | @map key key' value value' keyWidens valueWidens _ _ =>
    cases regular with
    | map _ regular =>
      obtain ⟨plain, name, derived, rfl⟩ := describes
      obtain ⟨plain', name', derived', rfl⟩ := describes'
      simp only [Schema.fieldOf?] at derived derived'
      rw [keyWidens.isText_eq] at derived'
      split at derived
      next text =>
        rw [if_pos text] at derived'
        cases derived
        cases derived'
        have values := rel_fieldOf? regular valueWidens
        generalize Schema.fieldOf? tag value = below, Schema.fieldOf? tag value' = below'
          at values step ⊢
        cases values with
        | none => cases step
        | some widens =>
          cases step
          exact ⟨_, rfl, widens⟩
      next =>
        cases derived
        cases step
  | record widens inserted _ =>
    cases regular with
    | record regular apart =>
      obtain ⟨name, rfl⟩ := describes.exists_name (by rw [Schema.fieldOf?])
      obtain ⟨name', rfl⟩ := describes'.exists_name (by rw [Schema.fieldOf?])
      exact step_addMembers (fun p inside => regular _ (List.mem_map_of_mem inside))
        (List.pairwise_map.mp apart) widens inserted step

theorem Field.Widens.uses (widens : field.Widens tag field') : field.SameUse tag field' := by
  obtain ⟨shape, shape', regular, wider, describes, describes'⟩ := widens
  exact wider.uses regular describes describes'

theorem Field.Widens.step (widens : field.Widens tag field')
    (step : Schema.field? field.fields segment = some next) :
    ∃ next', Schema.field? field'.fields segment = some next' ∧ next.Widens tag next' := by
  obtain ⟨shape, shape', regular, wider, describes, describes'⟩ := widens
  exact wider.step regular describes describes' step

end

/-! ## Checking -/

/-- A schema with further entries, at the top and below it. -/
def Schema.Widens (tag : String) (schema schema' : Schema) : Prop :=
  ∀ segment field, schema.field? segment = some field →
    ∃ field', schema'.field? segment = some field' ∧ field.Widens tag field'

/-- The same names are known, with fields of wider shapes. -/
abbrev Scope.Widens (tag : String) : Scope → Scope → Prop :=
  List.Forall₂ fun entry entry' => entry.1 = entry'.1 ∧ entry.2.Widens tag entry'.2

section

variable {patterns : PatternEngine} {tag : String} {schema schema' : Schema} {scope scope' : Scope}
  {field field' : Field}

theorem follow_widens (widens : field.Widens tag field') {path : List String} {route : Route}
    (followed : field.follow path = .ok route) :
    ∃ goal, field'.follow path = .ok { route with field := goal } ∧
      route.field.Widens tag goal := by
  induction path generalizing field field' route with
  | nil =>
    cases followed
    exact ⟨field', rfl, widens⟩
  | cons segment rest ih =>
    obtain ⟨next, below, step, behind, cut⟩ := of_follow_cons followed
    obtain ⟨next', step', widensNext⟩ := widens.step step
    obtain ⟨goal, behind', widensGoal⟩ := ih widensNext behind
    have collection := widens.uses.collection
    refine ⟨goal, ?_, ?_⟩
    · simp only [Field.follow, step', behind', collection]
      rcases cut with ⟨isList, rfl⟩ | ⟨other, rfl⟩
      · rw [if_pos isList]
      · rw [if_neg other]
    · rcases cut with ⟨-, rfl⟩ | ⟨-, rfl⟩ <;> exact widensGoal

theorem Scope.Widens.lookup (widens : scope.Widens tag scope') (name : String) :
    Option.Rel (Field.Widens tag) (scope.lookup name) (scope'.lookup name) := by
  induction widens with
  | nil => exact .none
  | @cons entry entry' _ _ first _ ih =>
    obtain ⟨known, field⟩ := entry
    obtain ⟨known', field'⟩ := entry'
    obtain ⟨rfl, widens⟩ := first
    rw [lookup_cons_if, lookup_cons_if]
    split
    · exact .some widens
    · exact ih

theorem start?_widens (widens : schema.Widens tag schema') (scopes : scope.Widens tag scope')
    {segment : String} (start : schema.start? scope segment = some field) :
    ∃ field', schema'.start? scope' segment = some field' ∧ field.Widens tag field' := by
  have known := scopes.lookup segment
  unfold Schema.start? at start ⊢
  generalize scope.lookup segment = bound, scope'.lookup segment = bound' at known start ⊢
  cases known with
  | none => exact widens segment field start
  | some widensBound =>
    cases start
    exact ⟨_, rfl, widensBound⟩

/-- A selector takes the same route. -/
theorem route_widens (widens : schema.Widens tag schema') (scopes : scope.Widens tag scope')
    {selector : Selector} {route : Route} (routed : schema.route scope selector = .ok route) :
    ∃ goal, schema'.route scope' selector = .ok { route with field := goal } ∧
      route.field.Widens tag goal := by
  obtain ⟨first, rest, field, below, path, start, followed, rfl⟩ := of_route routed
  obtain ⟨field', start', widensStart⟩ := start?_widens widens scopes start
  obtain ⟨goal, followed', widensGoal⟩ := follow_widens widensStart followed
  refine ⟨goal, ?_, widensGoal⟩
  simp only [Schema.route, path, start', followed']

theorem checkLiteral_widens (widens : field.Widens tag field') :
    checkLiteral patterns field' = checkLiteral patterns field := by
  funext selector operator raw
  unfold checkLiteral
  rw [widens.uses.literalType]

/-- What is known of the parts of a collection. -/
theorem fields_widens (widens : field.Widens tag field') (binding : Binding) :
    (binding.fields field).Widens tag (binding.fields field') := by
  obtain ⟨-, -, collection, index, value⟩ := widens.uses
  have one (name : String) {known known' : Option Field}
      (related : Option.Rel (Field.Widens tag) known known') :
      Scope.Widens tag (known.map fun field => (name, field)).toList
        (known'.map fun field => (name, field)).toList := by
    cases related with
    | none => exact .nil
    | some widens => exact .cons ⟨rfl, widens⟩ .nil
  cases binding with
  | each name =>
    refine one name ?_
    rw [collection]
    split
    · exact index
    · exact value
  | index name => exact one name index
  | value name => exact one name value
  | both i v => exact List.rel_append (one i index) (one v value)

/-- An expression that checks under a schema checks under a wider one, to the same. -/
theorem checkedIn_widens (widens : schema.Widens tag schema') {limits : Limits} {e : Expr String}
    (scopes : scope.Widens tag scope') {checked : CheckedExpr}
    (checks : (checkedIn patterns limits (some schema) scope e).outcome = .ok checked) :
    (checkedIn patterns limits (some schema') scope' e).outcome = .ok checked := by
  rw [← Traced.result?_eq_some]
  induction e generalizing scope scope' checked with
  | test selector operator literal =>
    obtain ⟨route, checkedLiteral, routed, supported, literals, rfl⟩ :=
      of_checkTest (of_checkedIn_test checks)
    obtain ⟨goal, routed', widensGoal⟩ := route_widens widens scopes routed
    rw [← Traced.result?_eq_some, result?_checkedIn_test] at checks
    obtain ⟨_, formed, -⟩ := Option.bind_eq_some_iff.mp checks
    have supported' : goal.supports operator = true := by
      rw [Field.supports, widensGoal.uses.operators]
      exact supported
    rw [result?_checkedIn_test, formed, routed', Option.bind_some, toOption_ok, Option.bind_some,
      if_pos supported', checkLiteral_widens widensGoal, literals]
    rfl
  | not operand ih =>
    obtain ⟨inner, innerChecks, rfl⟩ := of_checkedIn_not checks
    rw [result?_checkedIn_not, ih scopes innerChecks, Option.map_some]
  | and left right ihLeft ihRight =>
    obtain ⟨left', right', leftChecks, rightChecks, rfl⟩ := of_checkedIn_and checks
    rw [result?_checkedIn_and, ihLeft scopes leftChecks, ihRight scopes rightChecks]
    rfl
  | or left right ihLeft ihRight =>
    obtain ⟨left', right', leftChecks, rightChecks, rfl⟩ := of_checkedIn_or checks
    rw [result?_checkedIn_or, ihLeft scopes leftChecks, ihRight scopes rightChecks]
    rfl
  | quantified quantifier selector binding body ih =>
    obtain ⟨route, inner, routed, isCollection, innerChecks, rfl⟩ := of_checkedIn_quantified checks
    obtain ⟨goal, routed', widensGoal⟩ := route_widens widens scopes routed
    have isCollection' : goal.collection ≠ none := by
      rw [widensGoal.uses.collection]
      exact isCollection
    have inside := List.rel_append (fields_widens widensGoal binding) scopes
    rw [result?_checkedIn_quantified, routed', toOption_ok, Option.bind_some, if_neg isCollection',
      ih inside innerChecks, Option.map_some]

/-- A schema that is not empty leads somewhere. -/
theorem exists_field?_of_ne_nil (filled : schema ≠ []) :
    ∃ segment, schema.field? segment ≠ none := by
  obtain ⟨⟨name, field⟩, rest, rfl⟩ := List.exists_cons_of_ne_nil filled
  cases name with
  | named name =>
    refine ⟨name, ?_⟩
    simp [Schema.field?, Schema.get?, List.lookup_cons]
  | wildcard =>
    refine ⟨"", ?_⟩
    simp [Schema.field?, Schema.get?, List.lookup_cons]

theorem Schema.Widens.ne_nil (widens : schema.Widens tag schema') (filled : schema ≠ []) :
    schema' ≠ [] := by
  rintro rfl
  obtain ⟨segment, there⟩ := exists_field?_of_ne_nil filled
  obtain ⟨field, found⟩ := Option.ne_none_iff_exists'.mp there
  obtain ⟨field', nothing, -⟩ := widens segment field found
  cases nothing

/-- An expression that checks under a schema, if it is not empty, checks under a wider one. -/
theorem check_widens (widens : schema.Widens tag schema') (filled : schema ≠ []) {limits : Limits}
    {e : Expr String} {checked : CheckedExpr} {tests : Nat}
    (checks : (check patterns limits (some schema) e).outcome = .ok (checked, tests)) :
    (check patterns limits (some schema') e).outcome = .ok (checked, tests) := by
  rw [← Traced.result?_eq_some, result?_check filled] at checks
  rw [← Traced.result?_eq_some, result?_check (widens.ne_nil filled)]
  obtain ⟨checked', inner, counted⟩ := Option.bind_eq_some_iff.mp checks
  have inner' := checkedIn_widens widens .nil (Traced.result?_eq_some.mp inner)
  rw [Traced.result?_eq_some.mpr inner', Option.bind_some]
  exact counted

end

/-! ## Schemas -/

/-- The schema of a wider shape is a wider one. -/
theorem exists_ofShape_widens {tag : String} {shape shape' : Shape} (regular : shape.Regular tag)
    (widens : shape.Widens tag shape') {schema : Schema}
    (derived : Schema.ofShape tag shape = .ok schema) :
    ∃ schema', Schema.ofShape tag shape' = .ok schema' ∧ schema.Widens tag schema' := by
  have wider := widens.required
  obtain ⟨schema', derived'⟩ : ∃ schema', Schema.ofShape tag shape' = .ok schema' := by
    rw [Schema.ofShape_eq] at derived ⊢
    generalize shape.required = required, shape'.required = required' at wider derived ⊢
    cases wider with
    | record => exact ⟨_, rfl⟩
    | map key _ =>
      dsimp only at derived ⊢
      rw [key.isText_eq]
      split at derived
      next text =>
        rw [if_pos text]
        exact ⟨_, rfl⟩
      next => cases derived
    | _ => cases derived
  obtain ⟨noJudge, noJudge'⟩ := wider.ne_judge
  obtain ⟨field, describes, rfl, -⟩ := describes_of_ofShape noJudge derived
  obtain ⟨field', describes', rfl, -⟩ := describes_of_ofShape noJudge' derived'
  exact ⟨_, derived', fun segment next step => widens.step regular describes describes' step⟩

end Sift
