import Sift.Proofs.Flattening
import Sift.Proofs.Typing.Scopes

/-!
# Plain shapes

Plain shapes are what a schema knows all of: there is a field for everything below them, and data
of the shape hold no surprises. Where a schema leads there is a part or nothing
(`find?_isSome_of_plain`), and a test that the field of a shape supports, with a literal that was
read for the field, has an answer for every datum of the shape (`run_of_describes`).
-/

namespace Sift

namespace Shape

/-- Scalars, maps under texts, records of public fields with names of their own, lists of anything
but lists, and all of these where they may be absent. -/
inductive Plain : Shape → Prop
  | bool : Plain .bool
  | int (width : Width) : Plain (.int width)
  | uint (width : Width) : Plain (.uint width)
  | float32 : Plain .float32
  | float64 : Plain .float64
  | string : Plain .string
  | optional {inner : Shape} : Plain inner → Plain (.optional inner)
  | list {element : Shape} : Plain element → (∀ inner, element.required ≠ .list inner) →
    Plain (.list element)
  | map {value : Shape} : Plain value → Plain (.map .string value)
  | record {name : String} {fields : List (Member × Shape)} :
    (∀ p ∈ fields, p.1.isPrivate = false ∧ p.1.tags = []) → (fields.map (·.1.name)).Nodup →
    (∀ p ∈ fields, Plain p.2) → Plain (.record name fields)

end Shape

section

variable {tag : String} {shape child : Shape}

/-- A public field without tags goes by its own name. -/
theorem exposure_of_untagged {m : Member} (shown : m.isPrivate = false ∧ m.tags = []) :
    m.exposure tag = .names [m.name] := by
  simp [Member.exposure, Member.directive?, shown.1, shown.2]

theorem Shape.Plain.regular (plain : shape.Plain) : shape.Regular tag := by
  induction plain with
  | record shown names _ ih =>
    refine .record ih ?_
    refine (List.pairwise_map.mp names).imp_of_mem fun inside inside' different name => ?_
    rintro ⟨names, exposed, here⟩ ⟨names', exposed', here'⟩
    rw [exposure_of_untagged (shown _ inside)] at exposed
    rw [exposure_of_untagged (shown _ inside')] at exposed'
    cases exposed
    cases exposed'
    rw [List.mem_singleton] at here here'
    exact different (here.symm.trans here')
  | bool => exact .bool
  | int width => exact .int width
  | uint width => exact .uint width
  | float32 => exact .float32
  | float64 => exact .float64
  | string => exact .string
  | optional _ ih => exact .optional ih
  | list _ _ ih => exact .list ih
  | map _ ih => exact .map .string ih

/-- Plain shapes are closed under parts. -/
theorem plainClass (tag : String) : ShapeClass tag Shape.Plain where
  regular plain := plain.regular
  position := .int .w64
  inner plain := by cases plain with | optional plain => exact plain
  element plain := by cases plain with | list plain => exact plain
  key plain := by cases plain with | map => exact .string
  value plain := by cases plain with | map plain => exact plain
  member plain inside := by cases plain with | record _ _ plain => exact plain _ inside

/-- The elements of a list are no lists, so nothing is passed on to more than one of them. -/
theorem Shape.Plain.inside_element {element : Shape} (plain : (Shape.list element).Plain) :
    element.inside = element.required := by
  cases plain with
  | list plain solid =>
    clear plain
    fun_induction Shape.required element with
    | case1 inner ih => exact ih solid
    | case2 shape other =>
      cases shape with
      | optional inner => exact absurd rfl (other inner)
      | list inner => exact absurd rfl (solid inner)
      | _ => rfl

/-- Every plain shape has a field. -/
theorem Shape.Plain.exists_fieldOf? (plain : shape.Plain) (tag : String) :
    ∃ field, Schema.fieldOf? tag shape = some field := by
  induction plain with
  | optional _ ih =>
    obtain ⟨field, derived⟩ := ih
    exact ⟨field, by rw [Schema.fieldOf?, derived]⟩
  | map => exact ⟨_, by rw [Schema.fieldOf?]; exact if_pos rfl⟩
  | _ => exact ⟨_, by rw [Schema.fieldOf?]⟩

/-- A record of untagged fields excludes none. -/
theorem fault_of_untagged {segment : String} {values : List (Member × Datum)} {fault : PathFault}
    (shown : ∀ p ∈ values, p.1.isPrivate = false ∧ p.1.tags = [])
    (failed : Datum.field? tag segment values = .error fault) : fault = .fieldNotFound segment := by
  induction values with
  | nil =>
    cases failed
    rfl
  | cons head rest ih =>
    rw [List.forall_mem_cons] at shown
    simp only [Datum.field?, exposure_of_untagged shown.1] at failed
    split at failed
    · cases failed
    · exact ih shown.2 failed

/-- In data of a plain shape there is a part where the shape leads, or nothing. -/
theorem find?_isSome_of_plain (plain : shape.Plain) {segment : String}
    (leads : shape.required.Leads tag segment child) {d : Datum} (admits : shape.Admits d) :
    (d.find? tag [segment]).isSome = true := by
  have missing {fault : PathFault} (step : d.part? tag segment = .error fault)
      (notFound : fault.isNotFound = true) : (d.find? tag [segment]).isSome = true := by
    have walked : d.walk tag [segment] = .error fault := by
      rw [Datum.walk_cons, step, error_bind]
    simp only [Datum.find?, walked, notFound, if_true, Option.isSome_some]
  cases step : d.part? tag segment with
  | ok found =>
    have walked : d.walk tag [segment] = .ok found := by
      rw [Datum.walk_cons, step, ok_bind, Datum.walk_nil]
    unfold Datum.find?
    rw [walked]
    cases found <;> rfl
  | error fault =>
    refine missing step ?_
    by_cases there : d = .null
    · subst there
      cases step
      rfl
    · have solid := admits.required there
      have plain' := (plainClass tag).required plain
      generalize shape.required = shape' at leads solid plain'
      cases leads with
      | map =>
        cases solid <;>
        · simp only [Datum.part?] at step
          split at step <;> cases step
          rfl
      | record inside exposes =>
        cases solid with
        | @record name fields values names _ =>
          cases plain' with
          | record shown _ _ =>
            have shown' : ∀ p ∈ values, p.1.isPrivate = false ∧ p.1.tags = [] := by
              intro p here
              have member : p.1 ∈ values.map (·.1) := List.mem_map_of_mem here
              rw [← names] at member
              obtain ⟨q, there, same⟩ := List.mem_map.mp member
              exact same ▸ shown q there
            obtain rfl := fault_of_untagged shown' step
            rfl

end

/-! ## Tests of data of a shape -/

/-- What the check has seen to in the literal of a test: it is there if the operator takes one, it
was converted if the field has a type, and a pattern is well formed. -/
structure Test.Checked (t : Test) (patterns : PatternEngine) (field : Field) : Prop where
  taken : t.literal.isSome = t.operator.takesLiteral
  converted : ∀ l, t.literal = some l → ∀ type, field.literalType = some type →
    ∃ literal, type.read l.raw = .ok literal ∧ l.converted = some literal
  pattern : ∀ l, t.literal = some l → t.operator.takesPattern = true →
    (l.pattern? patterns).isSome = true

/-- The test of an expression that checks has been seen to, under whatever selector. -/
theorem Test.Checked.of_mapM_checkLiteral {patterns : PatternEngine} {field : Field}
    {selector : Selector} {operator : Operator} {literal : Option String}
    {checkedLiteral : Option CheckedLiteral} (taken : literal.isSome = operator.takesLiteral)
    (checks : literal.mapM (checkLiteral patterns field selector operator) = .ok checkedLiteral)
    (other : Selector) : Test.Checked ⟨other, operator, checkedLiteral⟩ patterns field := by
  rcases Sift.of_mapM_checkLiteral checks with ⟨rfl, rfl⟩ | ⟨raw, l, rfl, rfl, oneChecks⟩
  · exact ⟨taken, nofun, nofun⟩
  · obtain ⟨rfl, typed, -, pattern⟩ := of_checkLiteral oneChecks
    refine ⟨taken, ?_, ?_⟩ <;>
    · rintro l' same
      cases same
      assumption

section

variable {patterns : PatternEngine} {tag : String} {shape : Shape} {field : Field} {t : Test}
  {d : Datum}

/-- All operators that a type supports take a literal. -/
theorem takesLiteral_of_operators {type : LiteralType} {operator : Operator}
    (supported : type.operators.contains operator = true) : operator.takesLiteral = true := by
  cases type <;> cases operator <;> first | rfl | cases supported

/-- A scalar takes every test that its type supports. -/
theorem run_scalar {type : LiteralType} (known : field.literalType = some type)
    (kind : d.kind = type.kind) (operators : field.operators = type.operators)
    (supported : field.supports t.operator = true) (checked : t.Checked patterns field) :
    ∃ b, t.run patterns d = .ok b := by
  rw [Field.supports, operators] at supported
  have taken := takesLiteral_of_operators supported
  obtain ⟨l, here⟩ := Option.isSome_iff_exists.mp (checked.taken.trans taken)
  obtain ⟨literal, read, converted⟩ := checked.converted l here type known
  have literalHere : t.literal! = .ok l := by rw [Test.literal!, here]
  have reads : l.for? d = some (.ok literal) := by
    have same : literal.kind = d.kind := (LiteralType.kind_of_read read).trans kind.symm
    simp only [CheckedLiteral.for?, converted, same, if_true]
  have compared : t.compared d = .ok (d.order literal) := by
    simp only [Test.compared, literalHere, ok_bind, reads]
  have ordered (holds : Ordering → Bool) (notBool : type ≠ .bool) :
      ∃ b, t.ordered d holds = .ok b := by
    have comparable : (!d.isScalar || d.kind == .bool) = false := by
      cases type <;> cases d <;> first | rfl | exact absurd rfl notBool | cases kind
    simp only [Test.ordered, comparable, compared, ok_bind, Bool.false_eq_true, if_false]
    cases d.order literal <;> exact ⟨_, rfl⟩
  have pattern (takes : t.operator.takesPattern = true) : ∃ p, l.pattern? patterns = some p :=
    Option.isSome_iff_exists.mp (checked.pattern l here takes)
  unfold Test.run
  cases operator : t.operator with
  | equal | notEqual => exact ⟨_, by rw [compared, ok_bind]; rfl⟩
  | less | lessEqual | greater | greaterEqual =>
    refine ordered _ ?_
    rintro rfl
    rw [operator] at supported
    cases supported
  | isEmpty | isNotEmpty =>
    rw [operator] at supported
    cases type <;> cases supported
  | isIn | notIn | isMatch | notMatch =>
    obtain rfl : type = .string := by
      rw [operator] at supported
      cases type <;> first | rfl | cases supported
    cases d with
    | string s =>
      simp only [Test.contained, Test.matched, literalHere, ok_bind]
      first
      | exact ⟨_, rfl⟩
      | obtain ⟨p, read⟩ := pattern (by rw [operator]; rfl)
        rw [read]
        exact ⟨_, rfl⟩
    | _ => cases kind

theorem membership_of_emptiness {operator : Operator}
    (supported : Field.emptiness.contains operator = true) :
    Field.membership.contains operator = true := by
  cases operator <;> first | rfl | cases supported

/-- A list or a map takes every test of membership and emptiness. -/
theorem run_collection (isCollection : d.elements?.isSome = true)
    (supported : Field.membership.contains t.operator = true) (checked : t.Checked patterns field) :
    ∃ b, t.run patterns d = .ok b := by
  have emptied : ∃ b, t.emptied d = .ok b := by
    cases d <;> first | exact ⟨_, rfl⟩ | cases isCollection
  have contained (taken : t.operator.takesLiteral = true) : ∃ b, t.contained d = .ok b := by
    obtain ⟨l, here⟩ := Option.isSome_iff_exists.mp (checked.taken.trans taken)
    have literalHere : t.literal! = .ok l := by rw [Test.literal!, here]
    simp only [Test.contained, literalHere, ok_bind]
    cases d <;> first | exact ⟨_, rfl⟩ | cases isCollection
  obtain ⟨empty, emptied⟩ := emptied
  unfold Test.run
  cases operator : t.operator with
  | isEmpty | isNotEmpty =>
    rw [emptied]
    exact ⟨_, rfl⟩
  | isIn | notIn =>
    obtain ⟨inside, contained⟩ := contained (by rw [operator]; rfl)
    rw [contained]
    exact ⟨_, rfl⟩
  | _ =>
    rw [operator] at supported
    cases supported

/-- A test that a field supports, with a literal that was checked, has an answer for every datum
that the field describes. -/
theorem run_of_describes (describes : field.Describes tag shape) (plain : shape.Plain)
    (admits : shape.Admits d) (there : d ≠ .null) (supported : field.supports t.operator = true)
    (checked : t.Checked patterns field) : ∃ b, t.run patterns d = .ok b := by
  induction admits with
  | absent => exact absurd rfl there
  | present _ ih =>
    cases plain with
    | optional plain => exact ih describes.inner plain there
  | bool | int | uint | float32 | float64 | string =>
    obtain ⟨name, rfl⟩ := describes.exists_name (by rw [Schema.fieldOf?])
    exact run_scalar rfl rfl rfl supported checked
  | @list element items _ =>
    obtain ⟨name, rfl⟩ := describes.exists_name (by rw [Schema.fieldOf?])
    refine run_collection rfl ?_ checked
    generalize element.isScalar = scalarElement at supported
    cases scalarElement with
    | true => exact supported
    | false => exact membership_of_emptiness supported
  | map | pairs =>
    obtain ⟨field', name, derived, rfl⟩ := describes
    simp only [Schema.fieldOf?] at derived
    refine run_collection rfl ?_ checked
    split at derived <;> cases derived
    · exact supported
    · exact membership_of_emptiness supported
  | record =>
    obtain ⟨name, rfl⟩ := describes.exists_name (by rw [Schema.fieldOf?])
    cases supported
  | judge | any | sealed => cases plain

/-- What a field describes as a collection has elements to visit. -/
theorem exists_frames (describes : field.Describes tag shape) (plain : shape.Plain)
    (admits : shape.Admits d) (there : d ≠ .null) (isCollection : field.collection ≠ none)
    (binding : Binding) : ∃ frames, binding.frames? d = some frames := by
  induction admits with
  | absent => exact absurd rfl there
  | present _ ih =>
    cases plain with
    | optional plain => exact ih describes.inner plain there
  | list | map | pairs => exact ⟨_, rfl⟩
  | bool | int | uint | float32 | float64 | string | record =>
    obtain ⟨name, rfl⟩ := describes.exists_name (by rw [Schema.fieldOf?])
    exact absurd rfl isCollection
  | judge | any | sealed => cases plain

/-- Something is known of the positions or keys of a collection and of its elements or values. -/
theorem exists_parts (describes : field.Describes tag shape) (plain : shape.Plain)
    (isCollection : field.collection ≠ none) :
    field.index.isSome = true ∧ field.value.isSome = true := by
  induction plain with
  | optional _ ih => exact ih describes.inner
  | @list element elementPlain _ _ =>
    obtain ⟨name, rfl⟩ := describes.exists_name (by rw [Schema.fieldOf?])
    obtain ⟨elementField, known⟩ := elementPlain.exists_fieldOf? tag
    obtain ⟨index, value, -⟩ := ofElement_parts (Schema.fieldOf? tag element) element.isScalar
    refine ⟨Option.isSome_iff_exists.mpr ⟨_, index⟩, ?_⟩
    exact Option.isSome_iff_exists.mpr ⟨elementField, value.trans known⟩
  | @map value valuePlain _ =>
    obtain ⟨field', name, derived, rfl⟩ := describes
    obtain ⟨valueField, known⟩ := valuePlain.exists_fieldOf? tag
    rw [Schema.fieldOf?, known] at derived
    cases derived
    exact ⟨rfl, rfl⟩
  | _ =>
    obtain ⟨name, rfl⟩ := describes.exists_name (by rw [Schema.fieldOf?])
    exact absurd rfl isCollection

/-- The names of a binding over a collection are all known. -/
theorem known_complete (describes : field.Describes tag shape) (plain : shape.Plain)
    (isCollection : field.collection ≠ none) (binding : Binding) :
    ∀ p ∈ binding.known field, p.2.isSome = true := by
  obtain ⟨index, value⟩ := exists_parts describes plain isCollection
  cases binding with
  | each name =>
    refine List.forall_mem_singleton.mpr ?_
    split
    · exact index
    · exact value
  | index name => exact List.forall_mem_singleton.mpr index
  | value name => exact List.forall_mem_singleton.mpr value
  | both i v => exact List.forall_mem_cons.mpr ⟨index, List.forall_mem_singleton.mpr value⟩

end

end Sift
