import Sift.Proofs.ImpossibleErrors
import Sift.Proofs.Typing.Levels

/-!
# Coherent schemas

A check looks at one part of a field to decide what to do with another: it follows segments into a list
by the fields of the list, binds its elements by what is known of them, and reads a literal where the
operator takes one. `Field.Coherent` states that the parts of one field go together. In a schema that was
derived from a shape this holds of every field that the check can come to, along levels, positions, keys,
elements and values in any order, and the shape has a schema whatever it holds inside
(`generated_schema_coherent`).
-/

namespace Sift

/-! ## Shapes with a schema -/

/-- A record or a map under texts, optional or not, is what can be at the top. -/
def Shape.HasLevel (shape : Shape) : Prop :=
  (∃ name fields, shape.required = .record name fields) ∨
    ∃ key value, shape.required = .map key value ∧ key.required = .string

/-- Whether a shape has a schema is decided at its top. -/
theorem ofShape_eq_error_iff {shape : Shape} (free : shape.JudgeFree) (tag : String) :
    (∃ error, Schema.ofShape tag shape = .error error) ↔ ¬shape.HasLevel := by
  rw [Schema.ofShape_eq, Shape.HasLevel]
  split
  next name fields isRecord => simp [isRecord]
  next key value isMap =>
    by_cases text : key.isText = true
    · have string := Shape.isText_iff.mp text
      simp [isMap, text, string]
    · have other := Shape.isText_iff.not.mp text
      simp [isMap, text, other]
  next name level isJudge => exact absurd isJudge (free.required_ne name level)
  next other noRecord noMap _ =>
    refine ⟨fun _ => ?_, fun _ => ⟨_, rfl⟩⟩
    rintro (⟨name, fields, isRecord⟩ | ⟨key, value, isMap, -⟩)
    · exact noRecord name fields isRecord
    · exact noMap key value isMap

/-! ## Fields that are reached -/

/-- What is reached from the entries of a schema on the way to the next level, to what is known of
positions or keys, and to what is known of elements or values, in any order. -/
inductive Schema.Reaches (schema : Schema) : Field → Prop
  | entry {name : FieldName} {field : Field} : (name, field) ∈ schema → Reaches schema field
  | fields {field next : Field} {name : FieldName} :
    Reaches schema field → (name, next) ∈ field.fields → Reaches schema next
  | index {field next : Field} : Reaches schema field → field.index = some next → Reaches schema next
  | value {field next : Field} : Reaches schema field → field.value = some next → Reaches schema next

/-- What goes on from field to field and holds of all entries holds of whatever is reached. -/
theorem good_of_reaches {good : Field → Prop} (closed : Field.Hereditary good) {schema : Schema}
    (level : ∀ entry ∈ schema, good entry.2) {field : Field} (reached : schema.Reaches field) :
    good field := by
  induction reached with
  | entry inside => exact level _ inside
  | fields _ inside ih => exact closed.fields ih _ inside
  | index _ known ih => exact closed.index ih known
  | value _ known ih => exact closed.value ih known

/-! ## Coherent fields -/

/-- The parts of a field go together. -/
structure Field.Coherent (field : Field) : Prop where
  /-- Where an operator takes a literal, it is known what to read it as. -/
  literals (operator : Operator) : operator.takesLiteral = true → field.supports operator = true →
    field.literalType ≠ none
  /-- Patterns are searched for in texts. -/
  patterns : field.TakesTexts
  /-- Collections are what has positions or keys. -/
  indexed : field.collection ≠ none ↔ field.index ≠ none
  /-- A collection can be asked for emptiness. -/
  emptied : field.collection ≠ none → field.supports .isEmpty = true ∧ field.supports .isNotEmpty = true
  /-- Any segment behind a map leads to what is known of its values. -/
  map : field.collection = some .map →
    field.fields = field.value.toList.map fun value => (FieldName.wildcard, value)
  /-- The segments behind a list are those of its elements. -/
  list : field.collection = some .list → field.fields = (field.value.map Field.fields).getD []

/-- What the operators of a field take decides whether its literals have to be of a type. -/
theorem literals_of_operators {field : Field}
    (none : ∀ operator ∈ field.operators, operator.takesLiteral = false) (operator : Operator)
    (takes : operator.takesLiteral = true) (supported : field.supports operator = true) :
    field.literalType ≠ .none := by
  cases takes.symm.trans (none operator (List.contains_iff_mem.mp supported))

/-- Every rule for deriving a field makes a coherent one. -/
theorem derivable_coherent : Field.Derivable Field.Coherent where
  scalar type := by
    refine ⟨fun _ _ _ => nofun, derivable_takesTexts.scalar type, ?_, nofun, nofun, nofun⟩
    exact ⟨nofun, nofun⟩
  scalars type := by
    refine ⟨fun _ _ _ => nofun, derivable_takesTexts.scalars type, ?_, ?_, nofun, fun _ => rfl⟩
    · exact ⟨nofun, nofun⟩
    · exact fun _ => ⟨rfl, rfl⟩
  list element := by
    refine ⟨literals_of_operators ?_, derivable_takesTexts.list element, ?_, ?_, nofun, fun _ => rfl⟩
    · have none : ∀ operator ∈ Field.emptiness, operator.takesLiteral = false := by decide
      exact none
    · exact ⟨nofun, nofun⟩
    · exact fun _ => ⟨rfl, rfl⟩
  map value := by
    refine ⟨fun _ _ _ => nofun, derivable_takesTexts.map value, ?_, ?_, fun _ => ?_, nofun⟩
    · exact ⟨nofun, nofun⟩
    · exact fun _ => ⟨rfl, rfl⟩
    · cases value <;> rfl
  closed := by
    refine ⟨literals_of_operators (by decide), derivable_takesTexts.closed, ?_, ?_, nofun, nofun⟩
    · exact ⟨fun other => absurd rfl other, fun other => absurd rfl other⟩
    · exact fun other => absurd rfl other
  record schema := by
    refine ⟨literals_of_operators (List.forall_mem_nil _), derivable_takesTexts.record schema, ?_, ?_,
      nofun, nofun⟩
    · exact ⟨fun other => absurd rfl other, fun other => absurd rfl other⟩
    · exact fun other => absurd rfl other
  named _ coherent := ⟨coherent.literals, coherent.patterns, coherent.indexed, coherent.emptied,
    coherent.map, coherent.list⟩

/-- A shape without judges has no schema if and only if it is neither a record nor a map under texts, and
every field that is reached from the schema that it has is coherent. -/
theorem generated_schema_coherent {shape : Shape} (free : shape.JudgeFree) (tag : String) :
    ((∃ error, Schema.ofShape tag shape = .error error) ↔ ¬shape.HasLevel) ∧
      ∀ schema, Schema.ofShape tag shape = .ok schema →
        ∀ field, schema.Reaches field → field.Coherent := by
  refine ⟨ofShape_eq_error_iff free tag, fun schema derived field reached => ?_⟩
  have everywhere : field.Everywhere Field.Coherent :=
    good_of_reaches (Field.Everywhere.hereditary _) (everywhere_of_ofShape derivable_coherent free derived)
      reached
  exact everywhere.here

/-- Shelves with rows of labelled boxes, next to what no path looks into. -/
def Shape.sampleShop : Shape :=
  .record "Shop" [
    ({ name := "shelves" }, .optional (.list (.list (.map (.optional .string)
      (.record "Box" [({ name := "label" }, .string)]))))),
    ({ name := "codes" }, .map (.int .w32) .string),
    ({ name := "log" }, .sealed "File")]

/-- The elements of the elements of a list are maps. -/
theorem generated_schema_coherent_shop :
    Shape.sampleShop.JudgeFree ∧ ∃ schema field,
      Schema.ofShape Schema.defaultTag .sampleShop = .ok schema ∧ schema.Reaches field ∧
        field.collection = some .map ∧ field.Coherent := by
  have free : Shape.sampleShop.JudgeFree := by
    refine .record _ ?_
    simp only [List.forall_mem_cons, List.not_mem_nil, false_implies, implies_true, and_true]
    refine ⟨.optional (.list (.list (.map (.optional .string) (.record _ ?_)))),
      .map (.int _) .string, .sealed _⟩
    exact List.forall_mem_singleton.mpr .string
  obtain ⟨schema, field, derived, reached, isMap⟩ : ∃ schema field,
      Schema.ofShape Schema.defaultTag .sampleShop = .ok schema ∧ schema.Reaches field ∧
        field.collection = some .map := by
    refine ⟨_, _, rfl, .value (.value (.entry (.tail _ (.head _))) rfl) rfl, rfl⟩
  have coherent := (generated_schema_coherent free Schema.defaultTag).2 schema derived field reached
  exact ⟨free, schema, field, derived, reached, isMap, coherent⟩

end Sift
