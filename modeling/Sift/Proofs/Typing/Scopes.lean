import Sift.Proofs.Evaluation.Targets
import Sift.Proofs.Grammar.Written
import Sift.Proofs.Typing.Shapes
import Sift.Check

/-!
# Names and what they are bound to

Inside a quantifier the check knows a field for a name, and the environment binds the name to a
datum. `Knows` relates the two: the names are bound alike, from the front, and where a field is
known the datum has a shape that the field describes. A quantifier keeps the relation
(`Knows.append`), since the frames of a collection and what is known of its parts come from one
binding (`knows_of_frames?`).

Shapes come from a class that is closed under parts, so that what further is known of a type is
known of everything below it.
-/

namespace Sift

/-- A class of regular shapes that is closed under parts. -/
structure ShapeClass (tag : String) (P : Shape → Prop) : Prop where
  regular {shape : Shape} : P shape → shape.Regular tag
  position : P (.int .w64)
  inner {inner : Shape} : P (.optional inner) → P inner
  element {element : Shape} : P (.list element) → P element
  key {key value : Shape} : P (.map key value) → P key
  value {key value : Shape} : P (.map key value) → P value
  member {name : String} {fields : List (Member × Shape)} {p : Member × Shape} :
    P (.record name fields) → p ∈ fields → P p.2

namespace ShapeClass

variable {tag : String} {P : Shape → Prop} {shape child : Shape} {segment : String}

theorem required (closed : ShapeClass tag P) {shape : Shape} (ofClass : P shape) :
    P shape.required := by
  induction shape using Shape.required.induct with
  | case1 inner ih => exact ih (closed.inner ofClass)
  | case2 shape other =>
    rw [Shape.required]
    · exact ofClass
    · exact other

theorem leads (closed : ShapeClass tag P) (ofClass : P shape)
    (leads : shape.Leads tag segment child) : P child := by
  cases leads with
  | map => exact closed.value ofClass
  | record inside => exact closed.member ofClass inside

end ShapeClass

/-! ## Fields and the shapes inside optional ones -/

section

variable {tag : String} {shape : Shape} {field : Field}

theorem required_required (shape : Shape) : shape.required.required = shape.required := by
  fun_induction Shape.required shape with
  | case1 inner ih => exact ih
  | case2 shape other =>
    rw [Shape.required]
    exact other

theorem fieldOf?_required (shape : Shape) :
    Schema.fieldOf? tag shape.required = Schema.fieldOf? tag shape := by
  fun_induction Shape.required shape with
  | case1 inner ih => rw [ih, Schema.fieldOf?]
  | case2 => rfl

theorem Field.Describes.required (describes : field.Describes tag shape) :
    field.Describes tag shape.required := by
  obtain ⟨plain, name, derived, same⟩ := describes
  exact ⟨plain, name, (fieldOf?_required shape).trans derived, same⟩

/-- Texts are the shape `string`, optional or not. -/
theorem Shape.isText_iff : shape.isText = true ↔ shape.required = .string := by
  simp only [isText, literalType?]
  constructor
  · intro text
    split at text <;> first | assumption | cases text
  · intro string
    rw [string]
    rfl

/-- The keys of a map under texts are described like texts. -/
theorem describes_key {key : Shape} (text : key.isText = true) :
    (Field.scalar .string).Describes tag key := by
  refine .of_fieldOf? ?_
  rw [← fieldOf?_required, Shape.isText_iff.mp text, Schema.fieldOf?]

/-- A datum that a schema describes is no judge. -/
theorem kind_ne_judge {d : Datum} (regular : shape.Regular tag) (describes : field.Describes tag shape)
    (admits : shape.Admits d) : d.kind ≠ .judge := by
  induction admits with
  | judge => cases regular
  | any | sealed => exact absurd (by rw [Schema.fieldOf?]) describes.ne_none
  | @present inner d _ ih =>
    cases regular with
    | optional regular => exact ih regular describes.inner
  | _ =>
    intro judge
    cases judge

end

/-! ## What is known of names -/

/-- The names of a binding over a collection, each with what is known of it. -/
def Binding.known (binding : Binding) (collection : Field) : List (String × Option Field) :=
  match binding with
  | each name =>
    [(name, if collection.collection = some .map then collection.index else collection.value)]
  | index name => [(name, collection.index)]
  | value name => [(name, collection.value)]
  | both i v => [(i, collection.index), (v, collection.value)]

/-- The scope of names: those of which something is known. -/
def Scope.ofKnown (names : List (String × Option Field)) : Scope :=
  names.filterMap fun (name, known) => known.map fun field => (name, field)

theorem Scope.ofKnown_append (names more : List (String × Option Field)) :
    Scope.ofKnown (names ++ more) = Scope.ofKnown names ++ Scope.ofKnown more :=
  List.filterMap_append

theorem Binding.fields_eq (binding : Binding) (collection : Field) :
    binding.fields collection = Scope.ofKnown (binding.known collection) := by
  have one (name : String) (known : Option Field) :
      (known.map fun field => (name, field)).toList = Scope.ofKnown [(name, known)] := by
    cases known <;> rfl
  cases binding with
  | each | index | value => exact one _ _
  | both i v =>
    show _ = Scope.ofKnown ([(i, collection.index)] ++ [(v, collection.value)])
    rw [Scope.ofKnown_append, ← one, ← one]
    rfl

/-- A name is looked up in the scope as among the names, unless nothing is known of it. -/
theorem Scope.lookup_ofKnown {names : List (String × Option Field)} {name : String}
    (known : names.lookup name ≠ some none) :
    (Scope.ofKnown names).lookup name = (names.lookup name).join := by
  induction names with
  | nil => rfl
  | cons head rest ih =>
    obtain ⟨first, field⟩ := head
    rw [lookup_cons_if] at known ⊢
    cases field with
    | none =>
      by_cases here : name = first
      · rw [if_pos here] at known
        exact absurd rfl known
      · rw [if_neg here] at known ⊢
        exact ih known
    | some field =>
      have front : Scope.ofKnown ((first, some field) :: rest) =
          (first, field) :: Scope.ofKnown rest := rfl
      rw [front, lookup_cons_if]
      by_cases here : name = first
      · rw [if_pos here, if_pos here]
        rfl
      · rw [if_neg here] at known ⊢
        rw [if_neg here]
        exact ih known

/-! ## Names that are bound -/

section

variable (tag : String) (P : Shape → Prop)

/-- A datum has a shape of the class that a field describes. -/
def Suits (field : Field) (d : Datum) : Prop :=
  ∃ shape, P shape ∧ field.Describes tag shape ∧ shape.Admits d

/-- What is known of a name meets what it is bound to. -/
inductive Meets : Option (Option Field) → Option Datum → Prop
  | free : Meets none none
  | bound {known : Option Field} {d : Datum} : (∀ field, known = some field → Suits tag P field d) →
    Meets (some known) (some d)

/-- Names are known as they are bound, except the one that the check itself binds. -/
def Knows (names : List (String × Option Field)) (bound : List (String × Datum)) : Prop :=
  ∀ name, name ≠ passedName → Meets tag P (names.lookup name) (bound.lookup name)

end

section

variable {tag : String} {P : Shape → Prop} {names more : List (String × Option Field)}
  {bound added : List (String × Datum)}

theorem Knows.nil : Knows tag P [] [] := fun _ _ => .free

theorem Knows.append (front : Knows tag P more added) (behind : Knows tag P names bound) :
    Knows tag P (more ++ names) (added ++ bound) := by
  intro name other
  have here := front name other
  rw [List.lookup_append, List.lookup_append]
  generalize more.lookup name = known, added.lookup name = d at here ⊢
  cases here with
  | free => exact behind name other
  | bound suits => exact .bound suits

theorem Knows.cons {name : String} {known : Option Field} {d : Datum}
    (suits : ∀ field, known = some field → Suits tag P field d)
    (behind : Knows tag P names bound) : Knows tag P ((name, known) :: names) ((name, d) :: bound) := by
  intro other different
  rw [lookup_cons_if, lookup_cons_if]
  by_cases here : other = name
  · rw [if_pos here, if_pos here]
    exact .bound suits
  · rw [if_neg here, if_neg here]
    exact behind other different

/-- The name that the check binds is not known. -/
theorem Knows.passed (d : Datum) (behind : Knows tag P names bound) :
    Knows tag P names ((passedName, d) :: bound) := by
  intro other different
  rw [lookup_cons_if, if_neg different]
  exact behind other different

theorem knows_frame {field : Field} {keyed : Bool} {place element : Datum}
    (index : ∀ f, field.index = some f → Suits tag P f place)
    (value : ∀ f, field.value = some f → Suits tag P f element)
    (each : ∀ f, (if field.collection = some .map then field.index else field.value) = some f →
      Suits tag P f (if keyed then place else element)) (binding : Binding) :
    Knows tag P (binding.known field) (binding.frame keyed place element) := by
  cases binding with
  | each name => exact .cons each .nil
  | index name => exact .cons index .nil
  | value name => exact .cons value .nil
  | both i v => exact .cons index (.cons value .nil)

theorem ofElement_parts (element : Option Field) (scalarElement : Bool) :
    (Field.ofElement element scalarElement).index = some (.scalar (.int .w64)) ∧
      (Field.ofElement element scalarElement).value = element ∧
      (Field.ofElement element scalarElement).collection = some .list := by
  cases scalarElement <;> exact ⟨rfl, rfl, rfl⟩

theorem knows_frame_of_map (closed : ShapeClass tag P) {key value : Shape} {field : Field}
    (ofClass : P (.map key value)) (describes : field.Describes tag (.map key value))
    {place element : Datum} (keyAdmits : key.Admits place) (valueAdmits : value.Admits element)
    (binding : Binding) : Knows tag P (binding.known field) (binding.frame true place element) := by
  obtain ⟨plain, name, derived, rfl⟩ := describes
  simp only [Schema.fieldOf?] at derived
  split at derived
  next text =>
    cases derived
    have index (f : Field) (known : some (Field.scalar .string) = some f) : Suits tag P f place := by
      cases known
      exact ⟨key, closed.key ofClass, describes_key text, keyAdmits⟩
    refine knows_frame ?_ ?_ ?_ binding
    · exact index
    · exact fun f known => ⟨value, closed.value ofClass, .of_fieldOf? known, valueAdmits⟩
    · exact index
  next =>
    cases derived
    refine knows_frame ?_ ?_ ?_ binding <;>
    · intro f known
      cases known

theorem knows_frame_of_list (closed : ShapeClass tag P) {element : Shape} {field : Field}
    (ofClass : P (.list element)) (describes : field.Describes tag (.list element)) (place : Int64)
    {item : Datum} (admits : element.Admits item) (binding : Binding) :
    Knows tag P (binding.known field) (binding.frame false (.int place) item) := by
  obtain ⟨name, rfl⟩ := describes.exists_name (by rw [Schema.fieldOf?])
  obtain ⟨index, value, collection⟩ := ofElement_parts (Schema.fieldOf? tag element) element.isScalar
  have itemSuits (f : Field) (known : Schema.fieldOf? tag element = some f) : Suits tag P f item :=
    ⟨element, closed.element ofClass, .of_fieldOf? known, admits⟩
  refine knows_frame ?_ ?_ ?_ binding
  · intro f known
    rw [index] at known
    cases known
    refine ⟨.int .w64, closed.position, .of_fieldOf? ?_, .int _ _⟩
    rw [Schema.fieldOf?]
  · intro f known
    rw [value] at known
    exact itemSuits f known
  · intro f known
    rw [collection, if_neg (by decide), value] at known
    exact itemSuits f known

/-- What a binding knows of a collection meets what its frames bind. -/
theorem knows_of_frames? (closed : ShapeClass tag P) {shape : Shape} {field : Field} {d : Datum}
    (ofClass : P shape) (describes : field.Describes tag shape) (admits : shape.Admits d)
    {binding : Binding} {frames : List Frame} (visited : binding.frames? d = some frames)
    {frame : Frame} (inside : frame ∈ frames) : Knows tag P (binding.known field) frame := by
  induction admits with
  | present _ ih => exact ih (closed.inner ofClass) describes.inner visited
  | list itemsAdmit =>
    cases visited
    obtain ⟨⟨item, i⟩, there, rfl⟩ := List.mem_map.mp inside
    have admits := itemsAdmit item (List.fst_mem_of_mem_zipIdx there)
    exact knows_frame_of_list closed ofClass describes _ admits binding
  | map keysAdmit valuesAdmit =>
    cases visited
    obtain ⟨entry, there, rfl⟩ := List.mem_map.mp inside
    exact knows_frame_of_map closed ofClass describes (keysAdmit entry there)
      (valuesAdmit entry there) binding
  | pairs keysAdmit valuesAdmit =>
    cases visited
    obtain ⟨entry, there, rfl⟩ := List.mem_map.mp inside
    exact knows_frame_of_map closed ofClass describes (keysAdmit entry there)
      (valuesAdmit entry there) binding
  | any | sealed => exact absurd (by rw [Schema.fieldOf?]) describes.ne_none
  | _ => cases visited

end

/-! ## Paths -/

/-- No text can write the name that the check binds. -/
theorem head_of_wellFormed {selector : Selector} (wellFormed : selector.WellFormed)
    {first : String} {rest : List String} (path : selector.path = first :: rest) :
    first ≠ passedName := by
  rintro rfl
  obtain ⟨form, _⟩ := selector
  subst path
  cases form with
  | words =>
    obtain ⟨first, rest, same, name⟩ := wellFormed
    cases same
    cases name
  | pointer =>
    have segment := wellFormed.2 passedName List.mem_cons_self
    cases segment

/-- Whatever a path leads to in an environment has a shape, and no judge stands on it. -/
structure Env.LeadsTo (tag : String) (env : Env) (path : List String) (shape : Shape) : Prop where
  admits {d : Datum} : env.find? tag path = some (some d) → shape.required.Admits d
  clear : env.Clear tag path

/-- What the first segment of a path stands for has a shape: a datum that it is bound to, or a part
of the root. -/
inductive Env.Starts (tag : String) (P : Shape → Prop) (env : Env) (first : String)
    (shape : Shape) : Prop
  | bound {d : Datum} : env.lookup first = some d → shape.Admits d → Starts tag P env first shape
  | free {top : Shape} {level : Field} : env.lookup first = none → P top →
    level.Describes tag top → top.required.Leads tag first shape → top.Admits env.root →
    Starts tag P env first shape

/-- A datum that a schema is the topmost level for. -/
def Rooted (tag : String) (P : Shape → Prop) (schema : Schema) (d : Datum) : Prop :=
  ∃ (field : Field) (shape : Shape), P shape ∧ field.Describes tag shape ∧ field.fields = schema ∧
    shape.inside = shape.required ∧ shape.Admits d

section

variable {tag segment : String} {P : Shape → Prop} {shape child : Shape} {env : Env}

theorem find?_nil_of_admits {d found : Datum} (admits : shape.Admits d)
    (here : d.find? tag [] = some (some found)) : shape.required.Admits found := by
  cases Datum.walk_of_find? here
  exact admits.required (Datum.ne_null_of_find? here)

theorem admits_of_part? (closed : ShapeClass tag P) (ofClass : P shape)
    (leads : shape.required.Leads tag segment child) {d next : Datum} (admits : shape.Admits d)
    (step : d.part? tag segment = .ok next) : child.Admits next := by
  have there : d ≠ .null := by
    rintro rfl
    cases step
  exact leads.admits (closed.regular (closed.required ofClass)) (admits.required there) step

theorem admits_of_find? (closed : ShapeClass tag P) (ofClass : P shape)
    (leads : shape.required.Leads tag segment child) {d found : Datum} (admits : shape.Admits d)
    (here : d.find? tag [segment] = some (some found)) : child.required.Admits found := by
  have walked := Datum.walk_of_find? here
  rw [Datum.walk_cons] at walked
  obtain ⟨next, step, same⟩ := bind_eq_ok.mp walked
  cases same
  have childAdmits := admits_of_part? closed ofClass leads admits step
  exact childAdmits.required (Datum.ne_null_of_find? here)

/-- There is no judge where a schema leads. -/
theorem clear_of_admits (closed : ShapeClass tag P) (ofClass : P shape) {field next : Field}
    (describes : field.Describes tag shape) (leads : shape.required.Leads tag segment child)
    (childDescribes : next.Describes tag child) {d : Datum} (admits : shape.Admits d) :
    d.Clear tag [segment] := by
  have other := kind_ne_judge (closed.regular ofClass) describes admits
  cases step : d.part? tag segment with
  | error fault =>
    have failed : d.walk tag [segment] = .error fault := by rw [Datum.walk_cons, step, error_bind]
    exact Datum.clear_of_fault failed (Datum.fault_ne_judge step other)
  | ok part =>
    have walked : d.walk tag [segment] = .ok part := by
      rw [Datum.walk_cons, step, ok_bind, Datum.walk_nil]
    have childClass := closed.leads (closed.required ofClass) leads
    have childAdmits := admits_of_part? closed ofClass leads admits step
    exact Datum.clear_of_walk walked
      (kind_ne_judge (closed.regular childClass) childDescribes childAdmits)

/-- A path leads on with the shapes. -/
theorem Env.LeadsTo.step {path : List String} (before : env.LeadsTo tag path shape)
    (closed : ShapeClass tag P) (ofClass : P shape) (filled : path ≠ []) {field next : Field}
    (describes : field.Describes tag shape) (leads : shape.required.Leads tag segment child)
    (childDescribes : next.Describes tag child) : env.LeadsTo tag (path ++ [segment]) child := by
  have ofClass' := closed.required ofClass
  have leads' := leads
  rw [← required_required] at leads'
  constructor
  · intro found here
    rw [Env.find?_append filled] at here
    cases walked : env.find? tag path with
    | none =>
      rw [walked] at here
      cases here
    | some between =>
      rw [walked] at here
      cases between with
      | none => cases here
      | some d => exact admits_of_find? closed ofClass' leads' (before.admits walked) here
  · refine before.clear.append filled fun d walked => ?_
    exact clear_of_admits closed ofClass' describes.required leads' childDescribes
      (before.admits walked)

/-- The first segment of a path stands for what is known of it, be it bound or not. -/
theorem starts_of_start? (closed : ShapeClass tag P) {schema : Schema}
    (rooted : Rooted tag P schema env.root) {names : List (String × Option Field)}
    (knows : Knows tag P names env.frames.flatten) {first : String} (other : first ≠ passedName)
    (known : names.lookup first ≠ some none) {field : Field}
    (start : schema.start? (Scope.ofKnown names) first = some field) :
    ∃ shape, P shape ∧ field.Describes tag shape ∧ env.Starts tag P first shape := by
  have meets := knows first other
  rw [Schema.start?, Scope.lookup_ofKnown known] at start
  cases bound : env.lookup first with
  | none =>
    rw [← Env.lookup, bound] at meets
    generalize names.lookup first = here at meets start
    cases meets
    obtain ⟨top, shape, ofClass, describes, rfl, single, admits⟩ := rooted
    obtain ⟨child, leads, childDescribes⟩ :=
      Shape.leads_of_field? (closed.regular ofClass) describes start
    rw [single] at leads
    exact ⟨child, closed.leads (closed.required ofClass) leads, childDescribes,
      .free bound ofClass describes leads admits⟩
  | some d =>
    rw [← Env.lookup, bound] at meets
    generalize names.lookup first = here at meets start known
    cases meets with
    | @bound known' _ suits =>
      cases known' with
      | none => exact absurd rfl known
      | some field' =>
        cases start
        obtain ⟨shape, ofClass, describes, admits⟩ := suits field rfl
        exact ⟨shape, ofClass, describes, .bound bound admits⟩

theorem Env.Starts.leadsTo {first : String} (starts : env.Starts tag P first shape)
    (closed : ShapeClass tag P) (ofClass : P shape) {field : Field}
    (describes : field.Describes tag shape) : env.LeadsTo tag [first] shape := by
  cases starts with
  | @bound d binds admits =>
    have other := kind_ne_judge (closed.regular ofClass) describes admits
    constructor
    · intro found here
      rw [Env.find?_bound binds] at here
      exact find?_nil_of_admits admits here
    · rw [Env.Clear, Env.base_bound binds]
      exact ⟨fun walked => by cases walked; exact other, nofun⟩
  | free unbound topClass topDescribes leads admits =>
    constructor
    · intro found here
      rw [Env.find?_unbound unbound] at here
      exact admits_of_find? closed topClass leads admits here
    · rw [Env.Clear, Env.base_unbound unbound]
      exact clear_of_admits closed topClass topDescribes leads describes admits

theorem inside_required (shape : Shape) : shape.required.inside = shape.inside := by
  fun_induction Shape.required shape with
  | case1 inner ih => exact ih
  | case2 => rfl

/-- A field that is a list describes lists, and below any other field the shape is not passed on. -/
theorem Field.Describes.collection {field : Field} (describes : field.Describes tag shape) :
    (field.collection = some .list ∧ ∃ element, shape.required = .list element) ∨
      (field.collection ≠ some .list ∧ shape.inside = shape.required) := by
  fun_induction Shape.required shape with
  | case1 inner ih => exact ih describes.inner
  | case2 shape other =>
    cases shape with
    | optional inner => exact absurd rfl (other inner)
    | list element =>
      obtain ⟨name, rfl⟩ := describes.exists_name (by rw [Schema.fieldOf?])
      exact .inl ⟨(ofElement_parts _ _).2.2, element, rfl⟩
    | map =>
      obtain ⟨plain, name, derived, rfl⟩ := describes
      simp only [Schema.fieldOf?] at derived
      split at derived <;> cases derived <;> exact .inr ⟨(fun isList => by cases isList), rfl⟩
    | any | sealed => exact absurd (by rw [Schema.fieldOf?]) describes.ne_none
    | _ =>
      obtain ⟨name, rfl⟩ := describes.exists_name (by rw [Schema.fieldOf?])
      exact .inr ⟨(fun isList => by cases isList), rfl⟩

/-- The schema of a shape is the level below the field that describes the shape. -/
theorem describes_of_ofShape (noJudge : ∀ name level, shape.required ≠ .judge name level)
    {schema : Schema} (derived : Schema.ofShape tag shape = .ok schema) :
    ∃ field : Field, field.Describes tag shape ∧ field.fields = schema ∧
      shape.inside = shape.required := by
  rw [Schema.ofShape_eq] at derived
  split at derived
  next name fields isRecord =>
    cases derived
    refine ⟨{ fields := Schema.addMembers tag fields [] }, .of_fieldOf? ?_, rfl, ?_⟩
    · rw [← fieldOf?_required, isRecord, Schema.fieldOf?]
    · rw [← inside_required, isRecord]
      rfl
  next key value isMap =>
    split at derived
    next text =>
      cases derived
      refine ⟨.ofValue (Schema.fieldOf? tag value), .of_fieldOf? ?_, ?_, ?_⟩
      · rw [← fieldOf?_required, isMap, Schema.fieldOf?, if_pos text]
      · cases Schema.fieldOf? tag value <;> rfl
      · rw [← inside_required, isMap]
        rfl
    next => cases derived
  next name level isJudge => exact absurd isJudge (noJudge name level)
  next => cases derived

/-- The schema of a shape is the topmost level for its data. -/
theorem rooted_of_ofShape (closed : ShapeClass tag P) (ofClass : P shape) {schema : Schema}
    (derived : Schema.ofShape tag shape = .ok schema) {d : Datum} (admits : shape.Admits d) :
    Rooted tag P schema d := by
  have noJudge (name : String) (level : Schema) : shape.required ≠ .judge name level := by
    intro isJudge
    have regular := closed.regular (closed.required ofClass)
    rw [isJudge] at regular
    cases regular
  obtain ⟨field, describes, level, single⟩ := describes_of_ofShape noJudge derived
  exact ⟨field, shape, ofClass, describes, level, single, admits⟩

end

end Sift
