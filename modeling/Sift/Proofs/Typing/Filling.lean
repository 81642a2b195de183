import Mathlib
import Sift.Proofs.Evaluation.Lockstep
import Sift.Proofs.Typing.Widening

/-!
# Data with more fields

`Shape.Fills` relates data of a shape to the same data with further fields in the records that the
shape has. A test cannot tell them apart (`Shape.indistinct_fills`), and a segment that a schema of the
shape goes on by leads to data that are related again (`Shape.Fills.part?_agrees`): it is the name of a
field that the record has had before. The exception is a list, which has no names: there a segment that
is a position leads to an element, whatever the schema means by it.
-/

namespace Sift

/-! ## Filled data -/

/-- A datum and the same one with further fields in its records. -/
inductive Shape.Fills (tag : String) : Shape → Datum → Datum → Prop
  | same (shape : Shape) (d : Datum) : Fills tag shape d d
  | optional {inner : Shape} {d d' : Datum} : Fills tag inner d d' →
    Fills tag (.optional inner) d d'
  | list {element : Shape} {items : List (Datum × Datum)} :
    (∀ p ∈ items, Fills tag element p.1 p.2) →
    Fills tag (.list element) (.list (items.map (·.1))) (.list (items.map (·.2)))
  | map {key value : Shape} {entries : List (String × Datum × Datum)} :
    (∀ p ∈ entries, Fills tag value p.2.1 p.2.2) →
    Fills tag (.map key value) (.map (entries.map fun p => (p.1, p.2.1)))
      (.map (entries.map fun p => (p.1, p.2.2)))
  | pairs {key value : Shape} {entries : List ((Datum × Datum) × (Datum × Datum))} :
    (∀ p ∈ entries, Fills tag key p.1.1 p.1.2) → (∀ p ∈ entries, Fills tag value p.2.1 p.2.2) →
    Fills tag (.map key value) (.pairs (entries.map fun p => (p.1.1, p.2.1)))
      (.pairs (entries.map fun p => (p.1.2, p.2.2)))
  | record {name : String} {kept : List (Row × Datum)} {fields : List (Member × Datum)} :
    (∀ p ∈ kept, Fills tag p.1.shape p.1.value p.2) →
    Inserted (fun p => p.1.Spares tag (kept.map (·.1.member)))
      (kept.map fun p => (p.1.member, p.2)) fields →
    Fills tag (.record name (kept.map (·.1.declared))) (.record name (kept.map (·.1.filled)))
      (.record name fields)

namespace Shape

variable {tag : String} {shape : Shape} {d d' : Datum}

namespace Fills

/-- Where the data differ there is no judge. -/
theorem eq_or_other (fills : shape.Fills tag d d') :
    d' = d ∨ d.kind ≠ .judge ∧ d'.kind ≠ .judge := by
  induction fills with
  | same => exact .inl rfl
  | optional _ ih => exact ih
  | list | map | pairs | record => exact .inr ⟨nofun, nofun⟩

theorem face_eq (fills : shape.Fills tag d d') : d'.face = d.face := by
  induction fills with
  | optional _ ih => exact ih
  | same | list | map | pairs | record => rfl

theorem outline_eq (fills : shape.Fills tag d d') : d'.outline = d.outline := by
  induction fills with
  | same | record => rfl
  | optional _ ih => exact ih
  | list items _ =>
    simp only [Datum.outline, List.map_map, Datum.list.injEq]
    exact List.map_congr_left fun p inside => (items p inside).face_eq
  | map values _ => simp only [Datum.outline, List.map_map, Function.comp_def]
  | pairs keys _ _ _ =>
    simp only [Datum.outline, List.map_map, Datum.pairs.injEq]
    exact List.map_congr_left fun p inside => congrArg (·, Datum.null) (keys p inside).face_eq

theorem kind_eq (fills : shape.Fills tag d d') : d'.kind = d.kind := by
  rw [← Datum.kind_outline, fills.outline_eq, Datum.kind_outline]

theorem isScalar_eq (fills : shape.Fills tag d d') : d'.isScalar = d.isScalar := by
  rw [← Datum.isScalar_outline, fills.outline_eq, Datum.isScalar_outline]

theorem keyText?_eq (fills : shape.Fills tag d d') : d'.keyText? = d.keyText? := by
  induction fills with
  | optional _ ih => exact ih
  | same | list | map | pairs | record => rfl

/-- What no path looks into is the same. -/
theorem eq_of_undescribed (fills : shape.Fills tag d d')
    (unknown : Schema.fieldOf? tag shape = none) : d = d' := by
  induction fills with
  | same => rfl
  | optional _ ih =>
    rw [Schema.fieldOf?] at unknown
    exact ih unknown
  | list | record =>
    rw [Schema.fieldOf?] at unknown
    cases unknown
  | map | pairs =>
    simp only [Schema.fieldOf?] at unknown
    split at unknown <;> cases unknown

end Fills

/-- A test cannot tell a filled datum from the other one. -/
theorem indistinct_fills (tag : String) (shape : Shape) : Datum.Indistinct (shape.Fills tag) where
  refl := .same shape
  outline := Fills.outline_eq

end Shape

/-! ## Parts -/

section

variable {tag segment : String} {shape child : Shape}

theorem agrees_of_eq (outcome : Except PathFault Datum) :
    Traced.Agrees (child.Fills tag) (.ofExcept outcome : Traced Datum PathFault Datum)
      (.ofExcept outcome) :=
  (Traced.Agrees.refl _).mono fun _ _ same => same ▸ .same child _

/-- A name that a record has had leads to the field that it has led to. -/
theorem field?_agrees_of_inserted {new : Member × Datum → Prop} {kept : List (Row × Datum)}
    {fields : List (Member × Datum)}
    (inserted : Inserted new (kept.map fun p => (p.1.member, p.2)) fields)
    (unclaimed : ∀ p, new p → ¬ p.1.Claims tag segment)
    (fills : ∀ p ∈ kept, p.1.member.Exposes tag segment → child.Fills tag p.1.value p.2) :
    Traced.Agrees (child.Fills tag)
      (.ofExcept (Datum.field? tag segment (kept.map (·.1.filled))) : Traced Datum PathFault Datum)
      (.ofExcept (Datum.field? tag segment fields)) := by
  generalize old : kept.map (fun p => (p.1.member, p.2)) = row at inserted
  induction inserted generalizing kept with
  | nil =>
    obtain rfl := List.map_eq_nil_iff.mp old
    exact .error [] _
  | @added p _ more isNew _ ih =>
    have passed : Datum.field? tag segment ([p] ++ more) = Datum.field? tag segment more :=
      Datum.field?_append (List.forall_mem_singleton.mpr (unclaimed p isNew))
    rw [List.singleton_append] at passed
    rw [passed]
    exact ih fills old
  | kept p _ ih =>
    obtain ⟨first, rest, rfl, rfl, others⟩ := List.map_eq_cons_iff.mp old
    obtain ⟨here, later⟩ := List.forall_mem_cons.mp fills
    have behind := ih later others
    rw [List.map_cons, Row.filled, Datum.field?, Datum.field?]
    split
    next => exact behind
    next =>
      split
      · exact .error [] _
      · exact behind
    next names exposure =>
      split
      next claimed => exact .ok [] (here ⟨names, exposure, List.contains_iff_mem.mp claimed⟩)
      next => exact behind

theorem lookup_fills {entries : List (String × Datum × Datum)}
    (fills : ∀ p ∈ entries, child.Fills tag p.2.1 p.2.2) (key : String) :
    Option.Rel (child.Fills tag) ((entries.map fun p => (p.1, p.2.1)).lookup key)
      ((entries.map fun p => (p.1, p.2.2)).lookup key) := by
  induction entries with
  | nil => exact .none
  | cons entry rest ih =>
    obtain ⟨here, later⟩ := List.forall_mem_cons.mp fills
    rw [List.map_cons, List.map_cons, lookup_cons_if, lookup_cons_if]
    split
    · exact .some here
    · exact ih later

theorem find?_fills {key : Shape} {entries : List ((Datum × Datum) × (Datum × Datum))}
    (keys : ∀ p ∈ entries, key.Fills tag p.1.1 p.1.2)
    (values : ∀ p ∈ entries, child.Fills tag p.2.1 p.2.2) (segment : String) :
    Option.Rel (fun p p' => child.Fills tag p.2 p'.2)
      ((entries.map fun p => (p.1.1, p.2.1)).find? fun (key, _) => key.keyText? == some segment)
      ((entries.map fun p => (p.1.2, p.2.2)).find? fun (key, _) => key.keyText? == some segment) := by
  induction entries with
  | nil => exact .none
  | cons entry rest ih =>
    obtain ⟨key, laterKeys⟩ := List.forall_mem_cons.mp keys
    obtain ⟨value, laterValues⟩ := List.forall_mem_cons.mp values
    simp only [List.map_cons, List.find?_cons, key.keyText?_eq]
    split
    · exact .some value
    · exact ih laterKeys laterValues

/-- A segment that leads on from a shape leads to related data, or fails alike. At a list it has to be
a name, of which a list has none. -/
theorem Shape.Fills.part?_agrees {d d' : Datum} (fills : shape.Fills tag d d')
    (regular : shape.Regular tag) (leads : shape.inside.Leads tag segment child)
    (byName : ∀ element, shape.required = .list element → natural64? segment = none) :
    Traced.Agrees (child.Fills tag)
      (.ofExcept (d.part? tag segment) : Traced Datum PathFault Datum)
      (.ofExcept (d'.part? tag segment)) := by
  induction fills with
  | same => exact agrees_of_eq _
  | optional _ ih =>
    cases regular with
    | optional regular => exact ih regular leads byName
  | @list element items _ =>
    simp only [Datum.part?, byName element rfl]
    exact .error [] _
  | @map key value entries values _ =>
    obtain ⟨rfl⟩ : child = value := by
      cases leads with
      | map => rfl
    have found := lookup_fills values segment
    simp only [Datum.part?]
    generalize (entries.map fun p => (p.1, p.2.1)).lookup segment = part,
      (entries.map fun p => (p.1, p.2.2)).lookup segment = part' at found ⊢
    cases found with
    | none => exact .error [] _
    | some there => exact .ok [] there
  | @pairs key value entries keys values _ _ =>
    obtain ⟨rfl⟩ : child = value := by
      cases leads with
      | map => rfl
    have found := find?_fills keys values segment
    simp only [Datum.part?]
    generalize (entries.map fun p => (p.1.1, p.2.1)).find? _ = part,
      (entries.map fun p => (p.1.2, p.2.2)).find? _ = part' at found ⊢
    cases found with
    | none => exact .error [] _
    | some there => exact .ok [] there
  | @record name kept fields fills inserted _ =>
    cases regular with
    | record _ apart =>
      rw [List.pairwise_map] at apart
      cases leads with
      | record inside exposes =>
        obtain ⟨p, there, declared⟩ := List.mem_map.mp inside
        cases declared
        refine field?_agrees_of_inserted inserted ?_ ?_
        · exact fun q spares => spares _ (List.mem_map_of_mem there) segment exposes
        · intro q also exposes'
          rw [eq_of_exposes apart there also exposes exposes']
          exact fills q also

end

/-! ## Names -/

/-- A field describes a regular shape. -/
def Field.Described (tag : String) (field : Field) : Prop :=
  ∃ shape : Shape, shape.Regular tag ∧ field.Describes tag shape

/-- Two data of which a field tells that they are related, or which are the same. -/
inductive Grown (tag : String) : Option Field → Datum → Datum → Prop
  | unknown (d : Datum) : Grown tag none d d
  | known {field : Field} {shape : Shape} {d d' : Datum} : shape.Regular tag →
    field.Describes tag shape → shape.Fills tag d d' → Grown tag (some field) d d'

/-- Names that are bound to related data, and the one that the check binds to any. -/
inductive Binds (tag : String) :
    List (String × Option Field) → List (String × Datum) → List (String × Datum) → Prop
  | nil : Binds tag [] [] []
  | cons (name : String) {known : Option Field} {d d' : Datum}
    {names : List (String × Option Field)} {bound bound' : List (String × Datum)} :
    Grown tag known d d' → Binds tag names bound bound' →
    Binds tag ((name, known) :: names) ((name, d) :: bound) ((name, d') :: bound')
  | passed (d d' : Datum) {names : List (String × Option Field)}
    {bound bound' : List (String × Datum)} : Binds tag names bound bound' →
    Binds tag names ((passedName, d) :: bound) ((passedName, d') :: bound')

/-- What a name is known as, and what it is bound to. -/
inductive Finds (tag : String) : Option (Option Field) → Option Datum → Option Datum → Prop
  | free : Finds tag none none none
  | bound {known : Option Field} {d d' : Datum} : Grown tag known d d' →
    Finds tag (some known) (some d) (some d')

section

variable {tag : String} {names more : List (String × Option Field)}
  {bound bound' added added' : List (String × Datum)}

theorem Binds.append (front : Binds tag more added added') (behind : Binds tag names bound bound') :
    Binds tag (more ++ names) (added ++ bound) (added' ++ bound') := by
  induction front with
  | nil => exact behind
  | cons name grown _ ih => exact .cons name grown ih
  | passed d d' _ ih => exact .passed d d' ih

theorem Binds.lookup (binds : Binds tag names bound bound') {name : String}
    (other : name ≠ passedName) :
    Finds tag (names.lookup name) (bound.lookup name) (bound'.lookup name) := by
  induction binds with
  | nil => exact .free
  | cons first grown _ ih =>
    rw [lookup_cons_if, lookup_cons_if, lookup_cons_if]
    split
    · exact .bound grown
    · exact ih
  | passed d d' _ ih =>
    rw [lookup_cons_if, lookup_cons_if, if_neg other, if_neg other]
    exact ih

/-- Whatever is known of a name describes a shape. -/
theorem Binds.described (binds : Binds tag names bound bound') {name : String} {field : Field}
    (found : (Scope.ofKnown names).lookup name = some field) : field.Described tag := by
  induction binds with
  | nil => cases found
  | cons first grown _ ih =>
    cases grown with
    | unknown => exact ih found
    | @known here shape _ _ regular describes =>
      have front {names : List (String × Option Field)} :
          Scope.ofKnown ((first, some here) :: names) = (first, here) :: Scope.ofKnown names := rfl
      rw [front, lookup_cons_if] at found
      split at found
      · cases found
        exact ⟨shape, regular, describes⟩
      · exact ih found
  | passed _ _ _ ih => exact ih found

end

/-! ## Collections -/

section

variable {tag : String} {shape : Shape} {field : Field} {d d' : Datum}

theorem grown_fieldOf? (regular : shape.Regular tag) (fills : shape.Fills tag d d') :
    Grown tag (Schema.fieldOf? tag shape) d d' := by
  cases derived : Schema.fieldOf? tag shape with
  | none =>
    rw [fills.eq_of_undescribed derived]
    exact .unknown _
  | some field => exact .known regular (.of_fieldOf? derived) fills

theorem grown_position (d : Datum) : Grown tag (some (.scalar (.int .w64))) d d :=
  .known (.int .w64) (.of_fieldOf? (by rw [Schema.fieldOf?])) (.same _ d)

theorem grown_key {key : Shape} (text : key.isText = true) (regular : key.Regular tag)
    (fills : key.Fills tag d d') : Grown tag (some (.scalar .string)) d d' :=
  .known regular (describes_key text) fills

theorem grown_self {known : Option Field}
    (described : ∀ field, known = some field → field.Described tag) (d : Datum) :
    Grown tag known d d := by
  cases known with
  | none => exact .unknown d
  | some field =>
    obtain ⟨shape, regular, describes⟩ := described field rfl
    exact .known regular describes (.same shape d)

theorem described_of_fieldOf? (regular : shape.Regular tag)
    (derived : Schema.fieldOf? tag shape = some field) : field.Described tag :=
  ⟨shape, regular, .of_fieldOf? derived⟩

/-- What is known of the parts of a collection describes shapes, too. -/
theorem parts_described (regular : shape.Regular tag) (describes : field.Describes tag shape) :
    (∀ index, field.index = some index → index.Described tag) ∧
      ∀ value, field.value = some value → value.Described tag := by
  induction regular generalizing field with
  | bool | int | uint | float32 | float64 | string | record =>
    obtain ⟨name, rfl⟩ := describes.exists_name (by rw [Schema.fieldOf?])
    exact ⟨(fun _ known => by cases known), (fun _ known => by cases known)⟩
  | any | sealed => exact absurd (by rw [Schema.fieldOf?]) describes.ne_none
  | optional _ ih => exact ih describes.inner
  | @list element regular _ =>
    obtain ⟨name, rfl⟩ := describes.exists_name (by rw [Schema.fieldOf?])
    obtain ⟨index, value, -⟩ := ofElement_parts (Schema.fieldOf? tag element) element.isScalar
    refine ⟨fun f known => ?_, fun f known => ?_⟩
    · rw [index] at known
      cases known
      exact described_of_fieldOf? (.int .w64) (by rw [Schema.fieldOf?])
    · rw [value] at known
      exact described_of_fieldOf? regular known
  | @map key value keyRegular regular _ _ =>
    obtain ⟨plain, name, derived, rfl⟩ := describes
    simp only [Schema.fieldOf?] at derived
    split at derived
    next text =>
      cases derived
      refine ⟨?_, fun f known => described_of_fieldOf? regular known⟩
      rintro f ⟨⟩
      exact ⟨key, keyRegular, describes_key text⟩
    next =>
      cases derived
      exact ⟨(fun _ known => by cases known), (fun _ known => by cases known)⟩

/-- A binding over a collection binds names to what is known of them, for one element. -/
theorem frame_binds {keyed : Bool} {place place' element element' : Datum}
    (index : Grown tag field.index place place') (value : Grown tag field.value element element')
    (each : Grown tag (if field.collection = some .map then field.index else field.value)
      (if keyed then place else element) (if keyed then place' else element')) (binding : Binding) :
    Binds tag (binding.known field) (binding.frame keyed place element)
      (binding.frame keyed place' element') := by
  cases binding with
  | each name => exact .cons name each .nil
  | index name => exact .cons name index .nil
  | value name => exact .cons name value .nil
  | both i v => exact .cons i index (.cons v value .nil)

/-- The frames over data that are the same. -/
theorem frames_self (regular : shape.Regular tag) (describes : field.Describes tag shape)
    (binding : Binding) (d : Datum) :
    Option.Rel (List.Forall₂ (Binds tag (binding.known field))) (binding.frames? d)
      (binding.frames? d) := by
  obtain ⟨index, value⟩ := parts_described regular describes
  have one (keyed : Bool) (place element : Datum) :
      Binds tag (binding.known field) (binding.frame keyed place element)
        (binding.frame keyed place element) := by
    refine frame_binds (grown_self index _) (grown_self value _) (grown_self ?_ _) binding
    split
    · exact index
    · exact value
  cases d with
  | list items =>
    refine .some (List.forall₂_same.mpr fun frame inside => ?_)
    obtain ⟨_, -, rfl⟩ := List.mem_map.mp inside
    exact one _ _ _
  | map entries | pairs entries =>
    refine .some (List.forall₂_same.mpr fun frame inside => ?_)
    obtain ⟨_, -, rfl⟩ := List.mem_map.mp inside
    exact one _ _ _
  | _ => exact .none

theorem frames_list_binds {element : Shape} (regular : element.Regular tag)
    (describes : field.Describes tag (.list element)) {items : List (Datum × Datum)}
    (fills : ∀ p ∈ items, element.Fills tag p.1 p.2) (binding : Binding) (start : Nat) :
    List.Forall₂ (Binds tag (binding.known field))
      (((items.map (·.1)).zipIdx start).map fun (item, i) =>
        binding.frame false (.int (Int64.ofNat i)) item)
      (((items.map (·.2)).zipIdx start).map fun (item, i) =>
        binding.frame false (.int (Int64.ofNat i)) item) := by
  induction items generalizing start with
  | nil => exact .nil
  | cons p rest ih =>
    obtain ⟨here, later⟩ := List.forall_mem_cons.mp fills
    refine .cons ?_ (ih later (start + 1))
    obtain ⟨name, rfl⟩ := describes.exists_name (by rw [Schema.fieldOf?])
    obtain ⟨index, value, collection⟩ := ofElement_parts (Schema.fieldOf? tag element) element.isScalar
    have item := grown_fieldOf? regular here
    refine frame_binds ?_ ?_ ?_ binding
    · rw [index]
      exact grown_position _
    · rw [value]
      exact item
    · rw [collection, if_neg (by decide), value]
      exact item

/-- The frame of an entry of a map. -/
theorem frame_map_binds {key value : Shape} (keyRegular : key.Regular tag)
    (regular : value.Regular tag) (describes : field.Describes tag (.map key value))
    (isCollection : field.collection ≠ none) {place place' element element' : Datum}
    (keys : key.Fills tag place place') (values : value.Fills tag element element')
    (binding : Binding) :
    Binds tag (binding.known field) (binding.frame true place element)
      (binding.frame true place' element') := by
  obtain ⟨plain, name, derived, rfl⟩ := describes
  simp only [Schema.fieldOf?] at derived
  split at derived
  next text =>
    cases derived
    have index := grown_key text keyRegular keys
    exact frame_binds index (grown_fieldOf? regular values) index binding
  next =>
    cases derived
    exact absurd rfl isCollection

/-- Over related data of a shape that a field describes, a binding has related frames. -/
theorem frames_fills (fills : shape.Fills tag d d') (regular : shape.Regular tag)
    (describes : field.Describes tag shape) (isCollection : field.collection ≠ none)
    (binding : Binding) :
    Option.Rel (List.Forall₂ (Binds tag (binding.known field))) (binding.frames? d)
      (binding.frames? d') := by
  induction fills with
  | same shape d => exact frames_self regular describes binding d
  | optional _ ih =>
    cases regular with
    | optional regular => exact ih regular describes.inner
  | list items _ =>
    cases regular with
    | list regular => exact .some (frames_list_binds regular describes items binding 0)
  | @map key value entries values _ =>
    cases regular with
    | map keyRegular regular =>
      simp only [Binding.frames?, List.map_map]
      refine .some (List.forall₂_map_left_iff.mpr (List.forall₂_map_right_iff.mpr ?_))
      refine List.forall₂_same.mpr fun p inside => ?_
      exact frame_map_binds keyRegular regular describes isCollection (.same key _)
        (values p inside) binding
  | @pairs key value entries keys values _ _ =>
    cases regular with
    | map keyRegular regular =>
      simp only [Binding.frames?, List.map_map]
      refine .some (List.forall₂_map_left_iff.mpr (List.forall₂_map_right_iff.mpr ?_))
      refine List.forall₂_same.mpr fun p inside => ?_
      exact frame_map_binds keyRegular regular describes isCollection (keys p inside)
        (values p inside) binding
  | record => exact .none

end

end Sift
