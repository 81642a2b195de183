import Mathlib.Data.List.Induction
import Sift.Proofs.Evaluation.Judges
import Sift.Proofs.Typing.Shapes

/-!
# Exposed names of a record

A tag may expose several fields of a record under one name, and it may exclude a field whose own name
another one is exposed under. The schema of the record then has, under the name, the last of the fields
that are exposed under it and of which a path can tell anything (`of_lookup_addMembers_named`). The
record itself gives its first one, and nothing at all if that one is excluded
(`outcome_resolve_of_claims`). Both are the same field as long as no field in front of the one in the
schema claims the name (`exposed_name_resolves`); if one does, they are not
(`exposed_name_is_another_field`).
-/

namespace Sift

/-- A field of a record with the shape it is declared with and the value it has. -/
structure Row where
  member : Member
  shape : Shape
  value : Datum

namespace Row

/-- The field as it is declared. -/
def declared (row : Row) : Member × Shape := (row.member, row.shape)

/-- The field as it is filled. -/
def filled (row : Row) : Member × Datum := (row.member, row.value)

end Row

/-- A field decides what a name means in its record: it is exposed under the name, or it is excluded
and called so itself. -/
def Member.Claims (tag : String) (m : Member) (name : String) : Prop :=
  m.Exposes tag name ∨ m.exposure tag = .ignored ∧ m.name = name

/-! ## In the schema -/

namespace Schema

variable {tag segment : String} {fields more : List (Member × Shape)} {member : Member}
  {shape : Shape} {schema : Schema}

theorem addMembers_append :
    addMembers tag (fields ++ more) schema = addMembers tag more (addMembers tag fields schema) := by
  induction fields generalizing schema with
  | nil => rfl
  | cons head rest ih =>
    obtain ⟨member, shape⟩ := head
    simp only [List.cons_append, addMembers]
    split
    · exact ih
    · exact ih

/-- A field that is exposed under a name, and has a schema, takes the name. -/
theorem lookup_addMembers_singleton {field : Field} (exposes : member.Exposes tag segment)
    (derived : fieldOf? tag shape = some field) :
    (addMembers tag [(member, shape)] schema).lookup (.named segment) =
      some { field with declaredName := some member.name } := by
  obtain ⟨names, exposure, inside⟩ := exposes
  simp only [addMembers, exposure, derived]
  rw [lookup_insertAll, if_pos ⟨segment, inside, rfl⟩]

/-- Any other field leaves the name alone. -/
theorem lookup_addMembers_singleton_of_none
    (without : member.Exposes tag segment → fieldOf? tag shape = none) :
    (addMembers tag [(member, shape)] schema).lookup (.named segment) =
      schema.lookup (.named segment) := by
  simp only [addMembers]
  split
  next names field exposure derived =>
    rw [lookup_insertAll, if_neg]
    rintro ⟨name, inside, same⟩
    cases same
    cases (without ⟨names, exposure, inside⟩).symm.trans derived
  next => rfl

/-- The level of a record has, under a name, its last field that is exposed under the name and has a
schema. -/
theorem of_lookup_addMembers_named {rows : List Row} {entry : Field}
    (found : (addMembers tag (rows.map Row.declared) []).lookup (.named segment) = some entry) :
    ∃ before row after field, rows = before ++ row :: after ∧ row.member.Exposes tag segment ∧
      fieldOf? tag row.shape = some field ∧
      entry = { field with declaredName := some row.member.name } ∧
      ∀ later ∈ after, later.member.Exposes tag segment → fieldOf? tag later.shape = none := by
  induction rows using List.reverseRecOn with
  | nil => cases found
  | append_singleton rest row ih =>
    rw [List.map_append, addMembers_append] at found
    by_cases without : row.member.Exposes tag segment → fieldOf? tag row.shape = none
    · have there := (lookup_addMembers_singleton_of_none without).symm.trans found
      obtain ⟨before, last, after, field, rfl, exposes, derived, same, others⟩ := ih there
      refine ⟨before, last, after ++ [row], field, ?_, exposes, derived, same, ?_⟩
      · rw [List.append_assoc, List.cons_append]
      · exact List.forall_mem_append.mpr ⟨others, List.forall_mem_singleton.mpr without⟩
    · obtain ⟨exposes, described⟩ := Classical.not_imp.mp without
      obtain ⟨field, derived⟩ := Option.ne_none_iff_exists'.mp described
      have here := (lookup_addMembers_singleton exposes derived).symm.trans found
      exact ⟨rest, row, [], field, rfl, exposes, derived, (Option.some.inj here).symm,
        List.forall_mem_nil _⟩

end Schema

/-! ## In the record -/

/-- What is reached where a path ends. -/
def Datum.reached (part : Nat) : Datum → Reached
  | .judge j => .judge j part
  | d => .datum d

namespace Datum

variable {tag segment : String} {fields more : List (Member × Datum)} {member : Member}

/-- Fields that do not claim a name are passed over. -/
theorem field?_append (unclaimed : ∀ p ∈ fields, ¬ p.1.Claims tag segment) :
    field? tag segment (fields ++ more) = field? tag segment more := by
  induction fields with
  | nil => rfl
  | cons head rest ih =>
    obtain ⟨member, value⟩ := head
    obtain ⟨passed, others⟩ := List.forall_mem_cons.mp unclaimed
    rw [List.cons_append, field?]
    split
    next => exact ih others
    next exposure =>
      rw [if_neg fun same => passed (.inr ⟨exposure, same⟩)]
      exact ih others
    next names exposure =>
      rw [if_neg fun claimed => passed (.inl ⟨names, exposure, List.contains_iff_mem.mp claimed⟩)]
      exact ih others

/-- A field that claims a name has it, or refuses it. -/
theorem field?_cons_of_claims (claims : member.Claims tag segment) (value : Datum) :
    field? tag segment ((member, value) :: more) =
      if member.exposure tag = .ignored then .error (.fieldIgnored segment) else .ok value := by
  rw [field?]
  rcases claims with ⟨names, exposure, inside⟩ | ⟨exposure, same⟩
  · simp only [exposure, List.contains_iff_mem.mpr inside, if_true, reduceCtorEq, if_false]
  · simp only [exposure, same, if_true]

/-- A path ends where no segment is left. -/
theorem follow_end (d : Datum) (part : Nat) :
    d.follow tag none part [] = pure (d.reached part) := by
  cases d <;> rfl

/-- A path of one segment ends at the part that the segment leads to. -/
theorem outcome_resolve_segment {d : Datum} (other : d.kind ≠ .judge) :
    (d.resolve tag none [segment] 0).outcome =
      ((d.part? tag segment).mapError fun fault => ⟨[segment], 0, fault⟩).map (reached 1) := by
  have start : min 0 [segment].length = 0 := rfl
  simp only [resolve, start, List.drop_zero, follow_cons other, follow_end, Traced.outcome_mapError,
    Traced.outcome_bind, Traced.outcome_ofExcept]
  cases d.part? tag segment <;> rfl

/-- In a record, the first field that claims a name decides. -/
theorem outcome_resolve_of_claims {name : String} {before after : List Row} {row : Row}
    (unclaimed : ∀ earlier ∈ before, ¬ earlier.member.Claims tag segment)
    (claims : row.member.Claims tag segment) :
    ((record name ((before ++ row :: after).map Row.filled)).resolve tag none [segment] 0).outcome =
      if row.member.exposure tag = .ignored then .error ⟨[segment], 0, .fieldIgnored segment⟩
      else .ok (row.value.reached 1) := by
  have passed : ∀ p ∈ before.map Row.filled, ¬ p.1.Claims tag segment :=
    List.forall_mem_map.mpr unclaimed
  have other : (record name ((before ++ row :: after).map Row.filled)).kind ≠ .judge := nofun
  rw [outcome_resolve_segment other, part?, List.map_append, field?_append passed, List.map_cons,
    Row.filled, field?_cons_of_claims claims]
  split <;> rfl

end Datum

/-! ## Both -/

/-- The entry under an exposed name was derived from the last field of the record that is exposed under
the name and has a schema, and it says which one that is. In a record with the same fields the name
leads to that one, if none in front of it claims the name; otherwise the first one that does decides. -/
theorem exposed_name_resolves {tag : String} {rows : List Row} {name other : String}
    {schema : Schema}
    (derived : Schema.ofShape tag (.record name (rows.map Row.declared)) = .ok schema)
    {segment : String} {entry : Field} (exposed : schema.get? (.named segment) = some entry) :
    ∃ before row after field, rows = before ++ row :: after ∧ row.member.Exposes tag segment ∧
      Schema.fieldOf? tag row.shape = some field ∧
      entry = { field with declaredName := some row.member.name } ∧
      (∀ later ∈ after, later.member.Exposes tag segment → Schema.fieldOf? tag later.shape = none) ∧
      ((∀ earlier ∈ before, ¬ earlier.member.Claims tag segment) →
        ((Datum.record other (rows.map Row.filled)).resolve tag none [segment] 0).outcome =
          .ok (row.value.reached 1)) ∧
      ∀ front first between, before = front ++ first :: between →
        (∀ earlier ∈ front, ¬ earlier.member.Claims tag segment) →
        first.member.Claims tag segment →
        ((Datum.record other (rows.map Row.filled)).resolve tag none [segment] 0).outcome =
          if first.member.exposure tag = .ignored then
            .error ⟨[segment], 0, .fieldIgnored segment⟩
          else .ok (first.value.reached 1) := by
  rw [Schema.ofShape_eq] at derived
  cases derived
  obtain ⟨before, row, after, field, rfl, exposes, described, same, last⟩ :=
    Schema.of_lookup_addMembers_named exposed
  refine ⟨before, row, after, field, rfl, exposes, described, same, last, ?_, ?_⟩
  · intro unclaimed
    have included : row.member.exposure tag ≠ .ignored := by
      obtain ⟨names, exposure, -⟩ := exposes
      rw [exposure]
      nofun
    rw [Datum.outcome_resolve_of_claims unclaimed (.inl exposes), if_neg included]
  · rintro front first between rfl unclaimed claims
    rw [List.append_assoc]
    exact Datum.outcome_resolve_of_claims unclaimed claims

/-- Three fields under one name: the first one is private, and the last one has no schema. -/
def Row.sample : List Row :=
  [⟨{ name := "n", isPrivate := true }, .bool, .bool true⟩,
    ⟨{ name := "a", tags := [("bexpr", "n, m")] }, .int .w64, .int 1⟩,
    ⟨{ name := "b", tags := [("bexpr", "n")] }, .any, .null⟩]

/-- The name stands for the field in the middle, in the schema as in the record. -/
theorem exposed_name_resolves_sample :
    ∃ schema entry, Schema.ofShape "bexpr" (.record "Box" (Row.sample.map Row.declared)) = .ok schema ∧
      schema.get? (.named "n") = some entry ∧ entry.declaredName = some "a" ∧
      ((Datum.record "Box" (Row.sample.map Row.filled)).resolve "bexpr" none ["n"] 0).outcome =
        .ok (.datum (.int 1)) := by
  obtain ⟨schema, entry, derived, exposed, named⟩ : ∃ schema entry,
      Schema.ofShape "bexpr" (.record "Box" (Row.sample.map Row.declared)) = .ok schema ∧
        schema.get? (.named "n") = some entry ∧ entry.declaredName = some "a" :=
    ⟨_, _, rfl, rfl, rfl⟩
  refine ⟨schema, entry, derived, exposed, named, ?_⟩
  obtain ⟨before, row, after, field, rows, exposes, described, -, -, resolves, -⟩ :=
    @exposed_name_resolves "bexpr" Row.sample "Box" "Box" schema derived "n" entry exposed
  rcases before with - | ⟨first, - | ⟨second, - | ⟨third, more⟩⟩⟩
  · cases rows
    obtain ⟨names, exposure, -⟩ := exposes
    cases exposure
  · cases rows
    refine resolves (List.forall_mem_singleton.mpr ?_)
    rintro (⟨names, exposure, -⟩ | ⟨exposure, -⟩) <;> cases exposure
  · cases rows
    cases described
  · have counted := congrArg List.length rows
    simp only [Row.sample, List.length_append, List.length_cons, List.length_nil] at counted
    omega

/-- Of two fields under one name the schema has the later one and the record gives the first one; and
where a field is excluded, its name is refused although another field is exposed under it. -/
theorem exposed_name_is_another_field :
    (∃ schema entry, Schema.ofShape "bexpr" (.record "Box"
        [({ name := "a", tags := [("bexpr", "n")] }, .int .w64),
          ({ name := "b", tags := [("bexpr", "n")] }, .string)]) = .ok schema ∧
      schema.get? (.named "n") = some entry ∧ entry.declaredName = some "b" ∧
      ((Datum.record "Box" [({ name := "a", tags := [("bexpr", "n")] }, .int 1),
        ({ name := "b", tags := [("bexpr", "n")] }, .string "abc")]).resolve "bexpr" none
          ["n"] 0).outcome = .ok (.datum (.int 1))) ∧
    (∃ schema entry, Schema.ofShape "bexpr" (.record "Box"
        [({ name := "n", tags := [("bexpr", "-")] }, .int .w64),
          ({ name := "b", tags := [("bexpr", "n")] }, .string)]) = .ok schema ∧
      schema.get? (.named "n") = some entry ∧ entry.declaredName = some "b" ∧
      ((Datum.record "Box" [({ name := "n", tags := [("bexpr", "-")] }, .int 1),
        ({ name := "b", tags := [("bexpr", "n")] }, .string "abc")]).resolve "bexpr" none
          ["n"] 0).outcome = .error ⟨["n"], 0, .fieldIgnored "n"⟩) :=
  ⟨⟨_, _, rfl, rfl, rfl, rfl⟩, ⟨_, _, rfl, rfl, rfl, rfl⟩⟩

end Sift
