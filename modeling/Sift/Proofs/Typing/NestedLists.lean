import Sift.Proofs.Typing.Agreement

/-!
# Lists of lists

A schema passes the fields of a record up through every list around it, however deep, but a selector
passes through one list per segment. So the selector of a field below a list of lists checks and is
taken into the outer list only: where it should go on in a record it stands at an inner list, which
has positions and no fields. Evaluation fails at the first inner list that is there
(`test_through_nested_lists`), also where a choice of elements satisfies the test
(`nested_lists_fail`).
-/

namespace Sift

/-! ## Fields of a record -/

section

variable {tag segment : String} {fields : List (Member × Shape)} {member : Member} {shape : Shape}

/-- Of entries told apart by their names one at most is exposed under a name. -/
theorem eq_of_exposes {α : Type} {member : α → Member} {entries : List α}
    (apart : entries.Pairwise fun p q =>
      ∀ name, (member p).Exposes tag name → ¬ (member q).Exposes tag name)
    {p q : α} (first : p ∈ entries) (second : q ∈ entries)
    (exposes : (member p).Exposes tag segment) (also : (member q).Exposes tag segment) : p = q := by
  by_contra other
  have symmetric : Std.Symm fun p q =>
      ∀ name, (member p).Exposes tag name → ¬ (member q).Exposes tag name :=
    ⟨fun _ _ apart name second first => apart name first second⟩
  exact apart.forall first second other segment exposes also

/-- What stands in a level stands there after the fields of a record are added, or another field
under the same name. -/
theorem lookup_addMembers_ne_none {schema : Schema} {name : FieldName}
    (there : schema.lookup name ≠ none) :
    (Schema.addMembers tag fields schema).lookup name ≠ none := by
  induction fields generalizing schema with
  | nil => exact there
  | cons head rest ih =>
    simp only [Schema.addMembers]
    split
    · refine ih ?_
      rw [Schema.lookup_insertAll]
      split
      · exact Option.some_ne_none _
      · exact there
    · exact ih there

/-- An exposed field that is described has an entry in the level of the record. -/
theorem lookup_addMembers_of_exposes {schema : Schema} (inside : (member, shape) ∈ fields)
    (exposes : member.Exposes tag segment) (known : Schema.fieldOf? tag shape ≠ none) :
    (Schema.addMembers tag fields schema).lookup (.named segment) ≠ none := by
  induction fields generalizing schema with
  | nil => cases inside
  | cons head rest ih =>
    rcases List.mem_cons.mp inside with rfl | later
    · obtain ⟨names, exposure, claimed⟩ := exposes
      obtain ⟨field, derived⟩ := Option.ne_none_iff_exists'.mp known
      simp only [Schema.addMembers, exposure, derived]
      refine lookup_addMembers_ne_none ?_
      rw [Schema.lookup_insertAll, if_pos ⟨segment, claimed, rfl⟩]
      exact Option.some_ne_none _
    · simp only [Schema.addMembers]
      split
      · exact ih later
      · exact ih later

/-- A record has an entry for an exposed field, and it describes the shape of the field. -/
theorem exists_field?_of_exposes {name : String} (regular : (Shape.record name fields).Regular tag)
    (inside : (member, shape) ∈ fields) (exposes : member.Exposes tag segment)
    (known : Schema.fieldOf? tag shape ≠ none) :
    ∃ field, (Schema.addMembers tag fields []).field? segment = some field ∧
      field.Describes tag shape := by
  have there : (Schema.addMembers tag fields []).lookup (.named segment) ≠ none :=
    lookup_addMembers_of_exposes inside exposes known
  obtain ⟨field, found⟩ := Option.ne_none_iff_exists'.mp there
  have reached : (Schema.addMembers tag fields []).field? segment = some field := by
    rw [Schema.field?, Schema.get?, found, Option.some_or]
  cases regular with
  | record _ apart =>
    obtain ⟨p, there, also, describes⟩ := Schema.field?_addMembers reached
    rw [eq_of_exposes apart there inside also exposes] at describes
    exact ⟨field, reached, describes⟩

end

/-! ## The checked test -/

/-- Below a list, one segment is one quantifier, whatever the elements of the list are. -/
theorem passThrough_of_list {schema : Schema} {segment key : String} {field : Field}
    (start : schema.field? segment = some field) (isList : field.collection = some .list)
    {patterns : PatternEngine} {limits : Limits} {form : SelectorForm} {operator : Operator}
    {literal : Option String} {checked : CheckedExpr} {tests : Nat}
    (checks : (check patterns limits (some schema)
      (.test ⟨form, [segment, key]⟩ operator literal)).outcome = .ok (checked, tests)) :
    ∃ checkedLiteral, checked = .quantified .any ⟨form, [segment]⟩ (.value passedName)
      (.test ⟨form, [passedName, key]⟩ operator checkedLiteral) := by
  have filled : schema ≠ [] := by
    rintro rfl
    cases start
  obtain ⟨route, checkedLiteral, routed, -, -, rfl⟩ :=
    of_checkTest (of_checkedIn_test (of_check_filled filled checks))
  obtain ⟨first, rest, field', below, path, start', followed, rfl⟩ := of_route routed
  cases path
  have same : field' = field := Option.some.inj (start'.symm.trans start)
  subst same
  obtain ⟨next, end', -, behind, ⟨-, rfl⟩ | ⟨other, -⟩⟩ := of_follow_cons followed
  · cases behind
    exact ⟨checkedLiteral, rfl⟩
  · exact absurd isList other

/-! ## Evaluation -/

namespace Settings

variable {patterns : PatternEngine} {tag key : String} {env : Env}

/-- Where nothing is, the operator has the answer. -/
theorem answer?_below_null (named : env.lookup passedName = some .null) (form : SelectorForm)
    (operator : Operator) (literal : Option CheckedLiteral) :
    (ofTag patterns tag).answer? (.test ⟨form, [passedName, key]⟩ operator literal) env =
      some operator.ifAbsent := by
  have found : env.find? tag [passedName, key] = some none := by
    rw [Env.find?_bound named]
    rfl
  have clear := Env.clear_of_find? found fun next there => absurd there (Option.not_mem_none next)
  rw [answer?_test clear, found]
  rfl

/-- A list has no field. -/
theorem answer?_below_list {items : List Datum} (named : env.lookup passedName = some (.list items))
    (byName : natural64? key = none) (form : SelectorForm) (operator : Operator)
    (literal : Option CheckedLiteral) :
    (ofTag patterns tag).answer? (.test ⟨form, [passedName, key]⟩ operator literal) env = none := by
  have stuck : (Datum.list items).walk tag [key] = .error (.invalidIndex key) := by
    rw [Datum.walk_cons, Datum.part?, byName]
    rfl
  have clear : env.Clear tag [passedName, key] := by
    rw [Env.Clear, Env.base_bound named]
    refine Datum.clear_of_fault stuck ?_
    intro judge
    cases judge
  have found : env.find? tag [passedName, key] = none := by
    rw [Env.find?_bound named, Datum.find?, stuck]
    rfl
  rw [answer?_test clear, found]
  rfl

/-- Whether the items of a list are there or not, a test that goes on below each of them by name gives
the answer for what is absent where one is, and fails at the first one that is not. -/
theorem test_through_nested_lists {tag name segment key : String} {fields : List (Member × Shape)}
    (regular : (Shape.record name fields).Regular tag) {member : Member}
    {outer middle inner : Shape} (inside : (member, outer) ∈ fields)
    (exposes : member.Exposes tag segment) (isList : outer.required = .list middle)
    (nested : middle.required = .list inner) (byName : natural64? key = none) {schema : Schema}
    (derived : Schema.ofShape tag (.record name fields) = .ok schema) {limits : Limits}
    {form : SelectorForm} {operator : Operator} {literal : Option String} {checked : CheckedExpr}
    {tests : Nat}
    (checks : (check patterns limits (some schema)
      (.test ⟨form, [segment, key]⟩ operator literal)).outcome = .ok (checked, tests))
    {d : Datum} (admits : (Shape.record name fields).Admits d) :
    (ofTag patterns tag).answer? checked ⟨d, []⟩ =
      d.find? tag [segment] >>= fun found => match found with
      | some (.list items) =>
        items.anyM fun item => if item.isNull then some operator.ifAbsent else none
      | _ => some false := by
  rw [Schema.ofShape_eq] at derived
  cases derived
  have known : Schema.fieldOf? tag outer ≠ none := by
    rw [← fieldOf?_required, isList, Schema.fieldOf?]
    exact Option.some_ne_none _
  obtain ⟨field, start, describes⟩ := exists_field?_of_exposes regular inside exposes known
  have collected : field.collection = some .list := by
    have ofList : field.Describes tag (.list middle) := isList ▸ describes.required
    obtain ⟨name, rfl⟩ := ofList.exists_name (by rw [Schema.fieldOf?])
    exact (ofElement_parts _ _).2.2
  obtain ⟨checkedLiteral, rfl⟩ := passThrough_of_list start collected checks
  have leads : (Shape.record name fields).Leads tag segment outer := .record inside exposes
  have clear : (⟨d, []⟩ : Env).Clear tag [segment] :=
    clear_of_admits (regularClass tag) regular (.of_fieldOf? (by rw [Schema.fieldOf?])) leads
      describes admits
  rw [answer?_quantified_of_clear clear, Env.find?_root]
  refine Option.bind_congr fun found here => ?_
  cases found with
  | none => rfl
  | some list =>
    have listAdmits := admits_of_find? (regularClass tag) regular leads admits here
    rw [isList] at listAdmits
    cases listAdmits with
    | @list _ items itemsAdmit =>
      simp only [quantified?, frames?_value, Datum.elements?, Option.map_some, Option.bind_eq_bind,
        Option.bind_some, quantify?_any]
      refine anyM_congr fun item there => ?_
      have named : ((⟨d, []⟩ : Env).push [(passedName, item)]).lookup passedName = some item :=
        Env.lookup_push_self _ _
      by_cases null : item = .null
      · subst null
        exact answer?_below_null named form operator checkedLiteral
      · have itemAdmits := (itemsAdmit item there).required null
        rw [nested] at itemAdmits
        cases itemAdmits
        exact answer?_below_list named byName form operator checkedLiteral

end Settings

/-! ## A board -/

/-- A board: rows, which may be absent, of points. -/
def Shape.sampleBoard : Shape :=
  .record "Board" [({ name := "grid" },
    .list (.optional (.list (.record "Point" [({ name := "x" }, .int .w64)]))))]

/-- A board with an absent row and one with a point. -/
def Datum.sampleBoard : Datum :=
  .record "Board" [({ name := "grid" },
    .list [.null, .list [.record "Point" [({ name := "x" }, .int 1)]]])]

theorem Shape.sampleBoard_admits : Shape.sampleBoard.Admits .sampleBoard := by
  refine .record rfl (List.forall_mem_singleton.mpr (.list (List.forall_mem_cons.mpr ⟨.absent _, ?_⟩)))
  refine List.forall_mem_singleton.mpr (.present (.list (List.forall_mem_singleton.mpr ?_)))
  exact .record rfl (List.forall_mem_singleton.mpr (.int _ _))

/-- The absent row differs from a point, and the test goes no further. -/
theorem test_through_nested_lists_board :
    ∃ schema checked, Schema.ofShape Schema.defaultTag .sampleBoard = .ok schema ∧
      (check Pattern.engine {} (some schema)
        (.test ⟨.words, ["grid", "x"]⟩ .notEqual (some "1"))).outcome = .ok (checked, 1) ∧
      (Settings.ofTag Pattern.engine Schema.defaultTag).answer? checked ⟨.sampleBoard, []⟩ =
        some true := by
  have regular : Shape.sampleBoard.Regular Schema.defaultTag := by
    refine .record (List.forall_mem_singleton.mpr (.list (.optional (.list ?_)))) ?_
    · refine .record (List.forall_mem_singleton.mpr (.int .w64)) ?_
      exact List.pairwise_singleton _ _
    · exact List.pairwise_singleton _ _
  obtain ⟨schema, derived⟩ : ∃ schema, Schema.ofShape Schema.defaultTag .sampleBoard = .ok schema :=
    ⟨_, rfl⟩
  obtain ⟨checked, checks⟩ : ∃ checked, (check Pattern.engine {} (some schema)
      (.test ⟨.words, ["grid", "x"]⟩ .notEqual (some "1"))).outcome = .ok (checked, 1) := by
    cases derived
    exact ⟨_, by cbv⟩
  refine ⟨schema, checked, derived, checks, ?_⟩
  have exposes : Member.Exposes Schema.defaultTag { name := "grid" } "grid" :=
    ⟨["grid"], rfl, List.mem_singleton_self _⟩
  rw [Settings.test_through_nested_lists regular (List.mem_singleton_self _) exposes rfl rfl (by decide)
    derived checks Shape.sampleBoard_admits]
  rfl

/-- There is a point that satisfies the test, and evaluation fails. -/
theorem nested_lists_fail :
    ∃ schema checked, Schema.ofShape Schema.defaultTag .sampleBoard = .ok schema ∧
      (check Pattern.engine {} (some schema)
        (.test ⟨.words, ["grid", "x"]⟩ .equal (some "1"))).outcome = .ok (checked, 1) ∧
      Shape.sampleBoard.Admits .sampleBoard ∧
      (∃ rows row point, Datum.sampleBoard.walk Schema.defaultTag ["grid"] = .ok (.list rows) ∧
        .list row ∈ rows ∧ point ∈ row ∧ (Settings.ofTag Pattern.engine Schema.defaultTag).answer?
          (.test ⟨.words, ["x"]⟩ .equal (some ⟨"1", none⟩)) ⟨point, []⟩ = some true) ∧
      (Settings.ofTag Pattern.engine Schema.defaultTag).answer? checked ⟨.sampleBoard, []⟩ = none := by
  refine ⟨_, _, rfl, by cbv, Shape.sampleBoard_admits, ?_, by cbv⟩
  refine ⟨_, _, _, rfl, List.mem_cons_of_mem _ (List.mem_singleton_self _),
    List.mem_singleton_self _, ?_⟩
  cbv

end Sift
