import Mathlib
import Sift.Proofs.Grammar.Image
import Sift.Proofs.Typing.Plain
import Sift.Query.Standard

/-!
# Well-typed queries have answers

A query that compiles under the schema of a plain shape answers for every datum of the shape. The
check has seen to the operator and to the literal at the end of a selector's route, so what is left
is that every selector reaches data of the shape that the route ends at, or nothing
(`Env.Reaches`). A list that is passed through takes the selector to its elements, one at a time and
under the name that the check binds; everything else that is bound on the way stays known
(`answers_passThrough`).
-/

namespace Sift

/-! ## Reaching data of a shape -/

/-- A path leads to data of a shape, or to nothing. -/
structure Env.Reaches (tag : String) (env : Env) (path : List String) (shape : Shape) : Prop extends
    env.LeadsTo tag path shape where
  total : (env.find? tag path).isSome = true

section

variable {tag segment first : String} {shape child : Shape} {env : Env} {path : List String}
  {field next : Field}

/-- The first segment of a path reaches what it stands for. -/
theorem Env.Starts.reaches (starts : env.Starts tag Shape.Plain first shape) (plain : shape.Plain)
    (describes : field.Describes tag shape) : env.Reaches tag [first] shape := by
  refine ⟨starts.leadsTo (plainClass tag) plain describes, ?_⟩
  cases starts with
  | @bound d binds admits =>
    rw [Env.find?_bound binds]
    cases d <;> rfl
  | free unbound topPlain _ leads admits =>
    rw [Env.find?_unbound unbound]
    exact find?_isSome_of_plain topPlain leads admits

/-- A segment behind a path reaches what the shape leads to. -/
theorem Env.Reaches.step (reaches : env.Reaches tag path shape) (plain : shape.Plain)
    (filled : path ≠ []) (describes : field.Describes tag shape)
    (leads : shape.required.Leads tag segment child) (childDescribes : next.Describes tag child) :
    env.Reaches tag (path ++ [segment]) child := by
  refine ⟨reaches.toLeadsTo.step (plainClass tag) plain filled describes leads childDescribes, ?_⟩
  obtain ⟨found, walked⟩ := Option.isSome_iff_exists.mp reaches.total
  rw [Env.find?_append filled, walked]
  cases found with
  | none => rfl
  | some d =>
    have plain' := (plainClass tag).required plain
    rw [← required_required] at leads
    exact find?_isSome_of_plain plain' leads (reaches.admits walked)

/-- A segment behind a list is reached from an element, under the name that the check binds. -/
theorem reaches_inside_element {element : Shape} (plain : element.Plain) {item : Datum}
    (admits : element.Admits item) (leads : element.required.Leads tag segment child)
    (childDescribes : next.Describes tag child) :
    (env.push [(passedName, item)]).Reaches tag [passedName, segment] child := by
  obtain ⟨elementField, derived⟩ := plain.exists_fieldOf? tag
  have describes := Field.Describes.of_fieldOf? derived
  have starts : (env.push [(passedName, item)]).Starts tag Shape.Plain passedName element :=
    .bound (Env.lookup_push_self _ _) admits
  have reaches := starts.reaches plain describes
  exact reaches.step plain (List.cons_ne_nil _ _) describes leads childDescribes

end

/-! ## Through lists -/

namespace Settings

variable {patterns : PatternEngine} {tag : String}

/-- A quantifier has an answer if the visits have. -/
theorem quantify?_isSome {quantifier : Quantifier} {visit : Frame → Option Bool}
    {frames : List Frame} (visits : ∀ frame ∈ frames, (visit frame).isSome = true) :
    (quantify? quantifier visit frames).isSome = true := by
  induction frames with
  | nil => rfl
  | cons frame rest ih =>
    rw [List.forall_mem_cons] at visits
    obtain ⟨answer, visited⟩ := Option.isSome_iff_exists.mp visits.1
    simp only [quantify?, visited, Option.bind_eq_bind, Option.bind_some]
    split
    · exact ih visits.2
    · rfl

/-- A test of what a path reaches has an answer if it has been checked for the field. -/
theorem answers_test {env : Env} {selector : Selector} {shape : Shape} {field : Field}
    (reaches : env.Reaches tag selector.path shape) (describes : field.Describes tag shape)
    (plain : shape.Plain) {operator : Operator} {literal : Option CheckedLiteral}
    (supported : field.supports operator = true)
    (checked : Test.Checked ⟨selector, operator, literal⟩ patterns field) :
    ((ofTag patterns tag).answer? (.test selector operator literal) env).isSome = true := by
  obtain ⟨found, walked⟩ := Option.isSome_iff_exists.mp reaches.total
  rw [answer?_test reaches.clear, walked]
  cases found with
  | none => rfl
  | some d =>
    have plain' := (plainClass tag).required plain
    obtain ⟨b, answered⟩ := run_of_describes describes.required plain' (reaches.admits walked)
      (Datum.ne_null_of_find? walked) supported checked
    simp only [Option.bind_eq_bind, Option.bind_some, verdict?, answered, toOption_ok,
      Option.isSome_some]

/-- A quantifier over what a path reaches has an answer if the field is a collection and the body
has answers for its parts. -/
theorem answers_quantified {env : Env} {selector : Selector} {shape : Shape} {field : Field}
    (reaches : env.Reaches tag selector.path shape) (describes : field.Describes tag shape)
    (plain : shape.Plain) (isCollection : field.collection ≠ none) {quantifier : Quantifier}
    {binding : Binding} {body : CheckedExpr}
    (visits : ∀ d, shape.required.Admits d → ∀ frames, binding.frames? d = some frames →
      ∀ frame ∈ frames, ((ofTag patterns tag).answer? body (env.push frame)).isSome = true) :
    ((ofTag patterns tag).answer? (.quantified quantifier selector binding body) env).isSome =
      true := by
  obtain ⟨found, walked⟩ := Option.isSome_iff_exists.mp reaches.total
  rw [answer?_quantified_of_clear reaches.clear, walked]
  cases found with
  | none => rfl
  | some d =>
    have plain' := (plainClass tag).required plain
    have admits := reaches.admits walked
    obtain ⟨frames, framed⟩ := exists_frames describes.required plain' admits
      (Datum.ne_null_of_find? walked) isCollection binding
    simp only [quantified?, framed, Option.bind_eq_bind, Option.bind_some]
    exact quantify?_isSome (visits d admits frames framed)

/-- A node inside quantifiers over the lists that are passed through has an answer if it has one
wherever its selector reaches data of the field at the end of the route. -/
theorem answers_passThrough {names : List (String × Option Field)} {form : SelectorForm}
    {node : Selector → CheckedExpr} {root : Datum} {goal : Field}
    (answers : ∀ (env : Env) path shape, env.root = root →
      Knows tag Shape.Plain names env.frames.flatten → env.Reaches tag path shape →
      goal.Describes tag shape → shape.Plain →
      ((ofTag patterns tag).answer? (node ⟨form, path⟩) env).isSome = true)
    {rest : List String} {field : Field} {route : Route} (followed : field.follow rest = .ok route)
    (ends : route.field = goal) {env : Env} (rooted : env.root = root)
    (knows : Knows tag Shape.Plain names env.frames.flatten) {path : List String}
    (filled : path ≠ []) {shape : Shape} (reaches : env.Reaches tag path shape)
    (describes : field.Describes tag shape) (plain : shape.Plain) :
    ((ofTag patterns tag).answer? (passThrough form node (path ++ route.first) route.others)
      env).isSome = true := by
  induction rest generalizing field route env path shape with
  | nil =>
    cases followed
    rw [List.append_nil]
    exact answers env path shape rooted knows reaches (ends ▸ describes) plain
  | cons segment rest ih =>
    obtain ⟨next, below, step, behind, cut⟩ := of_follow_cons followed
    obtain ⟨child, leads, childDescribes⟩ := Shape.leads_of_field? plain.regular describes step
    have plain' := (plainClass tag).required plain
    rcases describes.collection with ⟨isList, element, required⟩ | ⟨other, single⟩
    · rcases cut with ⟨-, rfl⟩ | ⟨other, -⟩
      · rw [List.append_nil]
        refine answers_quantified reaches describes plain (by rw [isList]; nofun) ?_
        intro d admits frames framed frame inside
        rw [required] at admits plain'
        rw [← inside_required, required, Shape.inside, plain'.inside_element] at leads
        cases admits with
        | @list _ items itemsAdmit =>
          rw [frames?_value] at framed
          cases framed
          obtain ⟨item, here, rfl⟩ := List.mem_map.mp inside
          have elementPlain := (plainClass tag).element plain'
          have childPlain := (plainClass tag).leads ((plainClass tag).required elementPlain) leads
          -- the element is bound in front of everything else, and the next selector starts there
          have sameRoot : (env.push [(passedName, item)]).root = root := rooted
          have goesOn : (env.push [(passedName, item)]).Reaches tag [passedName, segment] child :=
            reaches_inside_element elementPlain (itemsAdmit item here) leads childDescribes
          have answered := ih behind ends sameRoot (knows.passed item) (List.cons_ne_nil _ _) goesOn
            childDescribes childPlain
          exact answered
      · exact absurd isList other
    · rcases cut with ⟨isList, -⟩ | ⟨-, rfl⟩
      · exact absurd isList other
      · rw [List.append_cons]
        rw [single] at leads
        exact ih behind ends rooted knows (by simp)
          (reaches.step plain filled describes leads childDescribes) childDescribes
          ((plainClass tag).leads plain' leads)

/-! ## Expressions -/

theorem answers_and {left right : CheckedExpr} {env : Env}
    (leftAnswers : ((ofTag patterns tag).answer? left env).isSome = true)
    (rightAnswers : ((ofTag patterns tag).answer? right env).isSome = true) :
    ((ofTag patterns tag).answer? (.and left right) env).isSome = true := by
  obtain ⟨holds, answered⟩ := Option.isSome_iff_exists.mp leftAnswers
  rw [answer?_and, answered]
  cases holds with
  | true => exact rightAnswers
  | false => rfl

theorem answers_or {left right : CheckedExpr} {env : Env}
    (leftAnswers : ((ofTag patterns tag).answer? left env).isSome = true)
    (rightAnswers : ((ofTag patterns tag).answer? right env).isSome = true) :
    ((ofTag patterns tag).answer? (.or left right) env).isSome = true := by
  obtain ⟨holds, answered⟩ := Option.isSome_iff_exists.mp leftAnswers
  rw [answer?_or, answered]
  cases holds with
  | true => rfl
  | false => exact rightAnswers

/-- A node has an answer wherever the route of its selector ends if it has one wherever the selector
reaches data of the field there. -/
theorem answers_route {names : List (String × Option Field)}
    (complete : ∀ p ∈ names, p.2.isSome = true) {schema : Schema} {env : Env}
    (rooted : Rooted tag Shape.Plain schema env.root)
    (knows : Knows tag Shape.Plain names env.frames.flatten) {selector : Selector}
    (wellFormed : selector.WellFormed) {route : Route}
    (routed : schema.route (.ofKnown names) selector = .ok route) {node : Selector → CheckedExpr}
    (answers : ∀ (env' : Env) path shape, env'.root = env.root →
      Knows tag Shape.Plain names env'.frames.flatten → env'.Reaches tag path shape →
      route.field.Describes tag shape → shape.Plain →
      ((ofTag patterns tag).answer? (node ⟨selector.form, path⟩) env').isSome = true) :
    ((ofTag patterns tag).answer? (passThrough selector.form node route.first route.others)
      env).isSome = true := by
  obtain ⟨first, rest, field, below, path, start, followed, rfl⟩ := of_route routed
  have other := head_of_wellFormed wellFormed path
  have known : names.lookup first ≠ some none := fun bare => by
    cases complete _ (mem_of_lookup bare)
  obtain ⟨shape, plain, describes, starts⟩ :=
    starts_of_start? (plainClass tag) rooted knows other known start
  have passed := answers_passThrough answers followed rfl rfl knows (List.cons_ne_nil _ _)
    (starts.reaches plain describes) describes plain
  exact passed

/-- An expression that checks under the schema of a plain shape has an answer in every environment
of data that are known to the check. -/
theorem answers_of_checkedIn {limits : Limits} {schema : Schema} {e : Expr String}
    (wellFormed : e.WellFormed) {names : List (String × Option Field)}
    (complete : ∀ p ∈ names, p.2.isSome = true) {checked : CheckedExpr}
    (checks : (checkedIn patterns limits (some schema) (.ofKnown names) e).outcome = .ok checked)
    {env : Env} (rooted : Rooted tag Shape.Plain schema env.root)
    (knows : Knows tag Shape.Plain names env.frames.flatten) :
    ((ofTag patterns tag).answer? checked env).isSome = true := by
  induction e generalizing names checked env with
  | test selector operator literal =>
    obtain ⟨selectorFormed, taken, -⟩ := wellFormed
    obtain ⟨route, checkedLiteral, routed, supported, literals, rfl⟩ :=
      of_checkTest (of_checkedIn_test checks)
    refine answers_route complete rooted knows selectorFormed routed ?_
    intro env' path shape _ _ reaches describes plain
    exact answers_test reaches describes plain supported
      (.of_mapM_checkLiteral taken literals ⟨selector.form, path⟩)
  | not operand ih =>
    obtain ⟨inner, innerChecks, rfl⟩ := of_checkedIn_not checks
    rw [answer?_not, Option.isSome_map]
    exact ih wellFormed.1 complete innerChecks rooted knows
  | and left right ihLeft ihRight =>
    obtain ⟨left', right', leftChecks, rightChecks, rfl⟩ := of_checkedIn_and checks
    exact answers_and (ihLeft wellFormed.1 complete leftChecks rooted knows)
      (ihRight wellFormed.2 complete rightChecks rooted knows)
  | or left right ihLeft ihRight =>
    obtain ⟨left', right', leftChecks, rightChecks, rfl⟩ := of_checkedIn_or checks
    exact answers_or (ihLeft wellFormed.1 complete leftChecks rooted knows)
      (ihRight wellFormed.2 complete rightChecks rooted knows)
  | quantified quantifier selector binding body ih =>
    obtain ⟨selectorFormed, -, -, bodyFormed⟩ := wellFormed
    obtain ⟨route, inner, routed, isCollection, innerChecks, rfl⟩ := of_checkedIn_quantified checks
    rw [Binding.fields_eq, ← Scope.ofKnown_append] at innerChecks
    refine answers_route complete rooted knows selectorFormed routed ?_
    intro env' path shape sameRoot knows' reaches describes plain
    refine answers_quantified reaches describes plain isCollection ?_
    intro d admits frames framed frame inside
    have complete' : ∀ p ∈ binding.known route.field ++ names, p.2.isSome = true := by
      intro p here
      rcases List.mem_append.mp here with new | old
      · exact known_complete describes plain isCollection binding p new
      · exact complete p old
    have binds := knows_of_frames? (plainClass tag) ((plainClass tag).required plain)
      describes.required admits framed inside
    exact ih bodyFormed complete' innerChecks (sameRoot ▸ rooted) (binds.append knows')

/-! ## Schemas without fields -/

/-- Where nothing is found under any path, every expression has an answer. -/
theorem answers_of_hollow {root : Datum}
    (hollow : ∀ segment rest, root.find? tag (segment :: rest) = some none) {e : Expr String}
    (wellFormed : e.WellFormed) :
    ((ofTag patterns tag).answer? e.asRead ⟨root, []⟩).isSome = true := by
  have nowhere {selector : Selector} (selectorFormed : selector.WellFormed) :
      (⟨root, []⟩ : Env).find? tag selector.path = some none := by
    obtain ⟨first, rest, path⟩ := List.exists_cons_of_ne_nil (path_ne_nil selectorFormed)
    rw [path, Env.find?_root]
    exact hollow first rest
  have clear {selector : Selector} (selectorFormed : selector.WellFormed) :
      (⟨root, []⟩ : Env).Clear tag selector.path :=
    Env.clear_of_find? (nowhere selectorFormed) fun _ found => by cases found
  induction e with
  | test selector operator literal =>
    rw [Expr.asRead, answer?_test (clear wellFormed.1), nowhere wellFormed.1]
    rfl
  | not operand ih =>
    rw [Expr.asRead, answer?_not, Option.isSome_map]
    exact ih wellFormed.1
  | and left right ihLeft ihRight => exact answers_and (ihLeft wellFormed.1) (ihRight wellFormed.2)
  | or left right ihLeft ihRight => exact answers_or (ihLeft wellFormed.1) (ihRight wellFormed.2)
  | quantified quantifier selector binding body =>
    rw [Expr.asRead, answer?_quantified_of_clear (clear wellFormed.1), nowhere wellFormed.1]
    rfl

end Settings

/-- Nothing has been left out of the level of a record of untagged fields. -/
theorem eq_nil_of_addMembers {tag : String} {fields : List (Member × Shape)}
    (shown : ∀ p ∈ fields, p.1.isPrivate = false ∧ p.1.tags = [])
    (plain : ∀ p ∈ fields, p.2.Plain) {schema : Schema}
    (empty : Schema.addMembers tag fields schema = []) : fields = [] ∧ schema = [] := by
  induction fields generalizing schema with
  | nil => exact ⟨rfl, empty⟩
  | cons head rest ih =>
    obtain ⟨member, shape⟩ := head
    rw [List.forall_mem_cons] at shown plain
    obtain ⟨field, derived⟩ := plain.1.exists_fieldOf? tag
    simp only [Schema.addMembers, exposure_of_untagged shown.1, derived] at empty
    have gone := (ih shown.2 plain.2 empty).2
    have here := Schema.lookup_insertAll { field with declaredName := some member.name }
      [member.name] schema (.named member.name)
    rw [gone, if_pos ⟨member.name, List.mem_singleton_self _, rfl⟩] at here
    cases here

/-- If the schema of a plain shape is empty, so is the record. -/
theorem hollow_of_ofShape {tag : String} {shape : Shape} (plain : shape.Plain)
    (derived : Schema.ofShape tag shape = .ok []) {d : Datum} (admits : shape.Admits d)
    (segment : String) (rest : List String) : d.find? tag (segment :: rest) = some none := by
  have missing {fault : PathFault} (step : d.part? tag segment = .error fault)
      (notFound : fault.isNotFound = true) : d.find? tag (segment :: rest) = some none := by
    rw [Datum.find?, Datum.walk_cons, step, error_bind]
    exact if_pos notFound
  by_cases there : d = .null
  · subst there
    exact missing rfl rfl
  · have solid := admits.required there
    have plain' := (plainClass tag).required plain
    rw [Schema.ofShape_eq] at derived
    generalize shape.required = shape' at derived solid plain'
    cases plain' with
    | record shown _ plain =>
      obtain ⟨rfl, -⟩ := eq_nil_of_addMembers shown plain (Except.ok.inj derived)
      cases solid with
      | @record _ _ values names _ =>
        obtain rfl := List.map_eq_nil_iff.mp names.symm
        exact missing rfl rfl
    | map valuePlain =>
      obtain ⟨field, valueField⟩ := valuePlain.exists_fieldOf? tag
      simp only [valueField] at derived
      cases derived
    | _ => cases derived

/-! ## Queries -/

theorem Shape.Plain.exists_schema {shape : Shape} (plain : shape.Plain)
    (top : (∃ name fields, shape.required = .record name fields) ∨
      ∃ key value, shape.required = .map key value) (tag : String) :
    ∃ schema, Schema.ofShape tag shape = .ok schema := by
  have plain' := (plainClass tag).required plain
  rcases top with ⟨name, fields, isRecord⟩ | ⟨key, value, isMap⟩
  · exact ⟨Schema.addMembers tag fields [], by rw [Schema.ofShape_eq, isRecord]⟩
  · rw [isMap] at plain'
    cases plain'
    exact ⟨_, by simp only [Schema.ofShape_eq, isMap]; exact if_pos rfl⟩

/-- A record or map of a plain shape has a schema, and whatever compiles under it, with no hook and
with absent data left to the operators, has an answer for every datum of the shape. -/
theorem compiled_query_answers {options : Options} (hook : options.hook = none)
    (unknown : options.unknown = none) (refuse : options.refuseMissing = false) {shape : Shape}
    (plain : shape.Plain)
    (top : (∃ name fields, shape.required = .record name fields) ∨
      ∃ key value, shape.required = .map key value) :
    ∃ schema, Schema.ofShape options.tag shape = .ok schema ∧
      ∀ typeName source q,
        (Query.compile options (some schema) typeName source).outcome = .ok q →
          ∀ d, shape.Admits d → ∃ b, (q.evaluateDatum d).outcome = .ok b := by
  obtain ⟨schema, derived⟩ := plain.exists_schema top options.tag
  refine ⟨schema, derived, ?_⟩
  intro typeName source q compiled d admits
  obtain ⟨-, -, read, checks, -⟩ := of_compile compiled
  have checked := (of_check checks).1
  have wellFormed := wellFormed_of_read read
  have answers : ((Settings.ofTag options.patterns options.tag).answer? q.checked
      ⟨d, []⟩).isSome = true := by
    cases schema with
    | nil =>
      rw [of_checkedIn_none checked]
      exact Settings.answers_of_hollow (hollow_of_ofShape plain derived admits) wellFormed
    | cons entry rest =>
      exact Settings.answers_of_checkedIn wellFormed (List.forall_mem_nil _) checked
        (rooted_of_ofShape (plainClass _) plain derived admits) .nil
  obtain ⟨b, answered⟩ := Option.isSome_iff_exists.mp answers
  refine ⟨b, evaluateDatum_eq_ok.mpr ?_⟩
  rw [settings_of_compile hook unknown refuse compiled]
  exact answered

/-- An order of one item. -/
def Datum.sampleOrder : Datum :=
  .record "Order" [({ name := "items" }, .list [.record "Item" [({ name := "price" }, .int 3)]])]

/-- A list that may be absent, passed through by one selector and quantified over by another. -/
theorem compiled_query_answers_order :
    ∃ schema, Schema.ofShape Schema.defaultTag .sampleOrder = .ok schema ∧
      ∃ q, (Query.compile .standard (some schema) none
          "items.price != 1 and all items as item { item.price > 2 }").outcome = .ok q ∧
        ∃ b, (q.evaluateDatum .sampleOrder).outcome = .ok b := by
  have plain : Shape.sampleOrder.Plain := by
    refine .record (by decide) (by decide) (List.forall_mem_singleton.mpr (.optional (.list ?_ nofun)))
    exact .record (by decide) (by decide) (List.forall_mem_singleton.mpr (.int .w64))
  have admits : Shape.sampleOrder.Admits .sampleOrder := by
    refine .record rfl (List.forall_mem_singleton.mpr (.present (.list ?_)))
    refine List.forall_mem_singleton.mpr (.record rfl ?_)
    exact List.forall_mem_singleton.mpr (.int .w64 3)
  have compiles : ∃ q, (Query.compile .standard
      (Schema.ofShape Schema.defaultTag .sampleOrder).toOption none
      "items.price != 1 and all items as item { item.price > 2 }").outcome = .ok q := ⟨_, by cbv⟩
  obtain ⟨schema, derived, answers⟩ :=
    @compiled_query_answers .standard rfl rfl rfl .sampleOrder plain (.inl ⟨_, _, rfl⟩)
  change Schema.ofShape Schema.defaultTag .sampleOrder = .ok schema at derived
  rw [derived] at compiles
  obtain ⟨q, compiled⟩ := compiles
  exact ⟨schema, derived, q, compiled, answers none _ q compiled .sampleOrder admits⟩

end Sift
