import Mathlib
import Sift.Proofs.Typing.Filling

/-!
# Fields that are added

A host type that is given more fields keeps its queries: what compiles under its schema compiles under
the new one, to the same checked expression, and evaluates alike for a datum and for the same one with
the new fields filled in (`added_fields_keep_queries`). An evaluation only ever looks at fields that the
schema has had before, with one exception: a selector that should pass through a list of lists passes
through the outer one, so a position right behind it leads to an element of an inner list, while the
schema has taken it for a key or a name. From there on the data are not what the schema says, and a new
field may be met by the name of another one (`added_field_changes_answer`). Selectors that
`GoesByName` have no such position.
-/

namespace Sift

/-! ## Positions behind lists of lists -/

/-- Behind a list of lists a path goes on by name. -/
def Field.GoesByName (field : Field) : List String → Prop
  | [] => True
  | segment :: rest =>
    (field.collection = some .list →
      ∀ inner, field.value = some inner → inner.collection = some .list →
        natural64? segment = none) ∧
      ∀ next, Schema.field? field.fields segment = some next → next.GoesByName rest

/-- Behind a list of lists a selector goes on by name. -/
def Selector.GoesByName (schema : Schema) (scope : Scope) (selector : Selector) : Prop :=
  ∀ first rest field, selector.path = first :: rest → schema.start? scope first = some field →
    field.GoesByName rest

/-- All selectors of an expression go on by name behind lists of lists. -/
def Expr.GoesByName (schema : Schema) : Scope → Expr String → Prop
  | scope, .test selector _ _ => selector.GoesByName schema scope
  | scope, .not operand => GoesByName schema scope operand
  | scope, .and left right => GoesByName schema scope left ∧ GoesByName schema scope right
  | scope, .or left right => GoesByName schema scope left ∧ GoesByName schema scope right
  | scope, .quantified _ selector binding body =>
    selector.GoesByName schema scope ∧
      ∀ route, schema.route scope selector = .ok route →
        GoesByName schema (binding.fields route.field ++ scope) body

/-! ## Paths -/

section

variable {tag segment : String} {shape child : Shape} {field next : Field} {d d' : Datum}

/-- What has been reached is related, whatever the shape, if it is the same. -/
theorem agrees_of_same (reached : Traced Datum (Nat × PathFault) Reached) :
    Traced.Agrees (Reached.Rel (shape.Fills tag)) reached reached := by
  refine (Traced.Agrees.refl reached).mono ?_
  rintro found _ rfl
  cases found with
  | datum d => exact .datum (.same shape d)
  | judge j rest => exact .judge j rest

theorem follow_nil_agrees (fills : shape.Fills tag d d') (part : Nat) :
    Traced.Agrees (Reached.Rel (shape.Fills tag)) (d.follow tag none part [])
      (d'.follow tag none part []) := by
  rcases fills.eq_or_other with rfl | ⟨other, other'⟩
  · exact agrees_of_same _
  · rw [Datum.follow_nil other, Datum.follow_nil other']
    exact .ok [] (.datum fills)

/-- A path goes on from related parts. -/
theorem follow_cons_agrees {goal : Shape} (fills : shape.Fills tag d d')
    (parts : Traced.Agrees (child.Fills tag)
      (.ofExcept (d.part? tag segment) : Traced Datum PathFault Datum)
      (.ofExcept (d'.part? tag segment))) {rest : List String}
    (behind : ∀ d d', child.Fills tag d d' → ∀ part,
      Traced.Agrees (Reached.Rel (goal.Fills tag)) (d.follow tag none part rest)
        (d'.follow tag none part rest)) (part : Nat) :
    Traced.Agrees (Reached.Rel (goal.Fills tag)) (d.follow tag none part (segment :: rest))
      (d'.follow tag none part (segment :: rest)) := by
  rcases fills.eq_or_other with rfl | ⟨other, other'⟩
  · exact agrees_of_same _
  · rw [Datum.follow_cons other, Datum.follow_cons other']
    exact (parts.mapError _).bind fun d d' there => behind d d' there (part + 1)

theorem regular_inside (regular : shape.Regular tag) : shape.inside.Regular tag := by
  induction regular with
  | optional _ ih | list _ ih => exact ih
  | map key value _ _ => exact .map key value
  | record fields apart _ => exact .record fields apart
  | bool | int | uint | float32 | float64 | string | any | sealed => constructor

theorem leads_regular (regular : shape.Regular tag) (leads : shape.inside.Leads tag segment child) :
    child.Regular tag :=
  (regularClass tag).leads (regular_inside regular) leads

/-- The elements of a list of lists are known to be lists. -/
theorem exists_value_of_nested {element inner : Shape} (describes : field.Describes tag shape)
    (isList : shape.required = .list element) (nested : element.required = .list inner) :
    ∃ below, field.value = some below ∧ below.collection = some .list := by
  have ofList := isList ▸ describes.required
  obtain ⟨name, rfl⟩ := ofList.exists_name (by rw [Schema.fieldOf?])
  have derived : Schema.fieldOf? tag element =
      some (.ofElement (Schema.fieldOf? tag inner) inner.isScalar) := by
    rw [← fieldOf?_required, nested, Schema.fieldOf?]
  exact ⟨_, (ofElement_parts _ _).2.1.trans derived, (ofElement_parts _ _).2.2⟩

/-- Where a route ends or is cut behind a list: the shape of what is there, and how the route goes on
from it. -/
structure Stop (tag : String) (field : Field) (goal : Field) (others : List (List String))
    (shape : Shape) : Prop where
  regular : shape.Regular tag
  describes : field.Describes tag shape
  goesOn : ∃ more, field.follow more = .ok ⟨goal, [], others⟩ ∧ field.GoesByName more

/-- Up to its first stop, a route leads from related data to related data. -/
theorem follow_to_stop (regular : shape.Regular tag) (describes : field.Describes tag shape)
    {path : List String} {route : Route} (followed : field.follow path = .ok route)
    (byName : field.GoesByName path) :
    ∃ (there : Field) (goal : Shape), Stop tag there route.field route.others goal ∧
      ∀ d d', shape.Fills tag d d' → ∀ part,
        Traced.Agrees (Reached.Rel (goal.Fills tag)) (d.follow tag none part route.first)
          (d'.follow tag none part route.first) := by
  induction path generalizing field shape route with
  | nil =>
    cases followed
    exact ⟨field, shape, ⟨regular, describes, [], rfl, byName⟩,
      fun d d' fills part => follow_nil_agrees fills part⟩
  | cons segment rest ih =>
    obtain ⟨next, below, step, behind, ⟨isList, rfl⟩ | ⟨other, rfl⟩⟩ := of_follow_cons followed
    · -- the route is cut here, and this segment is left to the elements
      exact ⟨field, shape, ⟨regular, describes, segment :: rest, followed, byName⟩,
        fun d d' fills part => follow_nil_agrees fills part⟩
    · obtain ⟨child, leads, childDescribes⟩ := Shape.leads_of_field? regular describes step
      obtain ⟨noList, single⟩ := describes.collection.resolve_left fun isList => other isList.1
      have childRegular := leads_regular regular leads
      obtain ⟨there, goal, stop, agrees⟩ := ih childRegular childDescribes behind (byName.2 next step)
      refine ⟨there, goal, stop, fun d d' fills part => ?_⟩
      refine follow_cons_agrees fills (fills.part?_agrees regular leads ?_) agrees part
      intro element isList
      rw [single, isList] at leads
      cases leads

/-- At the end of a route there is what it leads to. -/
theorem Stop.eq_of_last {there goal : Field} (stop : Stop tag there goal [] shape) :
    goal = there := by
  obtain ⟨-, -, more, followed, -⟩ := stop
  cases more with
  | nil =>
    cases followed
    rfl
  | cons segment rest =>
    obtain ⟨next, below, -, -, ⟨-, same⟩ | ⟨-, same⟩⟩ := of_follow_cons followed <;> cases same

/-- Where it is cut there is a list, and the route leads on from the elements. -/
theorem Stop.behind {there goal : Field} {next : List String} {others : List (List String)}
    (stop : Stop tag there goal (next :: others) shape) :
    ∃ element, shape.required = .list element ∧
      ∃ (further : Field) (shape' : Shape), Stop tag further goal others shape' ∧
        ∀ d d', element.Fills tag d d' → ∀ part,
          Traced.Agrees (Reached.Rel (shape'.Fills tag)) (d.follow tag none part next)
            (d'.follow tag none part next) := by
  obtain ⟨regular, describes, more, followed, byName⟩ := stop
  cases more with
  | nil => cases followed
  | cons segment rest =>
    obtain ⟨step, below, found, behind, ⟨collection, same⟩ | ⟨-, same⟩⟩ := of_follow_cons followed
    · cases same
      obtain ⟨-, element, isList⟩ := describes.collection.resolve_right fun other =>
        other.1 collection
      obtain ⟨child, leads, childDescribes⟩ := Shape.leads_of_field? regular describes found
      obtain ⟨further, shape', stop, agrees⟩ := follow_to_stop (leads_regular regular leads)
        childDescribes behind (byName.2 step found)
      have elementRegular : element.Regular tag := by
        have inner := (regularClass tag).required regular
        rw [isList] at inner
        exact (regularClass tag).element inner
      have inside : shape.inside = element.inside := by
        rw [← inside_required, isList]
        rfl
      rw [inside] at leads
      refine ⟨element, isList, further, shape', stop, fun d d' fills part => ?_⟩
      refine follow_cons_agrees fills (fills.part?_agrees elementRegular leads ?_) agrees part
      -- only one of two lists is passed through, so the segment is looked up in the inner one
      intro inner nested
      obtain ⟨below, value, isList⟩ := exists_value_of_nested describes isList nested
      exact byName.1 collection below value isList
    · cases same

end

/-! ## Selectors -/

/-- A schema is the topmost level for a shape. -/
structure Schema.IsTop (tag : String) (schema : Schema) (top : Shape) : Prop where
  regular : top.Regular tag
  single : top.inside = top.required
  describes : ∃ level : Field, level.Describes tag top ∧ level.fields = schema

namespace Schema.IsTop

variable {tag segment : String} {schema : Schema} {top : Shape} {field : Field}

/-- A segment that the schema has leads from the top to what its field describes. -/
theorem leads (isTop : schema.IsTop tag top) (step : schema.field? segment = some field) :
    ∃ child, top.inside.Leads tag segment child ∧ child.Regular tag ∧
      field.Describes tag child := by
  obtain ⟨regular, -, level, describes, rfl⟩ := isTop
  obtain ⟨child, leads, childDescribes⟩ := Shape.leads_of_field? regular describes step
  exact ⟨child, leads, leads_regular regular leads, childDescribes⟩

/-- Whatever a selector starts from describes a shape. -/
theorem described (isTop : schema.IsTop tag top) {names : List (String × Option Field)}
    {bound bound' : List (String × Datum)} (binds : Binds tag names bound bound')
    (start : schema.start? (.ofKnown names) segment = some field) : field.Described tag := by
  unfold Schema.start? at start
  cases found : (Scope.ofKnown names).lookup segment with
  | none =>
    rw [found, Option.none_or] at start
    obtain ⟨child, -, regular, describes⟩ := isTop.leads start
    exact ⟨child, regular, describes⟩
  | some known =>
    rw [found, Option.some_or] at start
    cases start
    exact binds.described found

end Schema.IsTop

/-- The roots are related, and so is what names are bound to. -/
structure Env.Grows (tag : String) (top : Shape) (names : List (String × Option Field))
    (env env' : Env) : Prop where
  root : top.Fills tag env.root env'.root
  binds : Binds tag names env.frames.flatten env'.frames.flatten

namespace Env.Grows

variable {tag : String} {top : Shape} {names more : List (String × Option Field)} {env env' : Env}

theorem push (grows : Env.Grows tag top names env env') {frame frame' : Frame}
    (frames : Binds tag more frame frame') :
    Env.Grows tag top (more ++ names) (env.push frame) (env'.push frame') :=
  ⟨grows.root, frames.append grows.binds⟩

theorem passed (grows : Env.Grows tag top names env env') (d d' : Datum) :
    Env.Grows tag top names (env.push [(passedName, d)]) (env'.push [(passedName, d')]) :=
  ⟨grows.root, .passed d d' grows.binds⟩

end Env.Grows

namespace Settings

variable {patterns : PatternEngine} {s : Settings} {env env' : Env} {shape top : Shape}
  {names : List (String × Option Field)} {form : SelectorForm} {first : String}
  {rest : List String} {d d' : Datum}

theorem resolve_bound_agrees (plain : s.hook = none) (bound : env.lookup first = some d)
    (bound' : env'.lookup first = some d') {here : Shape} (fills : here.Fills s.tag d d')
    (follows : ∀ part, Traced.Agrees (Reached.Rel (shape.Fills s.tag))
      (d.follow s.tag none part rest) (d'.follow s.tag none part rest)) :
    Traced.Agrees (Reached.Rel (shape.Fills s.tag)) (s.resolve ⟨form, first :: rest⟩ env)
      (s.resolve ⟨form, first :: rest⟩ env') := by
  simp only [resolve, bound, bound', fills.isScalar_eq, fills.kind_eq, plain]
  split
  · exact .error [] _
  · exact ((follows _).mapError _).mapError _

theorem resolve_free_agrees (plain : s.hook = none) (free : env.lookup first = none)
    (free' : env'.lookup first = none)
    (follows : ∀ part, Traced.Agrees (Reached.Rel (shape.Fills s.tag))
      (env.root.follow s.tag none part (first :: rest))
      (env'.root.follow s.tag none part (first :: rest))) :
    Traced.Agrees (Reached.Rel (shape.Fills s.tag)) (s.resolve ⟨form, first :: rest⟩ env)
      (s.resolve ⟨form, first :: rest⟩ env') := by
  simp only [resolve, free, free', plain]
  exact ((follows _).mapError _).mapError _

/-- What is bound to a name of which nothing is known is the same. -/
theorem resolve_same_agrees (plain : s.hook = none) (bound : env.lookup first = some d)
    (bound' : env'.lookup first = some d) :
    Traced.Agrees (Reached.Rel (shape.Fills s.tag)) (s.resolve ⟨form, first :: rest⟩ env)
      (s.resolve ⟨form, first :: rest⟩ env') :=
  resolve_bound_agrees plain bound bound' (.same .any d) fun _ => agrees_of_same _

/-- The elements of related lists are related. -/
theorem elements_fills {element : Shape} (fills : shape.Fills s.tag d d')
    (isList : shape.required = .list element) :
    Option.Rel (List.Forall₂ (element.Fills s.tag)) d.elements? d'.elements? := by
  induction fills with
  | same _ d =>
    cases d.elements? with
    | none => exact .none
    | some elements => exact .some (List.forall₂_same.mpr fun d _ => .same element d)
  | optional _ ih => exact ih isList
  | list items _ =>
    cases isList
    refine .some (List.forall₂_map_left_iff.mpr (List.forall₂_map_right_iff.mpr ?_))
    exact List.forall₂_same.mpr items
  | map | pairs | record => cases isList

/-- A node behind the quantifiers that pass through lists evaluates alike, if it does wherever its
selector leads to what the end of the route describes. -/
theorem evaluate_passThrough (plain : s.hook = none) {goal : Field} {node : Selector → CheckedExpr}
    (nodes : ∀ {env env' : Env} {selector : Selector} {shape : Shape},
      Env.Grows s.tag top names env env' → shape.Regular s.tag → goal.Describes s.tag shape →
      Traced.Agrees (Reached.Rel (shape.Fills s.tag)) (s.resolve selector env)
        (s.resolve selector env') →
      s.evaluate (node selector) env = s.evaluate (node selector) env')
    {there : Field} {others : List (List String)} {path : List String}
    (stop : Stop s.tag there goal others shape) (grows : Env.Grows s.tag top names env env')
    (leads : Traced.Agrees (Reached.Rel (shape.Fills s.tag)) (s.resolve ⟨form, path⟩ env)
      (s.resolve ⟨form, path⟩ env')) :
    s.evaluate (passThrough form node path others) env =
      s.evaluate (passThrough form node path others) env' := by
  induction others generalizing env env' shape there path with
  | nil =>
    obtain rfl := stop.eq_of_last
    exact nodes grows stop.regular stop.describes leads
  | cons next others ih =>
    obtain ⟨element, isList, further, shape', stop', agrees⟩ := stop.behind
    refine quantified_eq_of_target (target_agrees_of_resolve (Shape.indistinct_fills _ _) leads)
      (q := fun frame frame' => ∃ d d', element.Fills s.tag d d' ∧ frame = [(passedName, d)] ∧
        frame' = [(passedName, d')]) ?_ ?_
    · intro d d' fills
      rw [frames?_value, frames?_value]
      have elements := elements_fills fills isList
      generalize d.elements? = items, d'.elements? = items' at elements
      cases elements with
      | none => exact .none
      | some related =>
        refine .some (List.forall₂_map_left_iff.mpr (List.forall₂_map_right_iff.mpr ?_))
        exact related.imp fun d d' fills => ⟨d, d', fills, rfl, rfl⟩
    · rintro _ _ ⟨d, d', fills, rfl, rfl⟩
      exact ih stop' (grows.passed d d') (resolve_bound_agrees plain
        (Env.lookup_push_self passedName d) (Env.lookup_push_self passedName d') fills
        (agrees d d' fills))

/-- Up to the first list that its route passes through, a selector leads to related data. -/
theorem resolve_grows (plain : s.hook = none) {schema : Schema} (isTop : schema.IsTop s.tag top)
    (grows : Env.Grows s.tag top names env env') {selector : Selector}
    (wellFormed : selector.WellFormed) (byName : selector.GoesByName schema (.ofKnown names))
    {route : Route} (routed : schema.route (.ofKnown names) selector = .ok route) :
    ∃ (there : Field) (shape : Shape), Stop s.tag there route.field route.others shape ∧
      Traced.Agrees (Reached.Rel (shape.Fills s.tag))
        (s.resolve ⟨selector.form, route.first⟩ env)
        (s.resolve ⟨selector.form, route.first⟩ env') := by
  obtain ⟨first, rest, field, below, path, start, followed, rfl⟩ := of_route routed
  have behind := byName first rest field path start
  have found := grows.binds.lookup (head_of_wellFormed wellFormed path)
  have described := isTop.described grows.binds start
  generalize known : names.lookup first = knownAs, bound : env.frames.flatten.lookup first = d,
    bound' : env'.frames.flatten.lookup first = d' at found
  cases found with
  | free =>
    rw [Schema.start?, Scope.lookup_ofKnown (by simp [known]), known] at start
    obtain ⟨child, leads, regular, describes⟩ := isTop.leads start
    obtain ⟨there, goal, stop, agrees⟩ := follow_to_stop regular describes followed behind
    refine ⟨there, goal, stop, resolve_free_agrees plain bound bound' fun part => ?_⟩
    refine follow_cons_agrees grows.root (grows.root.part?_agrees isTop.regular leads ?_) agrees part
    intro element isList
    rw [isTop.single, isList] at leads
    cases leads
  | bound grown =>
    cases grown with
    | unknown =>
      -- the check has taken the name for another field, but it is bound to the same datum
      obtain ⟨shape, regular, describes⟩ := described
      obtain ⟨there, goal, stop, -⟩ := follow_to_stop regular describes followed behind
      exact ⟨there, goal, stop, resolve_same_agrees plain bound bound'⟩
    | known regular describes fills =>
      rw [Schema.start?, Scope.lookup_ofKnown (by simp [known]), known] at start
      cases start
      obtain ⟨there, goal, stop, agrees⟩ := follow_to_stop regular describes followed behind
      exact ⟨there, goal, stop, resolve_bound_agrees plain bound bound' fills (agrees _ _ fills)⟩

/-- An expression that checks evaluates alike in related environments. -/
theorem evaluate_grows (plain : s.hook = none) {schema : Schema} (isTop : schema.IsTop s.tag top)
    {limits : Limits} {e : Expr String} (wellFormed : e.WellFormed) {checked : CheckedExpr}
    (checks : (checkedIn patterns limits (some schema) (.ofKnown names) e).outcome = .ok checked)
    (byName : e.GoesByName schema (.ofKnown names)) (grows : Env.Grows s.tag top names env env') :
    s.evaluate checked env = s.evaluate checked env' := by
  induction e generalizing names env env' checked with
  | test selector operator literal =>
    obtain ⟨route, checkedLiteral, routed, -, -, rfl⟩ := of_checkTest (of_checkedIn_test checks)
    obtain ⟨there, shape, stop, leads⟩ := resolve_grows plain isTop grows wellFormed.1 byName routed
    refine evaluate_passThrough plain ?_ stop grows leads
    intro env env' selector shape _ _ _ leads
    exact test_eq_of_target (Shape.indistinct_fills _ _)
      (target_agrees_of_resolve (Shape.indistinct_fills _ _) leads)
  | not operand ih =>
    obtain ⟨inner, innerChecks, rfl⟩ := of_checkedIn_not checks
    rw [evaluate, evaluate, ih wellFormed.1 innerChecks byName grows]
  | and left right ihLeft ihRight =>
    obtain ⟨left', right', leftChecks, rightChecks, rfl⟩ := of_checkedIn_and checks
    rw [evaluate, evaluate, ihLeft wellFormed.1 leftChecks byName.1 grows,
      ihRight wellFormed.2 rightChecks byName.2 grows]
  | or left right ihLeft ihRight =>
    obtain ⟨left', right', leftChecks, rightChecks, rfl⟩ := of_checkedIn_or checks
    rw [evaluate, evaluate, ihLeft wellFormed.1 leftChecks byName.1 grows,
      ihRight wellFormed.2 rightChecks byName.2 grows]
  | quantified quantifier selector binding body ih =>
    obtain ⟨route, inner, routed, isCollection, innerChecks, rfl⟩ := of_checkedIn_quantified checks
    obtain ⟨selectorFormed, -, -, bodyFormed⟩ := wellFormed
    obtain ⟨selectorByName, bodyByName⟩ := byName
    have inside := bodyByName route routed
    rw [Binding.fields_eq, ← Scope.ofKnown_append] at innerChecks inside
    obtain ⟨there, shape, stop, leads⟩ :=
      resolve_grows plain isTop grows selectorFormed selectorByName routed
    refine evaluate_passThrough plain ?_ stop grows leads
    intro env env' selector shape grows regular describes leads
    refine quantified_eq_of_target (target_agrees_of_resolve (Shape.indistinct_fills _ _) leads)
      (fun d d' fills => frames_fills fills regular describes isCollection binding) ?_
    intro frame frame' binds
    exact ih bodyFormed innerChecks inside (grows.push binds)

end Settings

/-! ## Queries -/

/-- The schema of a shape that has a wider one is the topmost level for it. -/
theorem isTop_of_ofShape {tag : String} {shape shape' : Shape} (regular : shape.Regular tag)
    (widens : shape.Widens tag shape') {schema : Schema}
    (derived : Schema.ofShape tag shape = .ok schema) : schema.IsTop tag shape := by
  obtain ⟨field, describes, level, single⟩ :=
    describes_of_ofShape widens.required.ne_judge.1 derived
  exact ⟨regular, single, field, describes, level⟩

/-- What compiles for a type compiles for the type with further fields, to the same checked expression;
and as long as it goes on by name behind lists of lists, it evaluates alike for a datum and for the same
one with the further fields filled in. -/
theorem added_fields_keep_queries {options : Options} (hook : options.hook = none)
    {shape shape' : Shape} (regular : shape.Regular options.tag)
    (widens : shape.Widens options.tag shape') {schema : Schema}
    (derived : Schema.ofShape options.tag shape = .ok schema) (filled : schema ≠ []) :
    ∃ schema', Schema.ofShape options.tag shape' = .ok schema' ∧
      ∀ (typeName typeName' : Option String) (source : String) (q : Query),
        (Query.compile options (some schema) typeName source).outcome = .ok q →
          ∃ q', (Query.compile options (some schema') typeName' source).outcome = .ok q' ∧
            q'.checked = q.checked ∧
            (q.parsed.GoesByName schema [] → ∀ d d', shape.Fills options.tag d d' →
              q'.evaluateDatum d' = q.evaluateDatum d) := by
  obtain ⟨schema', derived', wider⟩ := exists_ofShape_widens regular widens derived
  refine ⟨schema', derived', fun typeName typeName' source q compiled => ?_⟩
  obtain ⟨policy, hasPolicy, read, checks, settings⟩ := of_compile compiled
  refine ⟨_, compile_eq_ok.mpr ⟨policy, q.parsed, q.checked, q.testCount, hasPolicy, read,
    check_widens wider filled checks, rfl⟩, rfl, fun byName d d' fills => ?_⟩
  have inner := of_check_filled filled checks
  have grows : Env.Grows options.tag shape [] ⟨d, []⟩ ⟨d', []⟩ := ⟨fills, .nil⟩
  rw [Query.evaluateDatum, Query.evaluateDatum, Query.evaluateIn, Query.evaluateIn, settings]
  exact (Settings.evaluate_grows hook (isTop_of_ofShape regular widens derived)
    (wellFormed_of_read read) inner byName grows).symm

/-- A field without tags spares another one of another name. -/
theorem Member.spares_of_ne {tag : String} {m : Member} (isPublic : m.isPrivate = false)
    (untagged : m.tags = []) {name : String} (other : m.name ≠ name) : m.Spares tag [{ name }] := by
  refine spares_of_new isPublic untagged (List.forall_mem_singleton.mpr ?_)
  rintro ⟨names, exposure, inside⟩
  cases exposure
  exact other (List.mem_singleton.mp inside)

/-- An order with a note, and with a count for each item. -/
def Shape.sampleNoted : Shape :=
  .record "Order" [({ name := "note" }, .string),
    ({ name := "items" }, .optional (.list (.record "Item"
      [({ name := "price" }, .int .w64), ({ name := "count" }, .uint .w32)])))]

theorem Shape.sampleOrder_widens : Shape.sampleOrder.Widens Schema.defaultTag .sampleNoted := by
  have item : Shape.Widens Schema.defaultTag (.record "Item" [({ name := "price" }, .int .w64)])
      (.record "Item" [({ name := "price" }, .int .w64), ({ name := "count" }, .uint .w32)]) :=
    @Shape.Widens.record _ _ [({ name := "price" }, .int .w64, .int .w64)] _
      (List.forall_mem_singleton.mpr (.int .w64))
      (.kept _ (.added (Member.spares_of_ne rfl rfl (by decide)) .nil))
  exact @Shape.Widens.record _ _ [({ name := "items" }, _, _)] _
    (List.forall_mem_singleton.mpr (.optional (.list item)))
    (.added (Member.spares_of_ne rfl rfl (by decide)) (.refl _))

/-- An order of one item. -/
def Datum.sampleUnnoted : Datum :=
  .record "Order" [({ name := "items" }, .list [.record "Item" [({ name := "price" }, .int 1)]])]

/-- The same order with a note and a count. -/
def Datum.sampleNoted : Datum :=
  .record "Order" [({ name := "note" }, .string "a gift"),
    ({ name := "items" }, .list [.record "Item"
      [({ name := "price" }, .int 1), ({ name := "count" }, .uint 2)]])]

theorem Shape.sampleOrder_fills :
    Shape.sampleOrder.Fills Schema.defaultTag .sampleUnnoted .sampleNoted := by
  have item : Shape.Fills Schema.defaultTag (.record "Item" [({ name := "price" }, .int .w64)])
      (.record "Item" [({ name := "price" }, .int 1)])
      (.record "Item" [({ name := "price" }, .int 1), ({ name := "count" }, .uint 2)]) :=
    @Shape.Fills.record _ _ [(⟨{ name := "price" }, .int .w64, .int 1⟩, .int 1)] _
      (List.forall_mem_singleton.mpr (.same _ _))
      (.kept _ (.added (Member.spares_of_ne rfl rfl (by decide)) .nil))
  have items := @Shape.Fills.list _ _ [(_, _)] (List.forall_mem_singleton.mpr item)
  exact @Shape.Fills.record _ _ [(⟨{ name := "items" }, _, _⟩, _)] _
    (List.forall_mem_singleton.mpr (.optional items))
    (.added (Member.spares_of_ne rfl rfl (by decide)) (.refl _))

/-- A query for orders goes on to find the price. -/
theorem added_fields_keep_queries_order :
    ∃ schema schema' q q', Schema.ofShape Schema.defaultTag .sampleOrder = .ok schema ∧
      Schema.ofShape Schema.defaultTag .sampleNoted = .ok schema' ∧
      (Query.compile .standard (some schema) none "items.price == 1").outcome = .ok q ∧
      (Query.compile .standard (some schema') none "items.price == 1").outcome = .ok q' ∧
      q'.checked = q.checked ∧
      (q.evaluateDatum .sampleUnnoted).outcome = .ok true ∧
      (q'.evaluateDatum .sampleNoted).outcome = .ok true := by
  have regular : Shape.sampleOrder.Regular Schema.defaultTag := by
    refine .record (List.forall_mem_singleton.mpr (.optional (.list ?_))) (List.pairwise_singleton _ _)
    exact .record (List.forall_mem_singleton.mpr (.int .w64)) (List.pairwise_singleton _ _)
  have reads : Expr.read 0 "items.price == 1" =
      .ok (.test ⟨.words, ["items", "price"]⟩ .equal (some "1")) := by cbv
  obtain ⟨schema, derived, filled, q, compiled, answered⟩ : ∃ schema,
      Schema.ofShape Schema.defaultTag .sampleOrder = .ok schema ∧ schema ≠ [] ∧
        ∃ q, (Query.compile .standard (some schema) none "items.price == 1").outcome = .ok q ∧
          (q.evaluateDatum .sampleUnnoted).outcome = .ok true :=
    ⟨_, by cbv, List.cons_ne_nil _ _, _, by cbv, by cbv⟩
  obtain ⟨schema', derived', keeps⟩ := @added_fields_keep_queries .standard rfl _ _ regular
    Shape.sampleOrder_widens _ derived filled
  obtain ⟨q', compiled', same, answers⟩ := keeps none none _ q compiled
  have byName : q.parsed.GoesByName schema [] := by
    obtain ⟨-, -, read, -⟩ := of_compile compiled
    rw [show q.parsed = _ from Except.ok.inj (read.symm.trans reads)]
    rintro _ _ field ⟨⟩ -
    exact ⟨fun _ _ _ _ => by decide, fun _ _ => trivial⟩
  refine ⟨schema, schema', q, q', derived, derived', compiled, compiled', same, answered, ?_⟩
  rw [answers byName _ _ Shape.sampleOrder_fills, answered]

/-- A store: lists of shelves, on which boxes, each with a lid, stand under names. -/
def Shape.sampleStore (more : List (Member × Shape)) : Shape :=
  .record "Store" [({ name := "shelves" }, .list (.list (.map .string (.record "Box"
    (({ name := "lid" }, .record "Lid" [({ name := "size" }, .int .w64)]) :: more)))))]

/-- A store of one box, which is called lid. -/
def Datum.sampleStore (more : List (Member × Datum)) : Datum :=
  .record "Store" [({ name := "shelves" }, .list [.list [.map [("lid", .record "Box"
    (({ name := "lid" }, .record "Lid" [({ name := "size" }, .int 2)]) :: more))]]])]

theorem Shape.sampleStore_regular : (Shape.sampleStore []).Regular Schema.defaultTag := by
  refine .record (List.forall_mem_singleton.mpr (.list (.list (.map .string ?_)))) ?_
  · refine .record (List.forall_mem_singleton.mpr ?_) (List.pairwise_singleton _ _)
    exact .record (List.forall_mem_singleton.mpr (.int .w64)) (List.pairwise_singleton _ _)
  · exact List.pairwise_singleton _ _

theorem Shape.sampleStore_admits : (Shape.sampleStore []).Admits (.sampleStore []) := by
  refine .record rfl (List.forall_mem_singleton.mpr (.list (List.forall_mem_singleton.mpr ?_)))
  refine .list (List.forall_mem_singleton.mpr (.map (List.forall_mem_singleton.mpr (.string _)) ?_))
  refine List.forall_mem_singleton.mpr (.record rfl (List.forall_mem_singleton.mpr ?_))
  exact .record rfl (List.forall_mem_singleton.mpr (.int _ _))

theorem Shape.sampleStore_widens : (Shape.sampleStore []).Widens Schema.defaultTag
    (.sampleStore [({ name := "size" }, .int .w64)]) := by
  have lid : Shape.Widens Schema.defaultTag (.record "Lid" [({ name := "size" }, .int .w64)])
      (.record "Lid" [({ name := "size" }, .int .w64)]) :=
    @Shape.Widens.record _ _ [(_, _, _)] _ (List.forall_mem_singleton.mpr (.int .w64)) (.refl _)
  have box := @Shape.Widens.record _ "Box" [({ name := "lid" }, _, _)] _
    (List.forall_mem_singleton.mpr lid) (.kept _ (.added
      (a := ({ name := "size" }, .int .w64)) (Member.spares_of_ne rfl rfl (by decide)) .nil))
  exact @Shape.Widens.record _ _ [({ name := "shelves" }, _, _)] _
    (List.forall_mem_singleton.mpr (.list (.list (.map .string box)))) (.refl _)

theorem Shape.sampleStore_fills : (Shape.sampleStore []).Fills Schema.defaultTag (.sampleStore [])
    (.sampleStore [({ name := "size" }, .int 1)]) := by
  have box := @Shape.Fills.record Schema.defaultTag "Box" [(⟨{ name := "lid" },
      .record "Lid" [({ name := "size" }, .int .w64)],
      .record "Lid" [({ name := "size" }, .int 2)]⟩, _)] _
    (List.forall_mem_singleton.mpr (.same _ _)) (.kept _ (.added
      (a := ({ name := "size" }, .int 1)) (Member.spares_of_ne rfl rfl (by decide)) .nil))
  have shelf := @Shape.Fills.map _ .string _ [("lid", _, _)] (List.forall_mem_singleton.mpr box)
  have shelves := @Shape.Fills.list _ _ [(_, _)] (List.forall_mem_singleton.mpr
    (@Shape.Fills.list _ _ [(_, _)] (List.forall_mem_singleton.mpr shelf)))
  exact @Shape.Fills.record _ _ [(⟨{ name := "shelves" }, _, _⟩, _)] _
    (List.forall_mem_singleton.mpr shelves) (.refl _)

/-- Boxes are given a size, and a selector for the sizes of their lids, which has found none, leads to
it: the schema takes `0` for the name of a box, while it leads to the first shelf of a list, from which
`lid` leads to a box. -/
theorem added_field_changes_answer :
    (Shape.sampleStore []).Regular Schema.defaultTag ∧
      (Shape.sampleStore []).Admits (.sampleStore []) ∧
      (Shape.sampleStore []).Widens Schema.defaultTag
        (.sampleStore [({ name := "size" }, .int .w64)]) ∧
      (Shape.sampleStore []).Fills Schema.defaultTag (.sampleStore [])
        (.sampleStore [({ name := "size" }, .int 1)]) ∧
      ∃ schema schema' q q', Schema.ofShape Schema.defaultTag (.sampleStore []) = .ok schema ∧
        schema ≠ [] ∧
        Schema.ofShape Schema.defaultTag (.sampleStore [({ name := "size" }, .int .w64)]) =
          .ok schema' ∧
        (Query.compile .standard (some schema) none "shelves[\"0\"].lid.size == 1").outcome = .ok q ∧
        (Query.compile .standard (some schema') none "shelves[\"0\"].lid.size == 1").outcome = .ok q' ∧
        (q.evaluateDatum (.sampleStore [])).outcome = .ok false ∧
        (q'.evaluateDatum (.sampleStore [({ name := "size" }, .int 1)])).outcome = .ok true :=
  ⟨Shape.sampleStore_regular, Shape.sampleStore_admits, Shape.sampleStore_widens,
    Shape.sampleStore_fills, _, _, _, _, by cbv, List.cons_ne_nil _ _, by cbv, by cbv, by cbv, by cbv,
    by cbv⟩

end Sift
