import Mathlib
import Sift.Proofs.Flattening
import Sift.Proofs.Grammar.Image
import Sift.Proofs.Typing.Scopes
import Sift.Query.Standard

/-!
# Answers with and without a schema

A query that is compiled under the schema of a shape is another expression than the text: literals
are converted, and a selector that passes through lists stands for some element of each. The first
makes no difference, since a literal is converted from its own text. The second does, in both
directions: without a schema a list is passed through by position only, or is absent, and then the
operator decides, while an `any` over an absent list is false (`schema_changes_answers`). `Steady`
expressions are those in which no selector that is evaluated notices, and their answers stay the
same (`schema_keeps_answers`).

No list is ever entered in the proof: without a schema a selector that goes on behind a list by
name either fails or has found the list absent (`found_behind_list`), and in the second case the
outermost `any` is the answer.
-/

namespace Sift

/-! ## Steady expressions -/

/-- A selector that starts with a name is checked for what the name is bound to, and one that passes
through lists goes on by name behind the first of them. Where the list is absent, the answer is
that of an `any`, which is no. -/
structure Selector.Steady (tag : String) (schema : Schema) (names : List (String × Option Field))
    (selector : Selector) (ifAbsent : Bool) (env : Env) : Prop where
  known {first : String} : selector.path.head? = some first → names.lookup first ≠ some none
  named {route : Route} : schema.route (.ofKnown names) selector = .ok route →
    ∀ next ∈ route.others.head?, ∀ segment ∈ next.head?, natural64? segment = none
  absent {route : Route} : schema.route (.ofKnown names) selector = .ok route →
    route.others ≠ [] → ifAbsent = true → env.find? tag route.first ≠ some none

/-- All selectors of an expression are steady wherever they are evaluated without a schema. The right
side of `and` and `or` is evaluated only where the left one leaves the answer open, and the body of a
quantifier only for the frames in front of which no other has decided. -/
def Expr.Steady (patterns : PatternEngine) (tag : String) (schema : Schema) :
    List (String × Option Field) → Env → Expr String → Prop
  | names, env, .test selector operator _ =>
    selector.Steady tag schema names operator.ifAbsent env
  | names, env, .not operand => Steady patterns tag schema names env operand
  | names, env, .and left right =>
    Steady patterns tag schema names env left ∧
      ((Settings.ofTag patterns tag).answer? left.asRead env = some true →
        Steady patterns tag schema names env right)
  | names, env, .or left right =>
    Steady patterns tag schema names env left ∧
      ((Settings.ofTag patterns tag).answer? left.asRead env = some false →
        Steady patterns tag schema names env right)
  | names, env, .quantified quantifier selector binding body =>
    selector.Steady tag schema names quantifier.ifNone env ∧
      ∀ route, schema.route (.ofKnown names) selector = .ok route →
        ∀ d, env.find? tag selector.path = some (some d) →
          ∀ visited frame rest, binding.frames? d = some (visited ++ frame :: rest) →
            (∀ earlier ∈ visited, (Settings.ofTag patterns tag).answer? body.asRead
              (env.push earlier) = some quantifier.ifNone) →
            Steady patterns tag schema (binding.known route.field ++ names) (env.push frame) body

/-- The shapes without judges whose records tell their fields apart are closed under parts. -/
theorem regularClass (tag : String) : ShapeClass tag (Shape.Regular tag) where
  regular regular := regular
  position := .int .w64
  inner regular := by cases regular with | optional regular => exact regular
  element regular := by cases regular with | list regular => exact regular
  key regular := by cases regular with | map key => exact key
  value regular := by cases regular with | map _ value => exact value
  member regular inside := by cases regular with | record fields _ => exact fields _ inside

/-! ## Up to the first list -/

section

variable {tag : String} {P : Shape → Prop} {env : Env}

/-- A selector leads to the end of its route, unless there is a list on the way; then it leads to
the first one. -/
theorem leadsTo_of_follow (closed : ShapeClass tag P) {rest : List String} {field : Field}
    {route : Route} (followed : field.follow rest = .ok route) {path : List String}
    (filled : path ≠ []) {shape : Shape} (ofClass : P shape) (describes : field.Describes tag shape)
    (leads : env.LeadsTo tag path shape) :
    (route.others = [] ∧ route.first = rest ∧ ∃ goal, P goal ∧ route.field.Describes tag goal ∧
        env.LeadsTo tag (path ++ rest) goal) ∨
      ∃ segment more next others, rest = route.first ++ segment :: more ∧
        route.others = (segment :: next) :: others ∧ ∃ lists element, lists.required = .list element ∧
          env.LeadsTo tag (path ++ route.first) lists := by
  induction rest generalizing field route path shape with
  | nil =>
    cases followed
    rw [List.append_nil]
    exact .inl ⟨rfl, rfl, shape, ofClass, describes, leads⟩
  | cons segment rest ih =>
    obtain ⟨next, below, step, behind, cut⟩ := of_follow_cons followed
    rcases describes.collection with ⟨isList, element, required⟩ | ⟨other, single⟩
    · rcases cut with ⟨-, rfl⟩ | ⟨other, -⟩
      · rw [List.append_nil]
        exact .inr ⟨segment, rest, below.first, below.others, rfl, rfl, shape, element, required,
          leads⟩
      · exact absurd isList other
    · rcases cut with ⟨isList, -⟩ | ⟨-, rfl⟩
      · exact absurd isList other
      · obtain ⟨child, childLeads, childDescribes⟩ :=
          Shape.leads_of_field? (closed.regular ofClass) describes step
        rw [single] at childLeads
        have childClass := closed.leads (closed.required ofClass) childLeads
        have goesOn := leads.step closed ofClass filled describes childLeads childDescribes
        rcases ih behind (by simp) childClass childDescribes goesOn with
          ⟨others, first, ends⟩ | ⟨segment', more, next', others, rest', passed, ends⟩
        · refine .inl ⟨others, congrArg _ first, ?_⟩
          rw [List.append_cons]
          exact ends
        · refine .inr ⟨segment', more, next', others, congrArg _ rest', passed, ?_⟩
          dsimp only
          rw [List.append_cons]
          exact ends

theorem leadsTo_of_route (closed : ShapeClass tag P) {schema : Schema}
    {names : List (String × Option Field)} (rooted : Rooted tag P schema env.root)
    (knows : Knows tag P names env.frames.flatten) {selector : Selector}
    (wellFormed : selector.WellFormed)
    (known : ∀ {first}, selector.path.head? = some first → names.lookup first ≠ some none)
    {route : Route} (routed : schema.route (.ofKnown names) selector = .ok route) :
    (route.others = [] ∧ route.first = selector.path ∧ ∃ goal, P goal ∧
        route.field.Describes tag goal ∧ env.LeadsTo tag selector.path goal) ∨
      ∃ segment more next others, selector.path = route.first ++ segment :: more ∧
        route.first ≠ [] ∧ route.others = (segment :: next) :: others ∧
          ∃ lists element, lists.required = .list element ∧ env.LeadsTo tag route.first lists := by
  obtain ⟨first, rest, field, below, path, start, followed, rfl⟩ := of_route routed
  have other := head_of_wellFormed wellFormed path
  rw [path] at known ⊢
  obtain ⟨shape, ofClass, describes, starts⟩ :=
    starts_of_start? closed rooted knows other (known rfl) start
  rcases leadsTo_of_follow closed followed (List.cons_ne_nil _ _) ofClass describes
    (starts.leadsTo closed ofClass describes) with
    ⟨others, same, ends⟩ | ⟨segment, more, next, others, same, passed, ends⟩
  · exact .inl ⟨others, congrArg _ same, ends⟩
  · exact .inr ⟨segment, more, next, others, congrArg _ same, List.cons_ne_nil _ _, passed, ends⟩

/-- Behind a list a path that goes on by name finds nothing, and only where the list is absent. -/
theorem found_behind_list {path : List String} (filled : path ≠ []) {lists element : Shape}
    (isList : lists.required = .list element) (leads : env.LeadsTo tag path lists)
    {segment : String} (named : natural64? segment = none) (more : List String) :
    env.Clear tag (path ++ segment :: more) ∧
      ∀ found, env.find? tag (path ++ segment :: more) = some found →
        found = none ∧ env.find? tag path = some none := by
  have stuck {d : Datum} (walked : env.find? tag path = some (some d)) :
      d.walk tag (segment :: more) = .error (.invalidIndex segment) := by
    have admits := leads.admits walked
    rw [isList] at admits
    cases admits
    rw [Datum.walk_cons, Datum.part?, named]
    rfl
  refine ⟨leads.clear.append filled fun d walked => ?_, fun found here => ?_⟩
  · refine Datum.clear_of_fault (stuck walked) ?_
    intro judge
    cases judge
  · rw [Env.find?_append filled] at here
    cases walked : env.find? tag path with
    | none =>
      rw [walked] at here
      cases here
    | some between =>
      rw [walked] at here
      cases between with
      | none =>
        cases here
        exact ⟨rfl, rfl⟩
      | some d =>
        have failed : d.find? tag (segment :: more) = none := by
          rw [Datum.find?, stuck walked]
          rfl
        change d.find? tag (segment :: more) = some found at here
        rw [failed] at here
        cases here

end

/-! ## Expressions -/

namespace Settings

variable {patterns : PatternEngine} {tag : String} {schema : Schema}
  {names : List (String × Option Field)} {env : Env}

/-- A quantifier keeps its answer if the visits keep theirs, as far as there are any. -/
theorem quantify?_keeps {quantifier : Quantifier} {visit visit' : Frame → Option Bool}
    {frames : List Frame}
    (visits : ∀ visited frame rest, frames = visited ++ frame :: rest →
      (∀ earlier ∈ visited, visit earlier = some quantifier.ifNone) →
        ∀ b, visit frame = some b → visit' frame = some b) {b : Bool}
    (answered : quantify? quantifier visit frames = some b) :
    quantify? quantifier visit' frames = some b := by
  induction frames with
  | nil => exact answered
  | cons frame rest ih =>
    simp only [quantify?, Option.bind_eq_bind, Option.bind_eq_some_iff] at answered ⊢
    obtain ⟨answer, answers, goesOn⟩ := answered
    have kept := visits [] frame rest (List.nil_append _).symm (List.forall_mem_nil _) answer answers
    refine ⟨answer, kept, ?_⟩
    split at goesOn
    next same =>
      rw [if_pos same]
      apply ih _ goesOn
      intro visited later rest' split undecided
      apply visits (frame :: visited) later rest' (congrArg (List.cons frame) split)
      rw [List.forall_mem_cons]
      exact ⟨same ▸ answers, undecided⟩
    next other =>
      rw [if_neg other]
      exact goesOn

/-- A conjunction keeps its answer if both sides keep theirs, the right one where it is asked. -/
theorem keeps_and {left left' right right' : CheckedExpr}
    (leftKeeps : ∀ b, (ofTag patterns tag).answer? left env = some b →
      (ofTag patterns tag).answer? left' env = some b)
    (rightKeeps : (ofTag patterns tag).answer? left env = some true →
      ∀ b, (ofTag patterns tag).answer? right env = some b →
        (ofTag patterns tag).answer? right' env = some b) {b : Bool}
    (answered : (ofTag patterns tag).answer? (.and left right) env = some b) :
    (ofTag patterns tag).answer? (.and left' right') env = some b := by
  rw [answer?_and] at answered
  obtain ⟨holds, leftAnswered, goesOn⟩ := Option.bind_eq_some_iff.mp answered
  rw [answer?_and, leftKeeps holds leftAnswered]
  cases holds with
  | true => exact rightKeeps leftAnswered b goesOn
  | false => exact goesOn

theorem keeps_or {left left' right right' : CheckedExpr}
    (leftKeeps : ∀ b, (ofTag patterns tag).answer? left env = some b →
      (ofTag patterns tag).answer? left' env = some b)
    (rightKeeps : (ofTag patterns tag).answer? left env = some false →
      ∀ b, (ofTag patterns tag).answer? right env = some b →
        (ofTag patterns tag).answer? right' env = some b) {b : Bool}
    (answered : (ofTag patterns tag).answer? (.or left right) env = some b) :
    (ofTag patterns tag).answer? (.or left' right') env = some b := by
  rw [answer?_or] at answered
  obtain ⟨holds, leftAnswered, goesOn⟩ := Option.bind_eq_some_iff.mp answered
  rw [answer?_or, leftKeeps holds leftAnswered]
  cases holds with
  | true => exact goesOn
  | false => exact rightKeeps leftAnswered b goesOn

/-- A quantifier over what a path leads to keeps its answer if the body keeps its own at every
part that is visited. -/
theorem keeps_quantified {selector : Selector} (clear : env.Clear tag selector.path)
    {quantifier : Quantifier} {binding : Binding} {body body' : CheckedExpr}
    (bodyKeeps : ∀ d, env.find? tag selector.path = some (some d) →
      ∀ visited frame rest, binding.frames? d = some (visited ++ frame :: rest) →
        (∀ earlier ∈ visited,
          (ofTag patterns tag).answer? body (env.push earlier) = some quantifier.ifNone) →
        ∀ b, (ofTag patterns tag).answer? body (env.push frame) = some b →
          (ofTag patterns tag).answer? body' (env.push frame) = some b) {b : Bool}
    (answered : (ofTag patterns tag).answer? (.quantified quantifier selector binding body) env =
      some b) :
    (ofTag patterns tag).answer? (.quantified quantifier selector binding body') env = some b := by
  rw [answer?_quantified_of_clear clear] at answered ⊢
  obtain ⟨found, walked, goesOn⟩ := Option.bind_eq_some_iff.mp answered
  rw [walked]
  cases found with
  | none => exact goesOn
  | some d =>
    obtain ⟨frames, framed, visited⟩ := Option.bind_eq_some_iff.mp goesOn
    simp only [quantified?, framed, Option.bind_eq_bind, Option.bind_some]
    apply quantify?_keeps _ visited
    intro earlier frame rest split undecided b' bodyAnswered
    exact bodyKeeps d walked earlier frame rest (split ▸ framed) undecided b' bodyAnswered

/-- Whatever is asked of what a steady selector finds, the checked node keeps the answer: either it
asks the same of the same, or the selector has found a list absent. -/
theorem keeps_route {P : Shape → Prop} (closed : ShapeClass tag P)
    (rooted : Rooted tag P schema env.root) (knows : Knows tag P names env.frames.flatten)
    {selector : Selector} (wellFormed : selector.WellFormed) {ifAbsent : Bool}
    (steady : selector.Steady tag schema names ifAbsent env) {route : Route}
    (routed : schema.route (.ofKnown names) selector = .ok route) {plain : CheckedExpr}
    {ask : Option Datum → Option Bool} (absent : ask none = some ifAbsent)
    (asks : env.Clear tag selector.path →
      (ofTag patterns tag).answer? plain env = env.find? tag selector.path >>= ask)
    {node : Selector → CheckedExpr} {b : Bool}
    (direct : ∀ goal, P goal → route.field.Describes tag goal →
      env.LeadsTo tag selector.path goal →
        (ofTag patterns tag).answer? (node selector) env = some b)
    (answered : (ofTag patterns tag).answer? plain env = some b) :
    (ofTag patterns tag).answer? (passThrough selector.form node route.first route.others) env =
      some b := by
  rcases leadsTo_of_route closed rooted knows wellFormed steady.known routed with
    ⟨others, first, goal, goalClass, describes, leads⟩ |
    ⟨segment, more, next, others, path, filled, passed, lists, element, isList, leads⟩
  · rw [others, first]
    exact direct goal goalClass describes leads
  · have named := steady.named routed (segment :: next) (by rw [passed]; rfl) segment rfl
    obtain ⟨clear, finds⟩ := found_behind_list filled isList leads named more
    rw [← path] at clear finds
    rw [asks clear] at answered
    obtain ⟨found, walked, same⟩ := Option.bind_eq_some_iff.mp answered
    obtain ⟨rfl, gone⟩ := finds found walked
    obtain rfl : ifAbsent = b := Option.some.inj (absent.symm.trans same)
    cases ifAbsent with
    | true => exact absurd gone (steady.absent routed (by simp [passed]) rfl)
    | false =>
      rw [passed, passThrough, answer?_quantified_of_clear leads.clear, gone]
      rfl

/-- A steady expression that checks keeps the answer that it has as it was read. -/
theorem keeps_answer {limits : Limits} {e : Expr String} (wellFormed : e.WellFormed)
    {checked : CheckedExpr}
    (checks : (checkedIn patterns limits (some schema) (.ofKnown names) e).outcome = .ok checked)
    (rooted : Rooted tag (Shape.Regular tag) schema env.root)
    (knows : Knows tag (Shape.Regular tag) names env.frames.flatten)
    (steady : e.Steady patterns tag schema names env) {b : Bool}
    (answered : (ofTag patterns tag).answer? e.asRead env = some b) :
    (ofTag patterns tag).answer? checked env = some b := by
  induction e generalizing names env checked b with
  | test selector operator literal =>
    obtain ⟨route, checkedLiteral, routed, -, literals, rfl⟩ :=
      of_checkTest (of_checkedIn_test checks)
    refine keeps_route (regularClass tag) rooted knows wellFormed.1 steady routed rfl
      (fun clear => answer?_test clear operator _) ?_ answered
    intro goal _ _ leads
    obtain ⟨plain, faithful⟩ := plain_of_mapM_checkLiteral literals selector
    rw [Expr.asRead, answer?_test leads.clear] at answered
    rw [answer?_test leads.clear, ← answered]
    refine bind_congr fun found => ?_
    rw [← verdict?_plain faithful, plain]
    rfl
  | not operand ih =>
    obtain ⟨inner, innerChecks, rfl⟩ := of_checkedIn_not checks
    rw [Expr.asRead, answer?_not, Option.map_eq_some_iff] at answered
    obtain ⟨holds, innerAnswered, rfl⟩ := answered
    rw [answer?_not, ih wellFormed.1 innerChecks rooted knows steady innerAnswered, Option.map_some]
  | and left right ihLeft ihRight =>
    obtain ⟨left', right', leftChecks, rightChecks, rfl⟩ := of_checkedIn_and checks
    refine keeps_and (fun b leftAnswered => ?_) (fun asked b rightAnswered => ?_) answered
    · exact ihLeft wellFormed.1 leftChecks rooted knows steady.1 leftAnswered
    · exact ihRight wellFormed.2 rightChecks rooted knows (steady.2 asked) rightAnswered
  | or left right ihLeft ihRight =>
    obtain ⟨left', right', leftChecks, rightChecks, rfl⟩ := of_checkedIn_or checks
    refine keeps_or (fun b leftAnswered => ?_) (fun asked b rightAnswered => ?_) answered
    · exact ihLeft wellFormed.1 leftChecks rooted knows steady.1 leftAnswered
    · exact ihRight wellFormed.2 rightChecks rooted knows (steady.2 asked) rightAnswered
  | quantified quantifier selector binding body ih =>
    obtain ⟨route, inner, routed, -, innerChecks, rfl⟩ := of_checkedIn_quantified checks
    rw [Binding.fields_eq, ← Scope.ofKnown_append] at innerChecks
    obtain ⟨selectorFormed, -, -, bodyFormed⟩ := wellFormed
    obtain ⟨selectorSteady, bodySteady⟩ := steady
    refine keeps_route (regularClass tag) rooted knows selectorFormed selectorSteady routed rfl
      (fun clear => answer?_quantified_of_clear clear quantifier binding _) ?_ answered
    intro goal regular describes leads
    refine keeps_quantified leads.clear ?_ answered
    intro d walked visited frame rest framed undecided b' bodyAnswered
    have inside : frame ∈ visited ++ frame :: rest := List.mem_append_right _ (List.mem_cons_self ..)
    have binds := knows_of_frames? (regularClass tag) ((regularClass tag).required regular)
      describes.required (leads.admits walked) framed inside
    have sameRoot : Rooted tag (Shape.Regular tag) schema (env.push frame).root := rooted
    have here := bodySteady route routed d walked visited frame rest framed undecided
    exact ih bodyFormed innerChecks sameRoot (binds.append knows) here bodyAnswered

end Settings

/-! ## Queries -/

/-- A query that compiles under the schema of a shape compiles without it, and wherever it is steady
it keeps the answers that it has without, for every datum of the shape. -/
theorem schema_keeps_answers {options : Options} (hook : options.hook = none)
    (unknown : options.unknown = none) (refuse : options.refuseMissing = false) {shape : Shape}
    (regular : shape.Regular options.tag) {schema : Schema}
    (derived : Schema.ofShape options.tag shape = .ok schema) {typeName : Option String}
    {source : String} {q : Query}
    (compiled : (Query.compile options (some schema) typeName source).outcome = .ok q) :
    ∃ plain, (Query.compile options none typeName source).outcome = .ok plain ∧
      ∀ d, shape.Admits d → q.parsed.Steady options.patterns options.tag schema [] ⟨d, []⟩ →
        ∀ b, (plain.evaluateDatum d).outcome = .ok b → (q.evaluateDatum d).outcome = .ok b := by
  obtain ⟨plain, plainCompiled, asRead, settings⟩ := compile_none_of_compile compiled
  refine ⟨plain, plainCompiled, ?_⟩
  intro d admits steady b answered
  obtain ⟨-, -, read, checks, -⟩ := of_compile compiled
  have checked := (of_check checks).1
  rw [evaluateDatum_eq_ok, asRead, settings] at answered
  rw [evaluateDatum_eq_ok]
  rw [settings_of_compile hook unknown refuse compiled] at answered ⊢
  cases schema with
  | nil =>
    -- an empty schema counts as none
    rw [of_checkedIn_none checked]
    exact answered
  | cons entry rest =>
    exact Settings.keeps_answer (wellFormed_of_read read) checked
      (rooted_of_ofShape (regularClass _) regular derived admits) .nil steady answered

/-- An order whose items are absent. -/
def Datum.bareOrder : Datum := .record "Order" [({ name := "items" }, .null)]

/-- The items of an order are passed through, be they absent, and what stands behind a side that has
decided need not be steady. -/
theorem schema_keeps_answers_order :
    ∃ schema plain checked, Schema.ofShape Schema.defaultTag .sampleOrder = .ok schema ∧
      (Query.compile .standard none none
        "items.price == 1 or items is empty or items.price != 1").outcome = .ok plain ∧
      (Query.compile .standard (some schema) none
        "items.price == 1 or items is empty or items.price != 1").outcome = .ok checked ∧
      (plain.evaluateDatum .bareOrder).outcome = .ok true ∧
      (checked.evaluateDatum .bareOrder).outcome = .ok true := by
  have regular : Shape.sampleOrder.Regular Schema.defaultTag := by
    refine .record (List.forall_mem_singleton.mpr (.optional (.list ?_)))
      (List.pairwise_singleton _ _)
    exact .record (List.forall_mem_singleton.mpr (.int .w64)) (List.pairwise_singleton _ _)
  have admits : Shape.sampleOrder.Admits .bareOrder :=
    .record rfl (List.forall_mem_singleton.mpr (.absent _))
  have compiles : ∃ q, (Query.compile .standard
      (Schema.ofShape Schema.defaultTag .sampleOrder).toOption none
      "items.price == 1 or items is empty or items.price != 1").outcome = .ok q := ⟨_, by cbv⟩
  have answers : ∃ q, (Query.compile .standard none none
      "items.price == 1 or items is empty or items.price != 1").outcome = .ok q ∧
      (q.evaluateDatum .bareOrder).outcome = .ok true := ⟨_, by cbv, by cbv⟩
  have reads : Expr.read 0 "items.price == 1 or items is empty or items.price != 1" =
      .ok (.or (.or (.test ⟨.words, ["items", "price"]⟩ .equal (some "1"))
          (.test ⟨.words, ["items"]⟩ .isEmpty none))
        (.test ⟨.words, ["items", "price"]⟩ .notEqual (some "1"))) := by cbv
  have passesItems : ((Schema.ofShape Schema.defaultTag .sampleOrder).toOption.bind fun schema =>
      (schema.route [] ⟨.words, ["items"]⟩).toOption).map Route.others = some [] := by cbv
  have passesPrice : ((Schema.ofShape Schema.defaultTag .sampleOrder).toOption.bind fun schema =>
      (schema.route [] ⟨.words, ["items", "price"]⟩).toOption).map Route.others =
        some [["price"]] := by cbv
  obtain ⟨schema, derived⟩ : ∃ schema, Schema.ofShape Schema.defaultTag .sampleOrder = .ok schema :=
    ⟨_, rfl⟩
  rw [derived] at compiles passesItems passesPrice
  obtain ⟨checked, compiled⟩ := compiles
  obtain ⟨plain, plainCompiled, keeps⟩ :=
    @schema_keeps_answers .standard rfl rfl rfl _ regular _ derived none _ _ compiled
  obtain ⟨plain', plainCompiled', answered⟩ := answers
  obtain rfl : plain' = plain := Except.ok.inj (plainCompiled'.symm.trans plainCompiled)
  have steady : checked.parsed.Steady Pattern.engine Schema.defaultTag schema []
      ⟨.bareOrder, []⟩ := by
    obtain ⟨-, -, read, -⟩ := of_compile compiled
    rw [show checked.parsed = _ from Except.ok.inj (read.symm.trans reads)]
    have others {path : List String} {others : List (List String)}
        (passes : (schema.route [] ⟨.words, path⟩).toOption.map Route.others = some others)
        {route : Route} (routed : schema.route [] ⟨.words, path⟩ = .ok route) :
        route.others = others := by
      rw [routed] at passes
      exact Option.some.inj passes
    refine ⟨⟨⟨fun _ bare => (by cases bare), fun routed => ?_, fun _ _ yes => by cases yes⟩,
      fun _ => ⟨fun _ bare => (by cases bare), fun routed => ?_, fun routed passed => ?_⟩⟩,
      fun undecided => ?_⟩
    · rw [others passesPrice routed]
      rintro _ ⟨⟩ _ ⟨⟩
      rfl
    · rw [others passesItems routed]
      rintro _ ⟨⟩
    · exact absurd (others passesItems routed) passed
    · -- the items are empty, so the last selector is never evaluated
      have decided : (Settings.ofTag Pattern.engine Schema.defaultTag).answer?
          (.or (.test ⟨.words, ["items", "price"]⟩ .equal (some ⟨"1", none⟩))
            (.test ⟨.words, ["items"]⟩ .isEmpty none)) ⟨.bareOrder, []⟩ = some true := by cbv
      cases decided.symm.trans undecided
  exact ⟨schema, plain', checked, derived, plainCompiled, compiled, answered,
    keeps _ admits steady true answered⟩

/-- A text has an answer for a datum of a shape, and another one, or none, under its schema. -/
def Shape.ChangesAnswer (shape : Shape) (source : String) (d : Datum) : Prop :=
  shape.Admits d ∧ ∃ schema plain checked b,
    Schema.ofShape Schema.defaultTag shape = .ok schema ∧
      (Query.compile .standard none none source).outcome = .ok plain ∧
      (Query.compile .standard (some schema) none source).outcome = .ok checked ∧
      (plain.evaluateDatum d).outcome = .ok b ∧ (checked.evaluateDatum d).outcome ≠ .ok b

/-- An absent list differs from nothing, but none of its elements does; a position in a list is a key
of its elements; a name that is bound to data of any shape is checked as a field at the top; and of
two fields that claim a name the schema has the later one. -/
theorem schema_changes_answers :
    Shape.sampleOrder.ChangesAnswer "items.price != 1"
      (.record "Order" [({ name := "items" }, .null)]) ∧
    Shape.ChangesAnswer (.map .string (.list (.map .string (.map .string .bool))))
      "tables[\"0\"] is empty" (.map [("tables", .list [.map [("0", .map [])]])]) ∧
    Shape.ChangesAnswer
      (.record "Log" [({ name := "e" }, .list (.record "Event" [({ name := "code" }, .int .w64)])),
        ({ name := "rest" }, .list .any)])
      "any rest as e \x7b e.code == 1 \x7d"
      (.record "Log" [({ name := "e" }, .list []),
        ({ name := "rest" }, .list [.map [("code", .int 1)]])]) ∧
    Shape.ChangesAnswer
      (.record "Box" [({ name := "old", tags := [(Schema.defaultTag, "parts")] }, .map .string .bool),
        ({ name := "parts" }, .list (.record "Part" [({ name := "used" }, .bool)]))])
      "parts.used == true"
      (.record "Box" [({ name := "old", tags := [(Schema.defaultTag, "parts")] },
          .map [("used", .bool true)]), ({ name := "parts" }, .list [])]) := by
  refine ⟨?_, ?_, ?_, ?_⟩
  · refine ⟨.record rfl (List.forall_mem_singleton.mpr (.absent _)), _, _, _, true, by cbv, by cbv,
      by cbv, by cbv, ?_⟩
    cbv
    intro same
    cases same
  · refine ⟨?_, _, _, _, false, by cbv, by cbv, by cbv, by cbv, ?_⟩
    · refine .map (List.forall_mem_singleton.mpr (.string _)) (List.forall_mem_singleton.mpr ?_)
      refine .list (List.forall_mem_singleton.mpr ?_)
      refine .map (List.forall_mem_singleton.mpr (.string _)) (List.forall_mem_singleton.mpr ?_)
      exact .map (List.forall_mem_nil _) (List.forall_mem_nil _)
    · cbv
      intro same
      cases same
  · refine ⟨?_, _, _, _, true, by cbv, by cbv, by cbv, by cbv, ?_⟩
    · refine .record rfl (List.forall_mem_cons.mpr ⟨.list (List.forall_mem_nil _), ?_⟩)
      exact List.forall_mem_singleton.mpr (.list (List.forall_mem_singleton.mpr (.any _)))
    · cbv
      intro same
      cases same
  · refine ⟨?_, _, _, _, true, by cbv, by cbv, by cbv, by cbv, ?_⟩
    · refine .record rfl (List.forall_mem_cons.mpr ⟨.map ?_ ?_, ?_⟩)
      · exact List.forall_mem_singleton.mpr (.string _)
      · exact List.forall_mem_singleton.mpr (.bool true)
      · exact List.forall_mem_singleton.mpr (.list (List.forall_mem_nil _))
    · cbv
      intro same
      cases same

end Sift
