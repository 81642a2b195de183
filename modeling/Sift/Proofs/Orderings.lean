import Mathlib
import Sift.Proofs.Comparison
import Sift.Proofs.Duality
import Sift.Proofs.Evaluation.JudgesInside
import Sift.Query.Standard

/-!
# Ordering operators

`<=` says what `<` or `==` says, and `>=` what `>` or `==` says, wherever all of them have an answer. For
one datum that is so because all of them look at one comparison (`Test.isEither_run`); what is absent has
no order and equals nothing. Through lists each of them asks for some element, and stops at the first one,
but never at one where the others have not come to (`isEither_quantify?`). A judge is free to break the law
(`judge_breaks_ordering`), so of those that a list may bind it is asked for (`Datum.ElementsCohere`). Where
no list is passed through there is one comparison only, and at most one of `<`, `==` and `>` holds.
-/

namespace Sift

/-! ## The law -/

/-- Where all three have an answer, the first says yes exactly if one of the others does. -/
def IsEither (whole strict equal : Option Bool) : Prop :=
  ∀ b b₁ b₂, whole = some b → strict = some b₁ → equal = some b₂ → b = (b₁ || b₂)

/-- The strict operator that, with equality, makes up another one. -/
def Operator.strict? : Operator → Option Operator
  | lessEqual => some less
  | greaterEqual => some greater
  | _ => none

/-- The judge keeps to the law. -/
def Judge.Coheres (j : Judge) : Prop :=
  ∀ whole strict : Operator, whole.strict? = some strict → ∀ path literal,
    IsEither (j.decide path whole literal).toOption (j.decide path strict literal).toOption
      (j.decide path .equal literal).toOption

/-- The judges that are bound where the datum is a list and passed through keep to the law. -/
def Datum.ElementsCohere (d : Datum) : Prop :=
  ∀ elements ∈ d.elements?, ∀ element ∈ elements, element.JudgesAre Judge.Coheres

theorem isEither_some (b₁ b₂ : Bool) : IsEither (some (b₁ || b₂)) (some b₁) (some b₂) := by
  intro b b₁ b₂ whole strict equal
  cases strict
  cases equal
  exact (Option.some.inj whole).symm

theorem IsEither.of_no_answer {strict equal : Option Bool} : IsEither none strict equal := by
  intro b b₁ b₂ whole
  cases whole

/-- Whatever comes before is the same for all three. -/
theorem IsEither.bind {α : Type} (x : Option α) {whole strict equal : α → Option Bool}
    (law : ∀ a, x = some a → IsEither (whole a) (strict a) (equal a)) :
    IsEither (x >>= whole) (x >>= strict) (x >>= equal) := by
  cases x with
  | none => exact .of_no_answer
  | some a => exact law a rfl

/-- If the law holds of every element, it holds of asking for some element. If the first element where
`strict` or `equal` says yes is asked for `whole`, the answer is yes, as the others have come there, too;
before that, all answers are no. -/
theorem isEither_quantify? {whole strict equal : Frame → Option Bool} {frames : List Frame}
    (law : ∀ frame ∈ frames, IsEither (whole frame) (strict frame) (equal frame)) :
    IsEither (Settings.quantify? .any whole frames) (Settings.quantify? .any strict frames)
      (Settings.quantify? .any equal frames) := by
  induction frames with
  | nil => exact isEither_some false false
  | cons frame rest ih =>
    obtain ⟨here, behind⟩ := List.forall_mem_cons.mp law
    intro b b₁ b₂ wholes stricts equals
    obtain ⟨a, whole, wholes⟩ := Option.bind_eq_some_iff.mp wholes
    obtain ⟨a₁, strict, stricts⟩ := Option.bind_eq_some_iff.mp stricts
    obtain ⟨a₂, equal, equals⟩ := Option.bind_eq_some_iff.mp equals
    obtain rfl := here a a₁ a₂ whole strict equal
    cases a₁ with
    | true =>
      cases wholes
      cases stricts
      rfl
    | false =>
      cases a₂ with
      | true =>
        cases wholes
        cases equals
        exact (Bool.or_true b₁).symm
      | false => exact ih behind b b₁ b₂ wholes stricts equals

/-! ## One comparison -/

/-- The operator that asks for a single way to compare. -/
def Operator.asking : Ordering → Operator
  | .lt => less
  | .eq => equal
  | .gt => greater

namespace Test

variable {patterns : PatternEngine} {selector : Selector} {operator : Operator}
  {literal : CheckedLiteral} {d : Datum}

/-- A datum and a literal compare in one way, so the law holds of them. -/
theorem isEither_run {whole strict : Operator} (parts : whole.strict? = some strict) :
    IsEither (Test.run ⟨selector, whole, some literal⟩ patterns d).toOption
      (Test.run ⟨selector, strict, some literal⟩ patterns d).toOption
      (Test.run ⟨selector, .equal, some literal⟩ patterns d).toOption := by
  have outcome {operator : Operator} {asks : Option Ordering → Bool} {b : Bool}
      (comparing : operator.asks? = some asks)
      (answers : (Test.run ⟨selector, operator, some literal⟩ patterns d).toOption = some b) :
      ∃ outcome, Test.compared ⟨selector, .equal, some literal⟩ d = .ok outcome ∧
        b = asks outcome :=
    of_run comparing (toOption_eq_some.mp answers)
  intro b b₁ b₂ wholes stricts equals
  obtain ⟨o, compared, rfl⟩ := outcome rfl equals
  cases whole <;> cases parts
  all_goals
    obtain ⟨o₁, compared', rfl⟩ := outcome rfl wholes
    obtain rfl : o = o₁ := Except.ok.inj (compared.symm.trans compared')
    obtain ⟨o₂, compared', rfl⟩ := outcome rfl stricts
    obtain rfl : o = o₂ := Except.ok.inj (compared.symm.trans compared')
    rcases o with - | (- | - | -) <;> rfl

/-- If an operator holds that asks for a single way to compare, that is the way. -/
theorem of_run_single (single : operator ∈ [.less, .equal, .greater])
    (holds : Test.run ⟨selector, operator, some literal⟩ patterns d = .ok true) :
    ∃ o, Test.compared ⟨selector, .equal, some literal⟩ d = .ok (some o) ∧
      operator = Operator.asking o := by
  simp only [List.mem_cons, List.not_mem_nil, or_false] at single
  rcases single with rfl | rfl | rfl
  all_goals
    obtain ⟨outcome, compared, asked⟩ := of_run rfl holds
    rcases outcome with - | (- | - | -) <;> first | exact ⟨_, compared, rfl⟩ | cases asked

/-- A datum and a literal compare in one way only, so only one of these operators holds. -/
theorem run_unique {one other : Operator} (isOne : one ∈ [.less, .equal, .greater])
    (isOther : other ∈ [.less, .equal, .greater])
    (holds : Test.run ⟨selector, one, some literal⟩ patterns d = .ok true)
    (holds' : Test.run ⟨selector, other, some literal⟩ patterns d = .ok true) : one = other := by
  obtain ⟨o, compared, rfl⟩ := of_run_single isOne holds
  obtain ⟨o', compared', rfl⟩ := of_run_single isOther holds'
  obtain rfl : o = o' := Option.some.inj (Except.ok.inj (compared.symm.trans compared'))
  rfl

end Test

/-! ## Evaluation -/

namespace Settings

variable {s : Settings} {env : Env}

/-- The answer of a test at what its selector leads to, a judge included. -/
def ruling? (patterns : PatternEngine) (t : Test) : Option Reached → Option Bool
  | none => some t.operator.ifAbsent
  | some (.datum d) => (t.run patterns d).toOption
  | some (.judge j rest) =>
    (j.decide (t.selector.path.drop rest) t.operator
      (t.literal.map fun l => l.converted.getD (.string l.raw))).toOption

theorem answer?_test_target (s : Settings) (t : Test) (env : Env) :
    s.answer? (.test t.selector t.operator t.literal) env =
      (s.target t.selector env).result? >>= ruling? s.patterns t := by
  simp only [answer?, evaluate, test, Traced.result?_bind]
  refine bind_congr fun found => ?_
  rcases found with - | (d | ⟨j, rest⟩)
  · rfl
  · rfl
  · simp only [ruling?, Traced.result?_ofExcept]
    cases j.decide (t.selector.path.drop rest) t.operator
      (t.literal.map fun l => l.converted.getD (.string l.raw)) <;> rfl

/-- A selector that passes through no list leads to one datum, or to nothing. -/
theorem test_unique (noHook : s.hook = none) (free : env.JudgeFree) {selector : Selector}
    {literal : CheckedLiteral} {one other : Operator} (isOne : one ∈ [.less, .equal, .greater])
    (isOther : other ∈ [.less, .equal, .greater])
    (holds : s.answer? (.test selector one (some literal)) env = some true)
    (holds' : s.answer? (.test selector other (some literal)) env = some true) : one = other := by
  rw [s.answer?_test_target ⟨selector, one, some literal⟩] at holds
  rw [s.answer?_test_target ⟨selector, other, some literal⟩] at holds'
  obtain ⟨found, targeted, ruled⟩ := Option.bind_eq_some_iff.mp holds
  obtain ⟨found', targeted', ruled'⟩ := Option.bind_eq_some_iff.mp holds'
  obtain rfl : found = found' := Option.some.inj (targeted.symm.trans targeted')
  rcases found with - | (d | ⟨j, rest⟩)
  · have none : one.ifAbsent = false := by
      simp only [List.mem_cons, List.not_mem_nil, or_false] at isOne
      rcases isOne with rfl | rfl | rfl <;> rfl
    cases none.symm.trans (Option.some.inj ruled)
  · exact Test.run_unique isOne isOther (toOption_eq_some.mp ruled) (toOption_eq_some.mp ruled')
  · exact absurd (Traced.result?_eq_some.mp targeted) (target_ne_judge noHook free j rest)

variable {whole strict : Operator} (parts : whole.strict? = some strict)
include parts

/-- What is absent has no order and equals nothing. -/
theorem isEither_ruling? {patterns : PatternEngine} {selector : Selector} {literal : CheckedLiteral}
    {found : Option Reached} (judge : ∀ j rest, found = some (.judge j rest) → j.Coheres) :
    IsEither (ruling? patterns ⟨selector, whole, some literal⟩ found)
      (ruling? patterns ⟨selector, strict, some literal⟩ found)
      (ruling? patterns ⟨selector, .equal, some literal⟩ found) := by
  rcases found with - | (d | ⟨j, rest⟩)
  · cases whole <;> cases parts <;> exact isEither_some false false
  · exact Test.isEither_run parts
  · exact judge j rest rfl whole strict parts _ _

/-- The law holds of what a selector leads to, and through every list on the way. -/
theorem isEither_passThrough (noHook : s.hook = none) (form : SelectorForm) (literal : CheckedLiteral)
    (first : List String) (others : List (List String))
    (substitute : others ≠ [] → ∀ d, s.policy = .substitute d → d.ElementsCohere)
    (judges : env.JudgesAre Judge.Coheres) :
    IsEither (s.answer? (passThrough form (.test · whole (some literal)) first others) env)
      (s.answer? (passThrough form (.test · strict (some literal)) first others) env)
      (s.answer? (passThrough form (.test · .equal (some literal)) first others) env) := by
  induction others generalizing first env with
  | nil =>
    have asked (operator : Operator) :=
      s.answer?_test_target ⟨⟨form, first⟩, operator, some literal⟩ env
    simp only [passThrough, asked]
    refine .bind _ fun found targeted => isEither_ruling? parts ?_
    rintro j rest rfl
    exact judge_of_target noHook judges (Traced.result?_eq_some.mp targeted)
  | cons next others ih =>
    simp only [passThrough, answer?_quantified]
    refine .bind _ fun found targeted => ?_
    rcases found with - | (d | ⟨j, rest⟩)
    · exact isEither_some false false
    · have elementsCohere : d.ElementsCohere := judgesAre_elements_of_target noHook
        (substitute (List.cons_ne_nil _ _)) judges (Traced.result?_eq_some.mp targeted)
      refine .bind _ fun frames visited => isEither_quantify? fun frame here => ?_
      refine ih (passedName :: next) (fun _ => substitute (List.cons_ne_nil _ _)) (judges.push ?_)
      rw [frames?_value] at visited
      obtain ⟨elements, known, rfl⟩ := Option.map_eq_some_iff.mp visited
      obtain ⟨element, there, rfl⟩ := List.mem_map.mp here
      exact List.forall_mem_singleton.mpr (elementsCohere elements known element there)
    · exact .of_no_answer

end Settings

/-! ## Queries -/

/-- What a literal is read as does not depend on the operator. -/
theorem checkLiteral_unique {patterns : PatternEngine} {field : Field} {selector : Selector}
    {operator operator' : Operator} {raw : String} {l l' : CheckedLiteral}
    (checks : checkLiteral patterns field selector operator raw = .ok l)
    (checks' : checkLiteral patterns field selector operator' raw = .ok l') : l' = l := by
  rw [checkLiteral_eq] at checks checks'
  obtain ⟨converted, converts, tries⟩ := bind_eq_ok.mp checks
  obtain ⟨converted', converts', tries'⟩ := bind_eq_ok.mp checks'
  obtain rfl : converted = converted' := Except.ok.inj (converts.symm.trans converts')
  rw [(of_tried tries).1, (of_tried tries').1]

/-- Tests of one selector against one literal are checked to the same literal, behind the same pieces of
the path, whatever they ask. -/
theorem exists_pieces {patterns : PatternEngine} {limits : Limits} {known : Option Schema}
    {scope : Scope} {selector : Selector} {operator : Operator} {raw : String} {checked : CheckedExpr}
    (checks : (checkedIn patterns limits known scope (.test selector operator (some raw))).outcome =
      .ok checked) :
    ∃ literal first others,
      ((∀ schema ∈ known, schema.crossed scope selector.path = []) → others = []) ∧
      ∀ operator' checked', (checkedIn patterns limits known scope
          (.test selector operator' (some raw))).outcome = .ok checked' →
        checked' = passThrough selector.form (.test · operator' (some literal)) first others := by
  cases known with
  | none => exact ⟨⟨raw, none⟩, selector.path, [], fun _ => rfl, fun _ _ => of_checkedIn_none⟩
  | some schema =>
    obtain ⟨route, checkedLiteral, routed, -, literals, -⟩ := of_checkTest (of_checkedIn_test checks)
    rcases of_mapM_checkLiteral literals with ⟨none, -⟩ | ⟨_, literal, same, rfl, reads⟩
    · cases none
    · cases same
      refine ⟨literal, route.first, route.others,
        fun none => (route_of_not_crossed routed (none schema rfl)).2, ?_⟩
      intro operator' checked' checks'
      obtain ⟨route', checkedLiteral', routed', -, literals', rfl⟩ :=
        of_checkTest (of_checkedIn_test checks')
      obtain rfl : route = route' := Except.ok.inj (routed.symm.trans routed')
      rcases of_mapM_checkLiteral literals' with ⟨none, -⟩ | ⟨_, literal', same, rfl, reads'⟩
      · cases none
      · cases same
        rw [checkLiteral_unique reads reads']

/-- A query that was compiled from a text, and the text was read as the comparison of what a selector leads
to with a literal. -/
structure Query.Compares (q : Query) (options : Options) (known : Option Schema)
    (typeName : Option String) (selector : Selector) (operator : Operator) (raw : String) : Prop where
  compiled : ∃ source, (Query.compile options known typeName source).outcome = .ok q
  parsed : q.parsed = .test selector operator (some raw)

section

variable {options : Options} {known : Option Schema} {typeName : Option String}
  {selector : Selector} {operator : Operator} {raw : String} {q : Query}

theorem Query.Compares.checkedIn (compares : q.Compares options known typeName selector operator raw) :
    (Sift.checkedIn options.patterns options.limits (known.filter fun schema => !schema.isEmpty) []
      (.test selector operator (some raw))).outcome = .ok q.checked := by
  obtain ⟨_, compiled⟩ := compares.compiled
  obtain ⟨-, -, -, checks, -⟩ := of_compile compiled
  rw [← compares.parsed]
  exact (of_check checks).1

/-- All comparisons of one selector with one literal are evaluated under the same settings, the same
literal behind the same pieces of the path. -/
theorem Query.Compares.exists_pieces
    (compares : q.Compares options known typeName selector operator raw) :
    ∃ policy literal first others, options.policy = .ok policy ∧
      ((∀ schema ∈ known, schema.crossed [] selector.path = []) → others = []) ∧
      ∀ operator' q', Query.Compares q' options known typeName selector operator' raw →
        ∀ env, (q'.evaluateIn env).result? =
          Settings.answer? ⟨options.patterns, options.tag, options.hook, policy⟩
            (passThrough selector.form (.test · operator' (some literal)) first others) env := by
  obtain ⟨_, compiled⟩ := compares.compiled
  obtain ⟨policy, hasPolicy, -⟩ := of_compile compiled
  obtain ⟨literal, first, others, whole, pieces⟩ := Sift.exists_pieces compares.checkedIn
  refine ⟨policy, literal, first, others, hasPolicy, fun none => whole fun schema left =>
    none schema (Option.filter_eq_some_iff.mp left).1, ?_⟩
  intro operator' q' compares' env
  obtain ⟨_, compiled'⟩ := compares'.compiled
  obtain ⟨policy', hasPolicy', -, -, settings⟩ := of_compile compiled'
  obtain rfl : policy = policy' := Except.ok.inj (hasPolicy.symm.trans hasPolicy')
  rw [Query.evaluateIn, settings, pieces operator' _ compares'.checkedIn]
  rfl

theorem unknown_of_policy {d : Datum} (policy : options.policy = .ok (.substitute d)) :
    options.unknown = some d := by
  unfold Options.policy at policy
  split at policy
  · cases policy
  next known _ =>
    cases policy
    exact known
  · cases policy
  · cases policy

/-- Take comparisons of one selector with one literal, all of them compiled under the same options without a
hook, with a schema or without, and evaluated where there is no judge. `<=` has the answer of `<` or `==`,
and `>=` that of `>` or `==`, whenever all three have an answer; and if the selector passes through no list
of the schema before its last segment, at most one of `<`, `==` and `>` has the answer yes. A list that is
passed through may be absent, and if another collection takes its place, the judges in the elements of that
one have to keep to the law themselves. -/
theorem orderings_cohere (noHook : options.hook = none) (known : Option Schema)
    (typeName : Option String) (selector : Selector) (raw : String) {env : Env}
    (free : env.JudgeFree) :
    ((∀ schema ∈ known, schema.crossed [] selector.path = []) ∨
        (∀ d ∈ options.unknown, d.ElementsCohere) →
      ∀ whole strict : Operator, whole.strict? = some strict → ∀ q q₁ q₂ : Query,
      q.Compares options known typeName selector whole raw →
      q₁.Compares options known typeName selector strict raw →
      q₂.Compares options known typeName selector .equal raw →
      ∀ b b₁ b₂, (q.evaluateIn env).outcome = .ok b → (q₁.evaluateIn env).outcome = .ok b₁ →
        (q₂.evaluateIn env).outcome = .ok b₂ → b = (b₁ || b₂)) ∧
    ((∀ schema ∈ known, schema.crossed [] selector.path = []) →
      ∀ one ∈ [Operator.less, .equal, .greater], ∀ other ∈ [Operator.less, .equal, .greater],
      ∀ q₁ q₂ : Query, q₁.Compares options known typeName selector one raw →
        q₂.Compares options known typeName selector other raw →
        (q₁.evaluateIn env).outcome = .ok true → (q₂.evaluateIn env).outcome = .ok true →
        one = other) := by
  constructor
  · intro lawful whole strict parts q q₁ q₂ compares compares₁ compares₂ b b₁ b₂ wholes stricts equals
    obtain ⟨policy, literal, first, others, hasPolicy, uncut, answers⟩ := compares.exists_pieces
    have substitute (cut : others ≠ []) (d : Datum) (substituted : policy = .substitute d) :
        d.ElementsCohere := by
      rcases lawful with none | coheres
      · exact absurd (uncut none) cut
      · exact coheres d (unknown_of_policy (substituted ▸ hasPolicy))
    have law := @Settings.isEither_passThrough ⟨options.patterns, options.tag, options.hook, policy⟩
      env whole strict parts noHook selector.form literal first others substitute free.judgesAre
    rw [← answers _ q compares, ← answers _ q₁ compares₁, ← answers _ q₂ compares₂] at law
    exact law b b₁ b₂ (Traced.result?_eq_some.mpr wholes) (Traced.result?_eq_some.mpr stricts)
      (Traced.result?_eq_some.mpr equals)
  · intro none one isOne other isOther q₁ q₂ compares₁ compares₂ holds holds'
    obtain ⟨policy, literal, first, others, -, uncut, answers⟩ := compares₁.exists_pieces
    obtain rfl := uncut none
    rw [← Traced.result?_eq_some, answers _ q₁ compares₁] at holds
    rw [← Traced.result?_eq_some, answers _ q₂ compares₂] at holds'
    exact Settings.test_unique noHook free isOne isOther holds holds'

end

/-- A list in the place of absent items, and a judge among them to which everything is true. -/
def Options.sampleItems : Options :=
  { Options.standard with unknown := some (.list [.map [("price", .int 5)], .judge .always]) }

/-- The items are not there, and the price of the first that takes their place is the literal. -/
theorem orderings_cohere_items :
    ∃ q q₁ q₂, (Query.compile .sampleItems (some .sampleOrder) none "items.price <= 5").outcome = .ok q ∧
      (Query.compile .sampleItems (some .sampleOrder) none "items.price < 5").outcome = .ok q₁ ∧
      (Query.compile .sampleItems (some .sampleOrder) none "items.price == 5").outcome = .ok q₂ ∧
      (∀ b b₁ b₂, (q.evaluateDatum (.map [])).outcome = .ok b →
        (q₁.evaluateDatum (.map [])).outcome = .ok b₁ →
        (q₂.evaluateDatum (.map [])).outcome = .ok b₂ → b = (b₁ || b₂)) ∧
      (q.evaluateDatum (.map [])).outcome = .ok true ∧
      (q₁.evaluateDatum (.map [])).outcome = .ok true ∧
      (q₂.evaluateDatum (.map [])).outcome = .ok true := by
  obtain ⟨q, compiled, parsed, answer⟩ : ∃ q,
      (Query.compile .sampleItems (some .sampleOrder) none "items.price <= 5").outcome = .ok q ∧
      q.parsed = .test ⟨.words, ["items", "price"]⟩ .lessEqual (some "5") ∧
      (q.evaluateDatum (.map [])).outcome = .ok true := ⟨_, by cbv, rfl, by cbv⟩
  obtain ⟨q₁, compiled₁, parsed₁, answer₁⟩ : ∃ q,
      (Query.compile .sampleItems (some .sampleOrder) none "items.price < 5").outcome = .ok q ∧
      q.parsed = .test ⟨.words, ["items", "price"]⟩ .less (some "5") ∧
      (q.evaluateDatum (.map [])).outcome = .ok true := ⟨_, by cbv, rfl, by cbv⟩
  obtain ⟨q₂, compiled₂, parsed₂, answer₂⟩ : ∃ q,
      (Query.compile .sampleItems (some .sampleOrder) none "items.price == 5").outcome = .ok q ∧
      q.parsed = .test ⟨.words, ["items", "price"]⟩ .equal (some "5") ∧
      (q.evaluateDatum (.map [])).outcome = .ok true := ⟨_, by cbv, rfl, by cbv⟩
  have coheres : ∀ d ∈ Options.sampleItems.unknown, d.ElementsCohere := by
    rintro d ⟨⟩ elements ⟨⟩
    refine List.forall_mem_cons.mpr ⟨?_, List.forall_mem_singleton.mpr (.judge ?_)⟩
    · exact Datum.JudgeFree.judgesAre (.map (List.forall_mem_singleton.mpr (.scalar rfl)))
    · intro whole strict _ path literal
      exact isEither_some true true
  have free : Env.JudgeFree ⟨.map [], []⟩ := ⟨.map (List.forall_mem_nil _), List.forall_mem_nil _⟩
  have cohere := (@orderings_cohere .sampleItems rfl (some .sampleOrder) none
    ⟨.words, ["items", "price"]⟩ "5" _ free).1 (.inr coheres) .lessEqual .less rfl q q₁ q₂
      ⟨⟨_, compiled⟩, parsed⟩ ⟨⟨_, compiled₁⟩, parsed₁⟩ ⟨⟨_, compiled₂⟩, parsed₂⟩
  exact ⟨q, q₁, q₂, compiled, compiled₁, compiled₂, cohere, answer, answer₁, answer₂⟩

/-- A judge that breaks the law: only `<=` is true to it. -/
def Judge.wayward : Judge := ⟨0, fun _ operator _ => .ok (operator == .lessEqual)⟩

/-- A list in the place of absent items, of a judge that breaks the law. -/
def Options.sampleWayward : Options :=
  { Options.standard with unknown := some (.list [.judge .wayward]) }

/-- The items are not there, and the judge that is bound in their place is true to `<=`, but neither to `<`
nor to `==`. Under a name that a quantifier binds, a judge is true to several of `<`, `==` and `>`. -/
theorem judge_breaks_ordering :
    (Options.sampleWayward.hook = none ∧ (Datum.map []).JudgeFree ∧
      ∃ q q₁ q₂,
        (Query.compile .sampleWayward (some .sampleOrder) none "items.price <= 5").outcome = .ok q ∧
        (Query.compile .sampleWayward (some .sampleOrder) none "items.price < 5").outcome = .ok q₁ ∧
        (Query.compile .sampleWayward (some .sampleOrder) none "items.price == 5").outcome = .ok q₂ ∧
        (q.evaluateDatum (.map [])).outcome = .ok true ∧
        (q₁.evaluateDatum (.map [])).outcome = .ok false ∧
        (q₂.evaluateDatum (.map [])).outcome = .ok false) ∧
    ∃ q, (Query.compile { Options.standard with unknown := some (.list [.judge .always]) } none none
        "any items as x \x7b x < 5 and x == 5 \x7d").outcome = .ok q ∧
      (q.evaluateDatum (.map [])).outcome = .ok true := by
  refine ⟨⟨rfl, .map (List.forall_mem_nil _), ?_⟩, _, by cbv, by cbv⟩
  exact ⟨_, _, _, by cbv, by cbv, by cbv, by cbv, by cbv, by cbv⟩

end Sift
