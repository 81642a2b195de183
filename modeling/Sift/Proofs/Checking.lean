import Sift.Proofs.Evaluation.Literals
import Sift.Query

/-!
# What a check has seen

If an expression checks, its parts do, and these inversions say what else was looked at: the route
of a selector, the operator, the literal. With them nothing below has to open the check itself.
-/

namespace Sift

/-! ## Tests -/

/-- The literal, tried as a pattern where it has to be one. -/
def CheckedLiteral.tried (l : CheckedLiteral) (patterns : PatternEngine) (selector : Selector)
    (operator : Operator) : Except CheckError CheckedLiteral :=
  if operator.takesPattern then
    match l.converted with
    | none | some (.string _) =>
      if (l.pattern? patterns).isNone then throw (.badPattern l.asText selector) else return l
    | some _ => throw (.patternOfOtherType selector)
  else return l

variable {patterns : PatternEngine}

/-- A literal is converted first and then tried. -/
theorem checkLiteral_eq (field : Field) (selector : Selector) (operator : Operator) (raw : String) :
    checkLiteral patterns field selector operator raw = (match field.literalType with
      | none => pure none
      | some type => match type.read raw with
        | .ok literal => pure (some literal)
        | .error cause => throw (.badLiteral raw selector cause)) >>=
      fun converted => CheckedLiteral.tried ⟨raw, converted⟩ patterns selector operator := by
  unfold checkLiteral
  cases field.literalType with
  | none => rfl
  | some type =>
    dsimp only
    cases type.read raw <;> rfl

/-- A literal that has been tried is the literal. -/
theorem of_tried {selector : Selector} {operator : Operator} {l l' : CheckedLiteral}
    (tries : l.tried patterns selector operator = .ok l') :
    l' = l ∧ (operator.takesPattern = true → (l'.pattern? patterns).isSome = true) := by
  unfold CheckedLiteral.tried at tries
  split at tries
  next takesPattern =>
    split at tries
    · split at tries
      · cases tries
      next fine =>
        cases tries
        exact ⟨rfl, fun _ => Option.isSome_iff_ne_none.mpr (mt Option.isNone_iff_eq_none.mpr fine)⟩
    · split at tries
      · cases tries
      next fine =>
        cases tries
        exact ⟨rfl, fun _ => Option.isSome_iff_ne_none.mpr (mt Option.isNone_iff_eq_none.mpr fine)⟩
    · cases tries
  next other =>
    cases tries
    exact ⟨rfl, fun takesPattern => absurd takesPattern other⟩

/-- A checked literal is the text and, where the field names a type, what the type reads; a pattern
has been tried. -/
theorem of_checkLiteral {field : Field} {selector : Selector} {operator : Operator} {raw : String}
    {l : CheckedLiteral} (checks : checkLiteral patterns field selector operator raw = .ok l) :
    l.raw = raw ∧
      (∀ type, field.literalType = some type →
        ∃ literal, type.read raw = .ok literal ∧ l.converted = some literal) ∧
      (field.literalType = none → l.converted = none) ∧
      (operator.takesPattern = true → (l.pattern? patterns).isSome = true) := by
  rw [checkLiteral_eq] at checks
  obtain ⟨converted, converts, tries⟩ := bind_eq_ok.mp checks
  obtain ⟨rfl, pattern⟩ := of_tried tries
  cases known : field.literalType with
  | none =>
    rw [known] at converts
    cases converts
    refine ⟨rfl, ?_, fun _ => rfl, pattern⟩
    intro type typed
    cases typed
  | some type =>
    simp only [known] at converts
    split at converts
    next literal read =>
      cases converts
      refine ⟨rfl, ?_, ?_, pattern⟩
      · rintro type' same
        cases same
        exact ⟨literal, read, rfl⟩
      · intro untyped
        cases untyped
    next => cases converts

/-- The literal of a checked test, if there is one, is the checked literal. -/
theorem of_mapM_checkLiteral {field : Field} {selector : Selector} {operator : Operator}
    {literal : Option String} {checkedLiteral : Option CheckedLiteral}
    (checks : literal.mapM (checkLiteral patterns field selector operator) = .ok checkedLiteral) :
    (literal = none ∧ checkedLiteral = none) ∨ ∃ raw l, literal = some raw ∧
      checkedLiteral = some l ∧ checkLiteral patterns field selector operator raw = .ok l := by
  cases literal with
  | none =>
    cases checks
    exact .inl ⟨rfl, rfl⟩
  | some raw =>
    obtain ⟨l, oneChecks, same⟩ := bind_eq_ok.mp checks
    cases same
    exact .inr ⟨raw, l, rfl, rfl, oneChecks⟩

/-- A test checks along a route to a field that takes its operator. -/
theorem of_checkTest {schema : Schema} {scope : Scope} {selector : Selector} {operator : Operator}
    {literal : Option String} {checked : CheckedExpr}
    (checks : (schema.checkTest patterns scope selector operator literal).outcome = .ok checked) :
    ∃ route checkedLiteral, schema.route scope selector = .ok route ∧
      route.field.supports operator = true ∧
      literal.mapM (checkLiteral patterns route.field selector operator) = .ok checkedLiteral ∧
      checked = passThrough selector.form (.test · operator checkedLiteral) route.first
        route.others := by
  simp only [Schema.checkTest, Traced.outcome_bind, Traced.outcome_ofExcept] at checks
  obtain ⟨route, routed, checks⟩ := bind_eq_ok.mp checks
  split at checks
  · cases checks
  next supported =>
    simp only [Traced.outcome_bind, Traced.outcome_ofExcept] at checks
    obtain ⟨checkedLiteral, literals, checks⟩ := bind_eq_ok.mp checks
    refine ⟨route, checkedLiteral, routed, by simpa using supported, literals, ?_⟩
    split at checks <;> cases checks <;> rfl

/-! ## Routes -/

/-- One segment down, a list cuts the route. -/
theorem of_follow_cons {field : Field} {segment : String} {rest : List String} {route : Route}
    (followed : field.follow (segment :: rest) = .ok route) :
    ∃ next below, Schema.field? field.fields segment = some next ∧ next.follow rest = .ok below ∧
      ((field.collection = some .list ∧
          route = ⟨below.field, [], (segment :: below.first) :: below.others⟩) ∨
        (field.collection ≠ some .list ∧
          route = ⟨below.field, segment :: below.first, below.others⟩)) := by
  simp only [Field.follow] at followed
  split at followed
  next => cases followed
  next next step =>
    split at followed
    next => cases followed
    next below behind =>
      refine ⟨next, below, step, behind, ?_⟩
      split at followed
      next isList =>
        cases followed
        exact .inl ⟨isList, rfl⟩
      next other =>
        cases followed
        exact .inr ⟨other, rfl⟩

/-- A route begins with the first segment, whatever is known of it. -/
theorem of_route {schema : Schema} {scope : Scope} {selector : Selector} {route : Route}
    (routed : schema.route scope selector = .ok route) :
    ∃ first rest field below, selector.path = first :: rest ∧
      schema.start? scope first = some field ∧ field.follow rest = .ok below ∧
      route = ⟨below.field, first :: below.first, below.others⟩ := by
  unfold Schema.route at routed
  split at routed
  next => cases routed
  next first rest path =>
    split at routed
    next => cases routed
    next field start =>
      split at routed
      next => cases routed
      next below followed =>
        cases routed
        exact ⟨first, rest, field, below, path, start, followed, rfl⟩

/-! ## Expressions -/

/-- An expression with its literals as they were read. -/
def Expr.asRead : Expr String → CheckedExpr
  | test selector operator literal =>
    .test selector operator (literal.map fun raw => ⟨raw, none⟩)
  | not operand => .not operand.asRead
  | and left right => .and left.asRead right.asRead
  | or left right => .or left.asRead right.asRead
  | quantified quantifier selector binding body =>
    .quantified quantifier selector binding body.asRead

section

variable {limits : Limits} {known : Option Schema} {schema : Schema} {scope : Scope}
  {selector : Selector} {operator : Operator} {literal : Option String} {quantifier : Quantifier}
  {binding : Binding} {left right body : Expr String} {checked : CheckedExpr} {n m : Nat}

/-- What comes of an expression inside a scope. The count of tests is left out, since nothing else
depends on the number that it goes on from (`checkIn_eq`). -/
def checkedIn (patterns : PatternEngine) (limits : Limits) (known : Option Schema) (scope : Scope)
    (e : Expr String) : Traced Event CheckError CheckedExpr :=
  Prod.fst <$> checkIn patterns limits known scope e 0

/-- A check counts the tests of the expression, and does nothing else with the count. -/
theorem checkIn_eq (known : Option Schema) (scope : Scope) (e : Expr String) (n : Nat) :
    checkIn patterns limits known scope e n =
      (·, n + e.testCount) <$> checkedIn patterns limits known scope e := by
  induction e generalizing known scope n with
  | test selector operator literal =>
    rw [checkedIn]
    cases known <;>
      simp only [checkIn, Expr.testCount, map_eq_pure_bind, bind_assoc, pure_bind]
  | not operand ih =>
    rw [checkedIn]
    simp only [checkIn, ih, Expr.testCount, map_eq_pure_bind, bind_assoc, pure_bind]
  | and left right ihLeft ihRight | or left right ihLeft ihRight =>
    rw [checkedIn]
    simp only [checkIn, ihLeft, ihRight, Expr.testCount, map_eq_pure_bind, bind_assoc, pure_bind,
      Nat.add_assoc]
  | quantified quantifier selector binding body ih =>
    rw [checkedIn]
    cases known with
    | none =>
      simp only [checkIn, ih, Expr.testCount, map_eq_pure_bind, bind_assoc, pure_bind]
    | some schema =>
      simp only [checkIn, ih, Expr.testCount, map_eq_pure_bind, bind_assoc, pure_bind]
      refine bind_congr fun route => ?_
      split
      next => rfl
      next => simp only [bind_assoc, pure_bind]

/-- A check succeeds with what comes of the expression, and with its tests counted. -/
theorem checkIn_eq_ok {e : Expr String} :
    (checkIn patterns limits known scope e n).outcome = .ok (checked, m) ↔
      (checkedIn patterns limits known scope e).outcome = .ok checked ∧ m = n + e.testCount := by
  rw [checkIn_eq, map_eq_pure_bind, Traced.outcome_bind_eq_ok]
  constructor
  · rintro ⟨v, checks, same⟩
    cases same
    exact ⟨checks, rfl⟩
  · rintro ⟨checks, rfl⟩
    exact ⟨checked, checks, rfl⟩

/-! ### Node by node

What comes of a node, by what comes of its parts. -/

theorem checkedIn_test_none :
    checkedIn patterns limits none scope (.test selector operator literal) = do
      .ofExcept (checkForm limits selector operator literal)
      return .test selector operator (literal.map fun raw => ⟨raw, none⟩) := by
  show Prod.fst <$> (Traced.ofExcept (checkForm limits selector operator literal) >>= fun _ =>
    pure ((Expr.test selector operator (literal.map fun raw => ⟨raw, none⟩) : CheckedExpr),
      0 + 1)) = _
  simp only [map_eq_pure_bind, bind_assoc, pure_bind]

theorem checkedIn_test :
    checkedIn patterns limits (some schema) scope (.test selector operator literal) =
      (.ofExcept (checkForm limits selector operator literal) >>= fun _ =>
        schema.checkTest patterns scope selector operator literal) := by
  show Prod.fst <$> (Traced.ofExcept (checkForm limits selector operator literal) >>= fun _ =>
    schema.checkTest patterns scope selector operator literal >>= fun checked =>
      pure (checked, 0 + 1)) = _
  simp only [map_eq_pure_bind, bind_assoc, pure_bind, bind_pure]

theorem checkedIn_not {operand : Expr String} :
    checkedIn patterns limits known scope (.not operand) =
      .not <$> checkedIn patterns limits known scope operand := by
  show Prod.fst <$> (checkIn patterns limits known scope operand 0 >>= fun found =>
    pure (Expr.not found.1, found.2)) = _
  simp only [checkIn_eq, map_eq_pure_bind, bind_assoc, pure_bind]

theorem checkedIn_and :
    checkedIn patterns limits known scope (.and left right) = do
      let left ← checkedIn patterns limits known scope left
      let right ← checkedIn patterns limits known scope right
      return .and left right := by
  show Prod.fst <$> (checkIn patterns limits known scope left 0 >>= fun first =>
    checkIn patterns limits known scope right first.2 >>= fun second =>
      pure (Expr.and first.1 second.1, second.2)) = _
  simp only [checkIn_eq, map_eq_pure_bind, bind_assoc, pure_bind]

theorem checkedIn_or :
    checkedIn patterns limits known scope (.or left right) = do
      let left ← checkedIn patterns limits known scope left
      let right ← checkedIn patterns limits known scope right
      return .or left right := by
  show Prod.fst <$> (checkIn patterns limits known scope left 0 >>= fun first =>
    checkIn patterns limits known scope right first.2 >>= fun second =>
      pure (Expr.or first.1 second.1, second.2)) = _
  simp only [checkIn_eq, map_eq_pure_bind, bind_assoc, pure_bind]

theorem checkedIn_quantified_none :
    checkedIn patterns limits none scope (.quantified quantifier selector binding body) =
      .quantified quantifier selector binding <$> checkedIn patterns limits none scope body := by
  show Prod.fst <$> (checkIn patterns limits none scope body 0 >>= fun found =>
    pure (Expr.quantified quantifier selector binding found.1, found.2)) = _
  simp only [checkIn_eq, map_eq_pure_bind, bind_assoc, pure_bind]

theorem checkedIn_quantified :
    checkedIn patterns limits (some schema) scope (.quantified quantifier selector binding body) =
      do
        let route ← .ofExcept (schema.route scope selector)
        if route.field.collection = none then .fail (.notCollection quantifier selector)
        else do
          let inner := binding.fields route.field ++ scope
          let body ← checkedIn patterns limits (some schema) inner body
          return passThrough selector.form (.quantified quantifier · binding body) route.first
            route.others := by
  show Prod.fst <$> (Traced.ofExcept (schema.route scope selector) >>= fun route =>
    if route.field.collection = none then .fail (.notCollection quantifier selector)
    else checkIn patterns limits (some schema) (binding.fields route.field ++ scope) body 0 >>=
      fun found => pure (passThrough selector.form (.quantified quantifier · binding found.1)
        route.first route.others, found.2)) = _
  simp only [checkIn_eq, map_eq_pure_bind, bind_assoc, pure_bind]
  refine bind_congr fun route => ?_
  split
  next => rfl
  next => simp only [bind_assoc, pure_bind]

/-- A whole check looks at the number of tests last. -/
theorem check_eq (e : Expr String) :
    check patterns limits known e = do
      let checked ← checkedIn patterns limits (known.filter fun schema => !schema.isEmpty) [] e
      if 0 < limits.maxTests ∧ limits.maxTests < e.testCount then
        .fail (.tooManyTests e.testCount limits.maxTests)
      else return (checked, e.testCount) := by
  rw [check]
  simp only [checkIn_eq, map_eq_pure_bind, bind_assoc, pure_bind, Nat.zero_add]

/-! ### What has been seen -/

/-- With a schema or without, the form of a test has been looked at. -/
theorem form_of_checkedIn
    (checks : (checkedIn patterns limits known scope (.test selector operator literal)).outcome =
      .ok checked) : checkForm limits selector operator literal = .ok () := by
  cases known with
  | none =>
    rw [checkedIn_test_none] at checks
    obtain ⟨_, formed, -⟩ := Traced.outcome_bind_eq_ok.mp checks
    exact formed
  | some schema =>
    rw [checkedIn_test] at checks
    obtain ⟨_, formed, -⟩ := Traced.outcome_bind_eq_ok.mp checks
    exact formed

theorem of_checkedIn_test
    (checks : (checkedIn patterns limits (some schema) scope
      (.test selector operator literal)).outcome = .ok checked) :
    (schema.checkTest patterns scope selector operator literal).outcome = .ok checked := by
  rw [checkedIn_test] at checks
  obtain ⟨-, -, checks⟩ := Traced.outcome_bind_eq_ok.mp checks
  exact checks

theorem of_checkedIn_not {operand : Expr String}
    (checks : (checkedIn patterns limits known scope (.not operand)).outcome = .ok checked) :
    ∃ inner, (checkedIn patterns limits known scope operand).outcome = .ok inner ∧
      checked = .not inner := by
  rw [checkedIn_not, map_eq_pure_bind] at checks
  obtain ⟨inner, innerChecks, same⟩ := Traced.outcome_bind_eq_ok.mp checks
  cases same
  exact ⟨inner, innerChecks, rfl⟩

theorem of_checkedIn_and
    (checks : (checkedIn patterns limits known scope (.and left right)).outcome = .ok checked) :
    ∃ left' right', (checkedIn patterns limits known scope left).outcome = .ok left' ∧
      (checkedIn patterns limits known scope right).outcome = .ok right' ∧
      checked = .and left' right' := by
  rw [checkedIn_and] at checks
  obtain ⟨left', leftChecks, checks⟩ := Traced.outcome_bind_eq_ok.mp checks
  obtain ⟨right', rightChecks, same⟩ := Traced.outcome_bind_eq_ok.mp checks
  cases same
  exact ⟨left', right', leftChecks, rightChecks, rfl⟩

theorem of_checkedIn_or
    (checks : (checkedIn patterns limits known scope (.or left right)).outcome = .ok checked) :
    ∃ left' right', (checkedIn patterns limits known scope left).outcome = .ok left' ∧
      (checkedIn patterns limits known scope right).outcome = .ok right' ∧
      checked = .or left' right' := by
  rw [checkedIn_or] at checks
  obtain ⟨left', leftChecks, checks⟩ := Traced.outcome_bind_eq_ok.mp checks
  obtain ⟨right', rightChecks, same⟩ := Traced.outcome_bind_eq_ok.mp checks
  cases same
  exact ⟨left', right', leftChecks, rightChecks, rfl⟩

/-- A quantifier checks along a route to a collection; its body checks in a scope where the names
of the binding come first. -/
theorem of_checkedIn_quantified
    (checks : (checkedIn patterns limits (some schema) scope
      (.quantified quantifier selector binding body)).outcome = .ok checked) :
    ∃ route inner, schema.route scope selector = .ok route ∧ route.field.collection ≠ none ∧
      (checkedIn patterns limits (some schema) (binding.fields route.field ++ scope) body).outcome =
        .ok inner ∧
      checked = passThrough selector.form (.quantified quantifier · binding inner) route.first
        route.others := by
  rw [checkedIn_quantified] at checks
  obtain ⟨route, routed, checks⟩ := Traced.outcome_bind_eq_ok.mp checks
  split at checks
  · cases checks
  next isCollection =>
    obtain ⟨inner, bodyChecks, same⟩ := Traced.outcome_bind_eq_ok.mp checks
    cases same
    exact ⟨route, inner, routed, isCollection, bodyChecks, rfl⟩

/-- Without a schema, a quantifier checks as its body does. -/
theorem of_checkedIn_quantified_none
    (checks : (checkedIn patterns limits none scope
      (.quantified quantifier selector binding body)).outcome = .ok checked) :
    ∃ inner, (checkedIn patterns limits none scope body).outcome = .ok inner ∧
      checked = .quantified quantifier selector binding inner := by
  rw [checkedIn_quantified_none, map_eq_pure_bind] at checks
  obtain ⟨inner, innerChecks, same⟩ := Traced.outcome_bind_eq_ok.mp checks
  cases same
  exact ⟨inner, innerChecks, rfl⟩

/-- With a schema or without, the body of a quantifier checks in some scope. -/
theorem of_checkedIn_body
    (checks : (checkedIn patterns limits known scope
      (.quantified quantifier selector binding body)).outcome = .ok checked) :
    ∃ scope' inner, (checkedIn patterns limits known scope' body).outcome = .ok inner := by
  cases known with
  | none =>
    obtain ⟨inner, innerChecks, -⟩ := of_checkedIn_quantified_none checks
    exact ⟨scope, inner, innerChecks⟩
  | some schema =>
    obtain ⟨route, inner, -, -, innerChecks, -⟩ := of_checkedIn_quantified checks
    exact ⟨_, inner, innerChecks⟩

/-- Without a schema nothing is made of an expression but what was read. -/
theorem of_checkedIn_none {e : Expr String}
    (checks : (checkedIn patterns limits none scope e).outcome = .ok checked) :
    checked = e.asRead := by
  induction e generalizing scope checked with
  | test selector operator literal =>
    rw [checkedIn_test_none] at checks
    obtain ⟨-, -, same⟩ := Traced.outcome_bind_eq_ok.mp checks
    cases same
    rfl
  | not operand ih =>
    obtain ⟨inner, innerChecks, rfl⟩ := of_checkedIn_not checks
    rw [ih innerChecks, Expr.asRead]
  | and left right ihLeft ihRight =>
    obtain ⟨left', right', leftChecks, rightChecks, rfl⟩ := of_checkedIn_and checks
    rw [ihLeft leftChecks, ihRight rightChecks, Expr.asRead]
  | or left right ihLeft ihRight =>
    obtain ⟨left', right', leftChecks, rightChecks, rfl⟩ := of_checkedIn_or checks
    rw [ihLeft leftChecks, ihRight rightChecks, Expr.asRead]
  | quantified quantifier selector binding body ih =>
    obtain ⟨inner, innerChecks, rfl⟩ := of_checkedIn_quantified_none checks
    rw [ih innerChecks, Expr.asRead]

/-- A whole check gives what comes of the expression, with the number of its tests. -/
theorem of_check {e : Expr String}
    (checks : (check patterns limits known e).outcome = .ok (checked, n)) :
    (checkedIn patterns limits (known.filter fun schema => !schema.isEmpty) [] e).outcome =
      .ok checked ∧ n = e.testCount := by
  rw [check_eq] at checks
  obtain ⟨checked', checks', counted⟩ := Traced.outcome_bind_eq_ok.mp checks
  split at counted <;> cases counted
  exact ⟨checks', rfl⟩

/-- Only a schema without fields counts as none. -/
theorem filter_filled (filled : schema ≠ []) :
    (some schema).filter (fun schema => !schema.isEmpty) = some schema :=
  Option.filter_eq_some_iff.mpr ⟨rfl, by simpa using filled⟩

theorem of_check_filled (filled : schema ≠ []) {e : Expr String}
    (checks : (check patterns limits (some schema) e).outcome = .ok (checked, n)) :
    (checkedIn patterns limits (some schema) [] e).outcome = .ok checked :=
  filter_filled filled ▸ (of_check checks).1

/-- What checks under a schema checks without one. -/
theorem checkedIn_none_of_checkedIn {other : Scope} {e : Expr String}
    (checks : (checkedIn patterns limits known scope e).outcome = .ok checked) :
    (checkedIn patterns limits none other e).outcome = .ok e.asRead := by
  induction e generalizing scope other checked with
  | test selector operator literal =>
    have formed := form_of_checkedIn checks
    simp only [checkedIn_test_none, Traced.outcome_bind, Traced.outcome_ofExcept, formed]
    rfl
  | not operand ih =>
    obtain ⟨inner, innerChecks, -⟩ := of_checkedIn_not checks
    simp only [checkedIn_not, map_eq_pure_bind, Traced.outcome_bind, ih innerChecks]
    rfl
  | and left right ihLeft ihRight =>
    obtain ⟨left', right', leftChecks, rightChecks, -⟩ := of_checkedIn_and checks
    simp only [checkedIn_and, Traced.outcome_bind, ihLeft leftChecks, ihRight rightChecks]
    rfl
  | or left right ihLeft ihRight =>
    obtain ⟨left', right', leftChecks, rightChecks, -⟩ := of_checkedIn_or checks
    simp only [checkedIn_or, Traced.outcome_bind, ihLeft leftChecks, ihRight rightChecks]
    rfl
  | quantified quantifier selector binding body ih =>
    obtain ⟨scope', inner, innerChecks⟩ := of_checkedIn_body checks
    simp only [checkedIn_quantified_none, map_eq_pure_bind, Traced.outcome_bind, ih innerChecks]
    rfl

theorem check_none_of_check {e : Expr String}
    (checks : (check patterns limits known e).outcome = .ok (checked, n)) :
    (check patterns limits none e).outcome = .ok (e.asRead, n) := by
  have inner : (checkedIn patterns limits none [] e).outcome = .ok e.asRead :=
    checkedIn_none_of_checkedIn (of_check checks).1
  obtain rfl := (of_check checks).2
  rw [check_eq] at checks ⊢
  obtain ⟨_, _, counted⟩ := Traced.outcome_bind_eq_ok.mp checks
  rw [Traced.outcome_bind, Option.filter_none, inner, ok_bind]
  split at counted
  next => cases counted
  next fine => rw [if_neg fine, Traced.outcome_pure]

/-! ## Queries -/

/-- Reading with a report gives what reading gives. -/
theorem outcome_readNoted (limit : Nat) (source : String) :
    (Expr.readNoted limit source).outcome = Expr.read limit source := by
  rw [Expr.readNoted, Expr.read]
  cases Expr.readCounted limit source <;> rfl

/-- A text compiles if and only if it can be read and checked, and the query says with what. -/
theorem compile_eq_ok {options : Options} {typeName : Option String} {source : String} {q : Query} :
    (Query.compile options known typeName source).outcome = .ok q ↔
      ∃ policy parsed checked tests, options.policy = .ok policy ∧
        Expr.read options.limits.maxTests source = .ok parsed ∧
        (check options.patterns options.limits known parsed).outcome = .ok (checked, tests) ∧
        q = ⟨source, parsed, checked, tests, known, typeName, options.limits,
          ⟨options.patterns, options.tag, options.hook, policy⟩⟩ := by
  simp only [Query.compile, Traced.outcome_bind, Traced.outcome_mapError, Traced.outcome_ofExcept,
    outcome_readNoted]
  constructor
  · intro compiled
    obtain ⟨policy, hasPolicy, compiled⟩ := bind_eq_ok.mp compiled
    obtain ⟨parsed, read, compiled⟩ := bind_eq_ok.mp compiled
    obtain ⟨⟨checked, tests⟩, checks, same⟩ := bind_eq_ok.mp compiled
    cases same
    exact ⟨policy, parsed, checked, tests, hasPolicy, mapError_eq_ok.mp read,
      mapError_eq_ok.mp checks, rfl⟩
  · rintro ⟨policy, parsed, checked, tests, hasPolicy, read, checks, rfl⟩
    simp only [hasPolicy, read, checks, ok_bind, mapError_ok, Traced.outcome_note,
      Traced.outcome_pure]

theorem of_compile {options : Options} {typeName : Option String} {source : String} {q : Query}
    (compiled : (Query.compile options known typeName source).outcome = .ok q) :
    ∃ policy, options.policy = .ok policy ∧
      Expr.read options.limits.maxTests source = .ok q.parsed ∧
      (check options.patterns options.limits known q.parsed).outcome =
        .ok (q.checked, q.testCount) ∧
      q.settings = ⟨options.patterns, options.tag, options.hook, policy⟩ := by
  obtain ⟨policy, parsed, checked, tests, hasPolicy, read, checks, rfl⟩ := compile_eq_ok.mp compiled
  exact ⟨policy, hasPolicy, read, checks, rfl⟩

/-- What compiles under a schema compiles without one. -/
theorem compile_none_of_compile {options : Options} {typeName : Option String} {source : String}
    {q : Query} (compiled : (Query.compile options known typeName source).outcome = .ok q) :
    ∃ q', (Query.compile options none typeName source).outcome = .ok q' ∧
      q'.checked = q.parsed.asRead ∧ q'.settings = q.settings := by
  obtain ⟨policy, hasPolicy, read, checks, settings⟩ := of_compile compiled
  have plainChecks := check_none_of_check checks
  exact ⟨_, compile_eq_ok.mpr ⟨policy, q.parsed, _, _, hasPolicy, read, plainChecks, rfl⟩, rfl,
    settings.symm⟩

/-- With no hook and no policy chosen, a query has an engine for patterns and a tag only. -/
theorem settings_of_compile {options : Options} (hook : options.hook = none)
    (unknown : options.unknown = none) (refuse : options.refuseMissing = false)
    {typeName : Option String} {source : String} {q : Query}
    (compiled : (Query.compile options known typeName source).outcome = .ok q) :
    q.settings = { patterns := options.patterns, tag := options.tag } := by
  obtain ⟨policy, hasPolicy, -, -, settings⟩ := of_compile compiled
  rw [Options.policy, unknown, refuse] at hasPolicy
  cases hasPolicy
  rw [settings, hook]

theorem evaluateDatum_eq_ok {q : Query} {d : Datum} {b : Bool} :
    (q.evaluateDatum d).outcome = .ok b ↔ q.settings.answer? q.checked ⟨d, []⟩ = some b :=
  Traced.result?_eq_some.symm

end

end Sift
