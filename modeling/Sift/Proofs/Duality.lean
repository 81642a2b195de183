import Mathlib
import Sift.Proofs.Flattening
import Sift.Proofs.Grammar.Quantified
import Sift.Proofs.Negation

/-!
# Duality of the quantifiers

A quantified expression and the negation of the dual one with a negated body are written by two texts
that share the texts of selector, binding and body. If both compile, the bodies are checked to
expressions of which one is the negation of the other, so the two quantifiers stop at the same element
(`Settings.evaluate_dual`). This is so as long as both quantifiers are the outermost ones after
checking. A selector that passes through a list is checked to an `any` per list around either of them,
and an `any` around is not turned around by the negation: a query and its dual then differ even for
absent data. `evaluate_dual_iff` puts both together.
-/

namespace Sift

/-! ## Negated expressions -/

namespace Settings

variable {s : Settings} {env : Env}

theorem evaluate_not (operand : CheckedExpr) :
    s.evaluate (.not operand) env = not <$> s.evaluate operand env :=
  (map_eq_pure_bind _ _).symm

theorem not_map_not_map {ν ε : Type} (x : Traced ν ε Bool) : not <$> not <$> x = x := by
  have twice : not ∘ not = id := funext Bool.not_not
  rw [← comp_map, twice, id_map]

/-- A quantifier is the negation of the dual one with negated bodies: both stop at the same element. -/
theorem evaluate_dual (quantifier : Quantifier) (selector : Selector) (binding : Binding)
    {body body' : CheckedExpr}
    (bodies : ∀ inner : Env, s.evaluate body' inner = not <$> s.evaluate body inner) :
    s.evaluate (.not (.quantified quantifier.dual selector binding body')) env =
      s.evaluate (.quantified quantifier selector binding body) env := by
  have turned : s.evaluate (.quantified quantifier.dual selector binding body') env =
      not <$> s.evaluate (.quantified quantifier selector binding body) env :=
    quantified_map_of_frames (fun _ _ => Bool.not_inj) quantifier.ifNone_dual
      fun _ _ _ _ frame _ => bodies (env.push frame)
  rw [evaluate_not, turned, not_map_not_map]

/-- Nothing is at the end of a path into nothing. -/
theorem target_null (absent : s.policy = .byOperator) {selector : Selector}
    (filled : selector.path ≠ []) : s.target selector ⟨.null, []⟩ = pure none := by
  obtain ⟨first, rest, path⟩ := List.exists_cons_of_ne_nil filled
  have followed : s.resolve selector ⟨.null, []⟩ =
      .fail (.unresolved ⟨selector.path, 0, .absent⟩) := by
    simp only [resolve, path]
    rfl
  simp only [target, followed, absent]
  rfl

end Settings

/-! ## Checked quantifiers -/

section

variable {patterns : PatternEngine} {limits : Limits} {known : Option Schema} {schema : Schema}
  {scope : Scope} {selector : Selector} {quantifier : Quantifier} {binding : Binding}
  {body : Expr String} {checked inner inner' : CheckedExpr} {s : Settings} {env : Env}

/-- A double negation is read as none, so the negation of a negation is its operand. -/
theorem evaluate_negated (checks : (checkedIn patterns limits known scope body).outcome = .ok inner)
    (checks' : (checkedIn patterns limits known scope (Reader.negated body)).outcome = .ok inner') :
    s.evaluate inner' env = not <$> s.evaluate inner env := by
  cases body with
  | not operand =>
    obtain ⟨inner, operandChecks, rfl⟩ := of_checkedIn_not checks
    obtain rfl : inner' = inner := Except.ok.inj (checks'.symm.trans operandChecks)
    rw [Settings.evaluate_not, Settings.not_map_not_map]
  | test | and | or | quantified =>
    obtain ⟨operand, operandChecks, rfl⟩ := of_checkedIn_not checks'
    obtain rfl : operand = inner := Except.ok.inj (operandChecks.symm.trans checks)
    exact Settings.evaluate_not operand

/-- A selector that crosses no list is in one piece. -/
theorem route_of_not_crossed {route : Route} (routed : schema.route scope selector = .ok route)
    (none : schema.crossed scope selector.path = []) :
    route.first = selector.path ∧ route.others = [] := by
  have pieced := pieces_of_route routed
  rw [none] at pieced
  exact ⟨(Prod.mk.inj pieced).1.symm, (Prod.mk.inj pieced).2.symm⟩

/-- A selector that crosses a list is in more than one piece. -/
theorem route_of_crossed {route : Route} (routed : schema.route scope selector = .ok route)
    (some : schema.crossed scope selector.path ≠ []) : route.others ≠ [] := by
  have pieced := pieces_of_route routed
  obtain ⟨position, others, crossed⟩ := List.exists_cons_of_ne_nil some
  rw [crossed] at pieced
  rw [← (Prod.mk.inj pieced).2]
  exact List.cons_ne_nil _ _

/-- Where no list is crossed, a quantifier stays the outermost one over what it was read to be over,
and the scope of its body depends on nothing else. -/
theorem exists_scope_of_not_crossed
    (none : ∀ schema ∈ known, schema.crossed scope selector.path = []) :
    ∃ scope', ∀ quantifier body checked, (checkedIn patterns limits known scope
        (.quantified quantifier selector binding body)).outcome = .ok checked →
      ∃ inner, (checkedIn patterns limits known scope' body).outcome = .ok inner ∧
        checked = .quantified quantifier selector binding inner := by
  cases known with
  | none =>
    refine ⟨scope, fun quantifier body checked checks => ?_⟩
    exact of_checkedIn_quantified_none checks
  | some schema =>
    cases routed : schema.route scope selector with
    | error cause =>
      refine ⟨scope, fun quantifier body checked checks => ?_⟩
      obtain ⟨route, _, routed', -⟩ := of_checkedIn_quantified checks
      cases routed.symm.trans routed'
    | ok route =>
      refine ⟨binding.fields route.field ++ scope, fun quantifier body checked checks => ?_⟩
      obtain ⟨route', inner, routed', -, innerChecks, rfl⟩ := of_checkedIn_quantified checks
      obtain rfl : route = route' := Except.ok.inj (routed.symm.trans routed')
      obtain ⟨first, others⟩ := route_of_not_crossed routed (none schema rfl)
      refine ⟨inner, innerChecks, ?_⟩
      rw [first, others, passThrough]

/-- An `any` around, over what is not there, has the answer no, whatever it was put around. -/
theorem evaluate_null_of_crossed
    (checks : (checkedIn patterns limits (some schema) scope
      (.quantified quantifier selector binding body)).outcome = .ok checked)
    (some : schema.crossed scope selector.path ≠ []) (absent : s.policy = .byOperator) :
    s.evaluate checked ⟨.null, []⟩ = pure false := by
  obtain ⟨route, inner, routed, -, -, rfl⟩ := of_checkedIn_quantified checks
  obtain ⟨next, others, pieced⟩ := List.exists_cons_of_ne_nil (route_of_crossed routed some)
  obtain ⟨first, rest, field, below, -, -, -, rfl⟩ := of_route routed
  rw [pieced, passThrough, Settings.evaluate, Settings.target_null absent (List.cons_ne_nil _ _)]
  rfl

end

/-- An empty schema has no lists. -/
theorem Schema.crossed_empty (path : List String) : Schema.crossed [] [] path = [] := by
  refine List.filter_eq_nil_iff.mpr fun position _ => ?_
  cases path <;> exact Bool.false_ne_true

/-! ## Queries -/

/-- Take a text that quantifies over a selector, and the text that negates the dual quantifier over the
same selector with its body negated. If both compile, with absent data left to the operators, they have
the same outcome for every datum exactly if the selector passes through no list of the schema before
its last segment. -/
theorem evaluate_dual_iff {options : Options} (unknown : options.unknown = none)
    (refuse : options.refuseMissing = false) {known : Option Schema} {typeName : Option String}
    {quantifier : Quantifier} {selectorText bindingText body : String} {steps : Nat}
    {selector : Selector} {binding : Binding}
    (selects : (Reader.selector steps).ReadsAll selectorText selector)
    (binds : Reader.binding.ReadsAll bindingText binding) {q dual : Query}
    (compiled : (Query.compile options known typeName
      (quantifier.over selectorText bindingText body)).outcome = .ok q)
    (dualCompiled : (Query.compile options known typeName
      ("not " ++ quantifier.dual.over selectorText bindingText ("not (" ++ body ++ ")"))).outcome =
        .ok dual) :
    (∀ d, (q.evaluateDatum d).result? = (dual.evaluateDatum d).result?) ↔
      ∀ schema ∈ known, schema.crossed [] selector.path = [] := by
  obtain ⟨policy, hasPolicy, read, checks, settings⟩ := of_compile compiled
  obtain ⟨policy', hasPolicy', dualRead, dualChecks, dualSettings⟩ := of_compile dualCompiled
  obtain rfl : policy' = policy := Except.ok.inj (hasPolicy'.symm.trans hasPolicy)
  have absent : q.settings.policy = .byOperator := by
    rw [Options.policy, unknown, refuse] at hasPolicy
    rw [settings, ← Except.ok.inj hasPolicy]
  obtain ⟨inner, parsed, dualParsed⟩ := read_dual selects binds read dualRead
  rw [parsed] at checks
  rw [dualParsed] at dualChecks
  have quantified := (of_check checks).1
  obtain ⟨operand, dualQuantified, dualChecked⟩ := of_checkedIn_not (of_check dualChecks).1
  have evaluated (d : Datum) :
      dual.evaluateDatum d = not <$> q.settings.evaluate operand ⟨d, []⟩ := by
    rw [Query.evaluateDatum, Query.evaluateIn, dualChecked, dualSettings, ← settings]
    exact Settings.evaluate_not operand
  constructor
  · intro same schema isKnown
    cases schema with
    | nil => exact Schema.crossed_empty _
    | cons entry rest =>
      obtain rfl : known = some (entry :: rest) := isKnown
      refine Decidable.byContradiction fun crossed => ?_
      have here := same .null
      rw [evaluated, evaluate_null_of_crossed dualQuantified crossed absent] at here
      rw [Query.evaluateDatum, Query.evaluateIn,
        evaluate_null_of_crossed quantified crossed absent] at here
      cases here
  · intro none d
    have noneLeft : ∀ schema ∈ known.filter fun schema => !schema.isEmpty,
        schema.crossed [] selector.path = [] :=
      fun schema left => none schema (Option.filter_eq_some_iff.mp left).1
    obtain ⟨scope, bodies⟩ := exists_scope_of_not_crossed noneLeft
    obtain ⟨body', bodyChecks, checked⟩ := bodies _ _ _ quantified
    obtain ⟨dualBody, dualBodyChecks, rfl⟩ := bodies _ _ _ dualQuantified
    have bodiesDual (inner : Env) : q.settings.evaluate dualBody inner =
        not <$> q.settings.evaluate body' inner := evaluate_negated bodyChecks dualBodyChecks
    rw [evaluated, ← Settings.evaluate_not, Settings.evaluate_dual _ _ _ bodiesDual,
      Query.evaluateDatum, Query.evaluateIn, checked]

/-- Orders whose items have tags. -/
def Schema.sampleTags : Schema :=
  let text : Field := { literalType := some .string, operators := [.equal, .notEqual] }
  let item : Schema := [(.named "tags", { collection := some .list, value := some text })]
  [(.named "items", { collection := some .list, value := some { fields := item }, fields := item })]

/-- A quantifier over the items, with another one over their tags inside. -/
theorem evaluate_dual_iff_tags :
    ∃ q dual, (Query.compile .standard (some Schema.sampleTags) none
        (Quantifier.all.over "items" "x" "any x.tags as t \x7b t == a \x7d")).outcome = .ok q ∧
      (Query.compile .standard (some Schema.sampleTags) none
        ("not " ++ Quantifier.any.over "items" "x"
          ("not (" ++ "any x.tags as t \x7b t == a \x7d" ++ ")"))).outcome = .ok dual ∧
      ∀ d, (q.evaluateDatum d).result? = (dual.evaluateDatum d).result? := by
  obtain ⟨q, compiled⟩ : ∃ q, (Query.compile .standard (some Schema.sampleTags) none
      (Quantifier.all.over "items" "x" "any x.tags as t \x7b t == a \x7d")).outcome = .ok q :=
    ⟨_, by cbv⟩
  obtain ⟨dual, dualCompiled⟩ : ∃ dual, (Query.compile .standard (some Schema.sampleTags) none
      ("not " ++ Quantifier.any.over "items" "x"
        ("not (" ++ "any x.tags as t \x7b t == a \x7d" ++ ")"))).outcome = .ok dual :=
    ⟨_, by cbv⟩
  have selects : (Reader.selector 1).ReadsAll "items" ⟨.words, ["items"]⟩ := by
    refine ⟨[⟨.word "items", ⟨1, 1, 0⟩, ⟨1, 6, 5⟩⟩, ⟨.finish, ⟨1, 6, 5⟩, ⟨1, 6, 5⟩⟩], by cbv, ?_⟩
    exact ⟨⟨⟨.word "items", .start, .start⟩, [⟨.finish, .start, .start⟩], 0⟩, _, rfl, rfl, rfl⟩
  have binds : Reader.binding.ReadsAll "x" (.each "x") := by
    refine ⟨[⟨.word "x", ⟨1, 1, 0⟩, ⟨1, 2, 1⟩⟩, ⟨.finish, ⟨1, 2, 1⟩, ⟨1, 2, 1⟩⟩], by cbv, ?_⟩
    exact ⟨⟨⟨.word "x", .start, .start⟩, [⟨.finish, .start, .start⟩], 0⟩, _, rfl, rfl, rfl⟩
  have notCrossed : ∀ schema ∈ some Schema.sampleTags, schema.crossed [] ["items"] = [] := by
    rintro schema ⟨⟩
    rfl
  have dualities := (evaluate_dual_iff rfl rfl selects binds compiled dualCompiled).mpr notCrossed
  exact ⟨q, dual, compiled, dualCompiled, dualities⟩

/-- Over the tags of all items the two differ: some item has only a given tag, and some item has another
one. -/
theorem crossed_list_breaks_duality :
    ∃ q dual, (Query.compile .standard (some Schema.sampleTags) none
        (Quantifier.all.over "items.tags" "t" "t == a")).outcome = .ok q ∧
      (Query.compile .standard (some Schema.sampleTags) none ("not " ++
        Quantifier.any.over "items.tags" "t" ("not (" ++ "t == a" ++ ")"))).outcome = .ok dual ∧
      (q.evaluateDatum (.map [("items", .list [.map [("tags", .list [.string "a"])],
        .map [("tags", .list [.string "b"])]])])).outcome = .ok true ∧
      (dual.evaluateDatum (.map [("items", .list [.map [("tags", .list [.string "a"])],
        .map [("tags", .list [.string "b"])]])])).outcome = .ok false :=
  ⟨_, _, by cbv, by cbv, by cbv, by cbv⟩

end Sift
