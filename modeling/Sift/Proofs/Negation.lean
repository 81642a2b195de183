import Sift.Proofs.Checking.Literals
import Sift.Proofs.Evaluation.Judges

/-!
# Negation normal form

A negation can be pushed inwards until it stands on a test with an ordering operator or is gone:
over `and` and `or` by De Morgan's laws, over a quantifier by the other one, and into any other test
by the opposite operator. The translation carries along whether it is under a negation
(`Expr.pushed`), and the evaluation of what it gives is that of the expression with the answer turned
around (`Settings.evaluate_pushed`). So the normal form shows the same data to the hook and has the
same outcome, errors included (`evaluate_nnf`).
-/

namespace Sift

/-! ## Opposites -/

/-- The operator that says the opposite; an ordering operator has none, since what is not comparable
is neither less nor greater. -/
def Operator.opposite? : Operator → Option Operator
  | equal => some notEqual
  | notEqual => some equal
  | isIn => some notIn
  | notIn => some isIn
  | isEmpty => some isNotEmpty
  | isNotEmpty => some isEmpty
  | isMatch => some notMatch
  | notMatch => some isMatch
  | less | lessEqual | greater | greaterEqual => none

theorem Operator.ifAbsent_of_opposite {operator other : Operator}
    (opposite : operator.opposite? = some other) : other.ifAbsent = !operator.ifAbsent := by
  cases operator <;> cases opposite <;> rfl

/-- The other quantifier. -/
def Quantifier.dual : Quantifier → Quantifier
  | any => all
  | all => any

theorem Quantifier.ifNone_dual (quantifier : Quantifier) :
    quantifier.dual.ifNone = !quantifier.ifNone := by
  cases quantifier <;> rfl

namespace Test

theorem map_not_map_not {ε : Type} (x : Except ε Bool) : (x.map not).map not = x := by
  cases x with
  | error e => rfl
  | ok answer => exact congrArg Except.ok (Bool.not_not answer)

theorem bind_pure_not {ε : Type} (x : Except ε Bool) :
    (x >>= fun answer => pure (!answer)) = x.map not := by
  cases x <;> rfl

/-- Of a datum the opposite operator says the opposite, or fails in the same way. The error for a
missing literal names the operator, so the literal has to be there. -/
theorem run_opposite {operator other : Operator} (opposite : operator.opposite? = some other)
    (selector : Selector) {literal : Option CheckedLiteral}
    (there : operator.takesLiteral = true → literal.isSome = true) (patterns : PatternEngine)
    (d : Datum) :
    Test.run ⟨selector, other, literal⟩ patterns d =
      (Test.run ⟨selector, operator, literal⟩ patterns d).map not := by
  have empties : Test.run ⟨selector, .isNotEmpty, literal⟩ patterns d =
      (Test.run ⟨selector, .isEmpty, literal⟩ patterns d).map not :=
    bind_pure_not (Test.emptied ⟨selector, .isEmpty, literal⟩ d)
  -- With its literal there, no part of a test but `run` itself looks at the operator.
  have equals (l : CheckedLiteral) : Test.run ⟨selector, .notEqual, some l⟩ patterns d =
      (Test.run ⟨selector, .equal, some l⟩ patterns d).map not := by
    change (Test.compared ⟨selector, .equal, some l⟩ d >>= fun order => pure (order != some .eq)) =
      (Test.compared ⟨selector, .equal, some l⟩ d >>= fun order => pure (order == some .eq)).map not
    cases Test.compared ⟨selector, .equal, some l⟩ d <;> rfl
  have holds (l : CheckedLiteral) : Test.run ⟨selector, .notIn, some l⟩ patterns d =
      (Test.run ⟨selector, .isIn, some l⟩ patterns d).map not :=
    bind_pure_not (Test.contained ⟨selector, .isIn, some l⟩ d)
  have matching (l : CheckedLiteral) : Test.run ⟨selector, .notMatch, some l⟩ patterns d =
      (Test.run ⟨selector, .isMatch, some l⟩ patterns d).map not :=
    bind_pure_not (Test.matched ⟨selector, .isMatch, some l⟩ patterns d)
  cases operator with
  | isEmpty =>
    cases opposite
    exact empties
  | isNotEmpty =>
    cases opposite
    rw [empties, map_not_map_not]
  | less | lessEqual | greater | greaterEqual => cases opposite
  | equal | isIn | isMatch =>
    cases opposite
    obtain ⟨l, rfl⟩ := Option.isSome_iff_exists.mp (there rfl)
    first | exact equals l | exact holds l | exact matching l
  | notEqual | notIn | notMatch =>
    cases opposite
    obtain ⟨l, rfl⟩ := Option.isSome_iff_exists.mp (there rfl)
    first | rw [equals, map_not_map_not] | rw [holds, map_not_map_not] | rw [matching, map_not_map_not]

end Test

/-! ## The normal form -/

namespace Expr

variable {ν : Type}

/-- The expression, or its negation, with negations pushed inwards. -/
def pushed : Expr ν → Bool → Expr ν
  | test selector operator literal, false => .test selector operator literal
  | test selector operator literal, true =>
    match operator.opposite? with
    | some other => .test selector other literal
    | none => .not (.test selector operator literal)
  | not operand, negated => operand.pushed (!negated)
  | and left right, false => .and (left.pushed false) (right.pushed false)
  | and left right, true => .or (left.pushed true) (right.pushed true)
  | or left right, false => .or (left.pushed false) (right.pushed false)
  | or left right, true => .and (left.pushed true) (right.pushed true)
  | quantified quantifier selector binding body, false =>
    .quantified quantifier selector binding (body.pushed false)
  | quantified quantifier selector binding body, true =>
    .quantified quantifier.dual selector binding (body.pushed true)

/-- The expression with every negation pushed inwards. -/
def nnf (e : Expr ν) : Expr ν := e.pushed false

/-- A negation stands on nothing but a test whose operator has no opposite. -/
def IsNnf : Expr ν → Prop
  | test .. => True
  | not (test _ operator _) => operator.opposite? = none
  | not _ => False
  | and left right => left.IsNnf ∧ right.IsNnf
  | or left right => left.IsNnf ∧ right.IsNnf
  | quantified _ _ _ body => body.IsNnf

theorem isNnf_pushed (e : Expr ν) (negated : Bool) : (e.pushed negated).IsNnf := by
  induction e generalizing negated with
  | test selector operator literal =>
    cases negated with
    | false => trivial
    | true =>
      cases opposite : operator.opposite? with
      | none =>
        simp only [pushed, opposite]
        exact opposite
      | some other =>
        simp only [pushed, opposite]
        trivial
  | not operand ih => exact ih (!negated)
  | and left right ihLeft ihRight | or left right ihLeft ihRight =>
    cases negated <;> exact ⟨ihLeft _, ihRight _⟩
  | quantified quantifier selector binding body ih => cases negated <;> exact ih _

theorem isNnf_nnf (e : Expr ν) : e.nnf.IsNnf := isNnf_pushed e false

end Expr

/-! ## Evaluation -/

namespace Settings

variable {s : Settings} {env : Env}

/-- A negated test says the opposite. -/
theorem evaluate_pushed_test (free : s.JudgeFree) (envFree : env.JudgeFree) (selector : Selector)
    {operator : Operator} {literal : Option CheckedLiteral} (sound : SoundLiteral operator literal) :
    s.evaluate (Expr.pushed (.test selector operator literal) true) env =
      not <$> s.evaluate (.test selector operator literal) env := by
  cases opposite : operator.opposite? with
  | none =>
    simp only [Expr.pushed, opposite]
    exact (map_eq_pure_bind _ _).symm
  | some other =>
    simp only [Expr.pushed, opposite]
    exact test_map free envFree rfl (Operator.ifAbsent_of_opposite opposite)
      (Test.run_opposite opposite selector sound.there s.patterns)

/-- Under a negation the answer is turned around, and nothing else changes. -/
theorem evaluate_pushed (free : s.JudgeFree) {e : CheckedExpr} (sound : e.EveryTest SoundLiteral)
    (envFree : env.JudgeFree) (negated : Bool) :
    s.evaluate (e.pushed negated) env = (negated ^^ ·) <$> s.evaluate e env := by
  have plain : (false ^^ ·) = id := funext Bool.false_xor
  have turned : (true ^^ ·) = not := funext Bool.true_xor
  induction e generalizing env negated with
  | test selector operator literal =>
    cases negated with
    | false => rw [plain, id_map, Expr.pushed]
    | true =>
      rw [turned]
      exact evaluate_pushed_test free envFree selector sound
  | not operand ih =>
    rw [Expr.pushed, ih sound envFree, evaluate, map_bind]
    refine (map_eq_pure_bind _ _).trans (bind_congr fun answer => ?_)
    cases negated <;> cases answer <;> rfl
  | and left right ihLeft ihRight =>
    cases negated with
    | false =>
      simp only [Expr.pushed, evaluate, ihLeft sound.1 envFree, ihRight sound.2 envFree, plain,
        id_map]
    | true =>
      simp only [Expr.pushed, evaluate, ihLeft sound.1 envFree, ihRight sound.2 envFree, turned,
        map_bind, bind_map_left]
      refine bind_congr fun answer => ?_
      cases answer <;> rfl
  | or left right ihLeft ihRight =>
    cases negated with
    | false =>
      simp only [Expr.pushed, evaluate, ihLeft sound.1 envFree, ihRight sound.2 envFree, plain,
        id_map]
    | true =>
      simp only [Expr.pushed, evaluate, ihLeft sound.1 envFree, ihRight sound.2 envFree, turned,
        map_bind, bind_map_left]
      refine bind_congr fun answer => ?_
      cases answer <;> rfl
  | quantified quantifier selector binding body ih =>
    have bodies (inner : Env) (innerFree : inner.JudgeFree) :
        s.evaluate (body.pushed negated) inner = (negated ^^ ·) <$> s.evaluate body inner :=
      ih sound innerFree negated
    have lossless : Function.Injective (negated ^^ ·) := fun _ _ => Bool.xor_right_inj.mp
    cases negated with
    | false =>
      rw [Expr.pushed]
      exact quantified_map free envFree lossless (Bool.false_xor _).symm bodies selector binding
    | true =>
      rw [Expr.pushed]
      refine quantified_map free envFree lossless ?_ bodies selector binding
      rw [Quantifier.ifNone_dual, Bool.true_xor]

end Settings

/-- Where no judge is met, the negation normal form of a checked expression evaluates as the
expression does: with the same outcome, after the same data were shown to the hook. -/
theorem evaluate_nnf {patterns : PatternEngine} {limits : Limits} {known : Option Schema}
    {e : Expr String} {checked : CheckedExpr} {tests : Nat}
    (checks : (check patterns limits known e).outcome = .ok (checked, tests)) {s : Settings}
    (free : s.JudgeFree) {env : Env} (envFree : env.JudgeFree) :
    s.evaluate checked.nnf env = s.evaluate checked env := by
  have sound := soundLiterals_of_check checks
  rw [Expr.nnf, Settings.evaluate_pushed free sound envFree, funext Bool.false_xor]
  exact id_map _

/-- A negation over `and`, a quantifier and an ordering, with a hook and without absent data. -/
theorem evaluate_nnf_order :
    ∃ checked, (check Pattern.engine {} (some Schema.sampleOrder)
        (.not (.and (.test ⟨.words, ["items", "price"]⟩ .notEqual (some "3"))
          (.not (.test ⟨.words, ["items", "price"]⟩ .less (some "5")))))).outcome =
            .ok (checked, 2) ∧
      checked.nnf ≠ checked ∧
      Settings.evaluate ⟨Pattern.engine, "", some fun _ => .keep, .refuse⟩ checked.nnf
        ⟨.map [("items", .list [.map [("price", .int 4)], .map [("price", .int 6)]])], []⟩ =
      Settings.evaluate ⟨Pattern.engine, "", some fun _ => .keep, .refuse⟩ checked
        ⟨.map [("items", .list [.map [("price", .int 4)], .map [("price", .int 6)]])], []⟩ := by
  obtain ⟨checked, checks, differ⟩ : ∃ checked, (check Pattern.engine {} (some Schema.sampleOrder)
      (.not (.and (.test ⟨.words, ["items", "price"]⟩ .notEqual (some "3"))
        (.not (.test ⟨.words, ["items", "price"]⟩ .less (some "5")))))).outcome =
          .ok (checked, 2) ∧
      checked.nnf ≠ checked :=
    ⟨_, rfl, by decide⟩
  have free : Settings.JudgeFree ⟨Pattern.engine, "", some fun _ => .keep, .refuse⟩ := by
    refine ⟨?_, nofun⟩
    rintro hook ⟨⟩
    exact nofun
  refine ⟨checked, checks, differ, evaluate_nnf checks free ⟨.map ?_, nofun⟩⟩
  refine List.forall_mem_singleton.mpr (.list (List.forall_mem_cons.mpr ⟨?_, ?_⟩))
  · exact .map (List.forall_mem_singleton.mpr (.scalar rfl))
  · exact List.forall_mem_singleton.mpr (.map (List.forall_mem_singleton.mpr (.scalar rfl)))

/-- A judge to which everything is true. -/
def Judge.always : Judge where
  id := 0
  decide _ _ _ := .ok true

/-- Nothing but the elements of the substitute for absent data is a judge, and it says the same of
an operator and of its opposite. -/
theorem judge_sees_opposite :
    ∃ checked, (check Pattern.engine {} none (.not (.quantified .any ⟨.words, ["items"]⟩ (.each "x")
        (.test ⟨.words, ["x"]⟩ .equal (some "1"))))).outcome = .ok (checked, 1) ∧
      (⟨.map [], []⟩ : Env).JudgeFree ∧
      (Settings.evaluate ⟨Pattern.engine, "", none, .substitute (.list [.judge .always])⟩ checked.nnf
        ⟨.map [], []⟩).outcome = .ok true ∧
      (Settings.evaluate ⟨Pattern.engine, "", none, .substitute (.list [.judge .always])⟩ checked
        ⟨.map [], []⟩).outcome = .ok false := by
  refine ⟨_, rfl, ⟨.map (List.forall_mem_nil _), nofun⟩, rfl, rfl⟩

end Sift
