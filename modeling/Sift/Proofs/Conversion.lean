import Sift.Proofs.Checking.Literals
import Sift.Proofs.Evaluation.Judges

/-!
# Conversion ahead of time

The check converts a literal once, for the type that the schema names, and a test uses the result
wherever the datum is of the same kind. This changes no evaluation: with every literal taken back to
its text (`Expr.plain`) there are the same notes and the same outcome, error by error
(`evaluate_plain`). Only a judge tells the two apart, since it is given the literal itself; one that
is bound from the substitute for absent data is enough (`judge_sees_conversion`).
-/

namespace Sift

/-- The expression with every literal as it was written. -/
def Expr.plain : CheckedExpr → CheckedExpr
  | test selector operator literal => .test selector operator (literal.map CheckedLiteral.plain)
  | not operand => .not operand.plain
  | and left right => .and left.plain right.plain
  | or left right => .or left.plain right.plain
  | quantified quantifier selector binding body => .quantified quantifier selector binding body.plain

namespace Settings

variable {s : Settings} {env : Env}

/-- A test meets no judge, and of data it says the same with its literal as written. -/
theorem test_plain (free : s.JudgeFree) (envFree : env.JudgeFree) {t : Test} (faithful : t.Faithful) :
    s.test t.plain env = s.test t env := by
  have run (d : Datum) : t.plain.run s.patterns d = (t.run s.patterns d).map id := by
    rw [Test.run_plain faithful d]
    cases t.run s.patterns d <;> rfl
  have mapped : s.test t.plain env = id <$> s.test t env := test_map free envFree rfl rfl run
  rw [id_map] at mapped
  exact mapped

theorem evaluate_plain_of_sound (free : s.JudgeFree) {e : CheckedExpr}
    (sound : e.EveryTest SoundLiteral) (envFree : env.JudgeFree) :
    s.evaluate e.plain env = s.evaluate e env := by
  induction e generalizing env with
  | test selector operator literal =>
    have faithful : Test.Faithful ⟨selector, operator, literal⟩ := sound.faithful
    exact test_plain free envFree faithful
  | not operand ih => simp only [Expr.plain, evaluate, ih sound envFree]
  | and left right ihLeft ihRight =>
    simp only [Expr.plain, evaluate, ihLeft sound.1 envFree, ihRight sound.2 envFree]
  | or left right ihLeft ihRight =>
    simp only [Expr.plain, evaluate, ihLeft sound.1 envFree, ihRight sound.2 envFree]
  | quantified quantifier selector binding body ih =>
    have bodies (inner : Env) (innerFree : inner.JudgeFree) :
        s.evaluate body.plain inner = id <$> s.evaluate body inner := by
      rw [id_map]
      exact ih sound innerFree
    have mapped : s.evaluate (.quantified quantifier selector binding body.plain) env =
        id <$> s.evaluate (.quantified quantifier selector binding body) env :=
      quantified_map free envFree Function.injective_id rfl bodies selector binding
    rw [id_map] at mapped
    exact mapped

end Settings

/-- Where no judge is met, a checked expression evaluates as it does with every literal as written,
whatever it was checked under: with the same outcome, after the same data were shown to the hook. -/
theorem evaluate_plain {patterns : PatternEngine} {limits : Limits} {known : Option Schema}
    {e : Expr String} {checked : CheckedExpr} {tests : Nat}
    (checks : (check patterns limits known e).outcome = .ok (checked, tests)) {s : Settings}
    (free : s.JudgeFree) {env : Env} (envFree : env.JudgeFree) :
    s.evaluate checked.plain env = s.evaluate checked env :=
  Settings.evaluate_plain_of_sound free (soundLiterals_of_check checks) envFree

/-- A literal that is converted to a signed integer, and data of three other kinds. -/
theorem evaluate_plain_order :
    ∃ checked, (check Pattern.engine {} (some Schema.sampleOrder)
        (.test ⟨.words, ["items", "price"]⟩ .greater (some "0x2"))).outcome = .ok (checked, 1) ∧
      checked.plain ≠ checked ∧
      (Settings.ofTag Pattern.engine "").evaluate checked.plain
          ⟨.map [("items", .list [.map [("price", .uint 2)], .map [("price", .string "0x")],
            .map [("price", .bool true)]])], []⟩ =
        (Settings.ofTag Pattern.engine "").evaluate checked
          ⟨.map [("items", .list [.map [("price", .uint 2)], .map [("price", .string "0x")],
            .map [("price", .bool true)]])], []⟩ := by
  obtain ⟨checked, checks, differ⟩ : ∃ checked, (check Pattern.engine {} (some Schema.sampleOrder)
      (.test ⟨.words, ["items", "price"]⟩ .greater (some "0x2"))).outcome = .ok (checked, 1) ∧
        checked.plain ≠ checked :=
    ⟨_, rfl, by decide⟩
  refine ⟨checked, checks, differ, evaluate_plain checks (.ofTag Pattern.engine "") ⟨.map ?_, nofun⟩⟩
  refine List.forall_mem_singleton.mpr (.list (List.forall_mem_cons.mpr ⟨?_, ?_⟩))
  · exact .map (List.forall_mem_singleton.mpr (.scalar rfl))
  · refine List.forall_mem_cons.mpr ⟨.map (List.forall_mem_singleton.mpr (.scalar rfl)), ?_⟩
    exact List.forall_mem_singleton.mpr (.map (List.forall_mem_singleton.mpr (.scalar rfl)))

/-- A judge that takes nothing but a text. -/
def Judge.ofTexts : Judge where
  id := 0
  decide _ _ literal := match literal with
    | some (.string _) => .ok true
    | _ => .error "missing value"

/-- The level of an order with counts. -/
def Schema.sampleCounts : Schema :=
  [(.named "items", { collection := some .list, value := some (.scalar (.int .w64)) })]

/-- Nothing but the elements of the substitute for absent data is a judge, and it is given a number
where the schema names one, and a text otherwise. -/
theorem judge_sees_conversion :
    ∃ checked, (check Pattern.engine {} (some Schema.sampleCounts)
        (.quantified .any ⟨.words, ["items"]⟩ (.each "x")
          (.test ⟨.words, ["x"]⟩ .equal (some "1")))).outcome = .ok (checked, 1) ∧
      (⟨.map [], []⟩ : Env).JudgeFree ∧
      (Settings.evaluate ⟨Pattern.engine, "", none, .substitute (.list [.judge .ofTexts])⟩ checked.plain
        ⟨.map [], []⟩).outcome = .ok true ∧
      (Settings.evaluate ⟨Pattern.engine, "", none, .substitute (.list [.judge .ofTexts])⟩ checked
        ⟨.map [], []⟩).outcome = .error (.judgeFailed ⟨.words, ["x"]⟩ "missing value") := by
  refine ⟨_, rfl, ⟨.map (List.forall_mem_nil _), nofun⟩, rfl, rfl⟩

end Sift
