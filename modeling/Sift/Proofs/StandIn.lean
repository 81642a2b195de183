import Mathlib
import Sift.Proofs.Evaluation.Substitution
import Sift.Proofs.Negation
import Sift.Query.Standard

/-!
# What stands in for absent data

A query may be compiled with a datum that takes the place of whatever is not found. A test or a
quantifier whose selector leads to nothing then does what it would do if the selector were a name bound
to that datum (`unknown_stands_in`): null stays null, so it is not found once more and replaced by
itself, and a scalar is compared as any other. Only a judge is not what it would be under a name. The
resolver, which finds out judges, is not asked about the substitute, so a test takes it for a datum
that it cannot compare and fails, where the judge under a name decides (`judge_does_not_stand_in`).
-/

namespace Sift

/-! ## Nothing found -/

/-- The segment leads to nothing: there is no such key, field or position, or only null to look
into. -/
inductive PathFault.NothingThere : PathFault → Prop
  | key (key : String) : NothingThere (.keyNotFound key)
  | field (name : String) : NothingThere (.fieldNotFound name)
  | position (index length : Nat) : NothingThere (.indexOutOfRange index length)
  | null : NothingThere .absent

theorem PathFault.NothingThere.isNotFound {fault : PathFault} (nothing : fault.NothingThere) :
    fault.isNotFound = true := by
  cases nothing <;> rfl

namespace Settings

variable {s : Settings} {env : Env} {selector : Selector} {v : Datum} {x : String}

/-- A selector leads to null, or one of its segments leads to nothing. -/
def FindsNothing (s : Settings) (selector : Selector) (env : Env) : Prop :=
  (s.resolve selector env).outcome = .ok (.datum .null) ∨
    ∃ error, (s.resolve selector env).outcome = .error (.unresolved error) ∧
      error.fault.NothingThere

/-- The substitute is the target of a selector that leads to nothing. -/
theorem outcome_target_of_findsNothing (policy : s.policy = .substitute v)
    (nothing : s.FindsNothing selector env) :
    (s.target selector env).outcome = .ok (some (.datum v)) := by
  unfold target
  rcases nothing with null | ⟨error, failed, nothing⟩
  · simp only [null, policy, AbsencePolicy.settle]
  · simp only [failed, nothing.isNotFound, policy, AbsencePolicy.settle, if_true]

/-- A name on its own is resolved to what it is bound to. -/
theorem resolve_name (s : Settings) (form : SelectorForm) (env : Env) (x : String) (v : Datum) :
    s.resolve ⟨form, [x]⟩ (env.push [(x, v)]) =
      pure (match v with | .judge j => .judge j 1 | d => .datum d) := by
  unfold resolve
  simp only [env.lookup_push_self x v]
  cases v <;> rfl

/-- A name that is bound to the substitute has the substitute for a target, null as well, unless that
is a judge. -/
theorem outcome_target_name (policy : s.policy = .substitute v) (other : v.kind ≠ .judge) :
    (s.target ⟨.words, [x]⟩ (env.push [(x, v)])).outcome = .ok (some (.datum v)) := by
  unfold target
  rw [resolve_name]
  cases v with
  | judge j => exact absurd rfl other
  | null => simp only [Traced.outcome_pure, policy, AbsencePolicy.settle]
  | _ => rfl

/-! ## Tests and quantifiers of what is found -/

variable {d : Datum}

theorem answer?_test_of_target (found : (s.target selector env).outcome = .ok (some (.datum d)))
    (operator : Operator) (literal : Option CheckedLiteral) :
    s.answer? (.test selector operator literal) env =
      ((⟨selector, operator, literal⟩ : Test).run s.patterns d).toOption := by
  simp only [answer?, evaluate, test, Traced.result?_bind, Traced.result?_eq_some.mpr found]
  rfl

theorem answer?_quantified_of_target
    (found : (s.target selector env).outcome = .ok (some (.datum d))) (quantifier : Quantifier)
    (binding : Binding) (body : CheckedExpr) :
    s.answer? (.quantified quantifier selector binding body) env =
      binding.frames? d >>= quantify? quantifier fun frame => s.answer? body (env.push frame) := by
  rw [answer?_quantified, Traced.result?_eq_some.mpr found]
  rfl

/-- A frame further out changes nothing for an expression that asks for none of its names. -/
theorem answer?_push_unused {body : CheckedExpr} {outer : Frame}
    (unused : ∀ name ∈ body.heads, outer.lookup name = none) (inner : Frame) :
    s.answer? body ((env.push outer).push inner) = s.answer? body (env.push inner) := by
  refine congrArg Traced.result? (evaluate_congr rfl fun name inside => ?_)
  rw [Env.lookup_push, Env.lookup_push_other (unused name inside), Env.lookup_push]

end Settings

namespace Test

variable (t : Test) (patterns : PatternEngine) (j : Judge)

theorem toOption_compared_judge : (t.compared (.judge j)).toOption = none := by
  have unread (l : CheckedLiteral) : l.for? (.judge j) = none := by
    obtain ⟨raw, - | literal⟩ := l
    · rfl
    · cases literal <;> rfl
  rw [compared, toOption_bind]
  simp only [unread, toOption_error]
  cases t.literal!.toOption <;> rfl

theorem toOption_contained_judge : (t.contained (.judge j)).toOption = none := by
  rw [contained, toOption_bind]
  cases t.literal!.toOption <;> rfl

/-- A judge that is taken for a datum compares with nothing, contains nothing and holds no text. -/
theorem toOption_run_judge : (t.run patterns (.judge j)).toOption = none := by
  unfold run
  cases t.operator with
  | equal | notEqual => simp only [toOption_bind, toOption_compared_judge]; rfl
  | isIn => exact t.toOption_contained_judge j
  | notIn => simp only [toOption_bind, toOption_contained_judge]; rfl
  | isEmpty | isNotEmpty | isMatch | notMatch | less | lessEqual | greater | greaterEqual => rfl

end Test

/-! ## Queries -/

/-- The policy of a query with a substitute for absent data. -/
theorem policy_of_compile {options : Options} {v : Datum} (unknown : options.unknown = some v)
    {known : Option Schema} {typeName : Option String} {source : String} {q : Query}
    (compiled : (Query.compile options known typeName source).outcome = .ok q) :
    q.settings.policy = .substitute v := by
  obtain ⟨policy, hasPolicy, -, -, settings⟩ := of_compile compiled
  rw [settings]
  rw [Options.policy, unknown] at hasPolicy
  cases refuses : options.refuseMissing with
  | true =>
    rw [refuses] at hasPolicy
    cases hasPolicy
  | false =>
    rw [refuses] at hasPolicy
    exact (Except.ok.inj hasPolicy).symm

/-- In a query with a substitute for absent data, a test or a quantifier whose selector leads to nothing
has the answer, or fails, as it does for a name that is bound to the substitute and that its body does
not ask for. A substitute that is a judge is the exception for tests: these fail. -/
theorem unknown_stands_in {options : Options} {v : Datum} (unknown : options.unknown = some v)
    {known : Option Schema} {typeName : Option String} {source : String} {q : Query}
    (compiled : (Query.compile options known typeName source).outcome = .ok q)
    {selector : Selector} {env : Env} (nothing : q.settings.FindsNothing selector env) (x : String) :
    (∀ operator literal, v.kind ≠ .judge →
        q.settings.answer? (.test selector operator literal) env =
          q.settings.answer? (.test ⟨.words, [x]⟩ operator literal) (env.push [(x, v)])) ∧
      (∀ operator literal, v.kind = .judge →
        q.settings.answer? (.test selector operator literal) env = none) ∧
      ∀ quantifier binding body, x ∉ body.heads →
        q.settings.answer? (.quantified quantifier selector binding body) env =
          q.settings.answer? (.quantified quantifier ⟨.words, [x]⟩ binding body)
            (env.push [(x, v)]) := by
  have policy := policy_of_compile unknown compiled
  have here := Settings.outcome_target_of_findsNothing policy nothing
  have there (other : v.kind ≠ .judge) :
      (q.settings.target ⟨.words, [x]⟩ (env.push [(x, v)])).outcome = .ok (some (.datum v)) :=
    Settings.outcome_target_name policy other
  refine ⟨fun operator literal other => ?_, fun operator literal judge => ?_,
    fun quantifier binding body unused => ?_⟩
  · rw [Settings.answer?_test_of_target here, Settings.answer?_test_of_target (there other)]
    exact Test.toOption_run_select ⟨⟨.words, [x]⟩, operator, literal⟩ selector v
  · rw [Settings.answer?_test_of_target here]
    cases v with
    | judge j => exact Test.toOption_run_judge _ _ j
    | _ => cases judge
  · rw [Settings.answer?_quantified_of_target here]
    obtain ⟨j, rfl⟩ | other := v.judge_or_other
    · -- Neither what takes the place of a collection nor what its name is bound to is one.
      rw [Settings.answer?_quantified, Traced.result?, Settings.target, Settings.resolve_name]
      rfl
    · have apart : ∀ name ∈ body.heads, [(x, v)].lookup name = none := by
        intro name inside
        rw [lookup_cons_if, if_neg (ne_of_mem_of_not_mem inside unused)]
        rfl
      rw [Settings.answer?_quantified_of_target (there other)]
      simp only [Settings.answer?_push_unused apart]

/-- Nothing is in it. -/
def Env.sampleBare : Env := ⟨.map [("a", .map [])], []⟩

/-- The list that stands in is looked through by a quantifier and by a test. -/
theorem unknown_stands_in_list :
    ∃ q, (Query.compile { Options.standard with unknown := some (.list [.int 2, .int 1]) } none none
        "any a.b as y \x7b y == 1 \x7d and 2 in a.b").outcome = .ok q ∧
      (q.evaluateIn Env.sampleBare).outcome = .ok true ∧
      q.settings.answer? (.quantified .any ⟨.words, ["a", "b"]⟩ (.each "y")
          (.test ⟨.words, ["y"]⟩ .equal (some ⟨"1", none⟩))) Env.sampleBare =
        q.settings.answer? (.quantified .any ⟨.words, ["x"]⟩ (.each "y")
          (.test ⟨.words, ["y"]⟩ .equal (some ⟨"1", none⟩)))
          (Env.sampleBare.push [("x", .list [.int 2, .int 1])]) ∧
      q.settings.answer? (.test ⟨.words, ["a", "b"]⟩ .isIn (some ⟨"2", none⟩)) Env.sampleBare =
        q.settings.answer? (.test ⟨.words, ["x"]⟩ .isIn (some ⟨"2", none⟩))
          (Env.sampleBare.push [("x", .list [.int 2, .int 1])]) := by
  obtain ⟨q, compiled, answers, nothing⟩ : ∃ q,
      (Query.compile { Options.standard with unknown := some (.list [.int 2, .int 1]) } none none
        "any a.b as y \x7b y == 1 \x7d and 2 in a.b").outcome = .ok q ∧
        (q.evaluateIn Env.sampleBare).outcome = .ok true ∧
        q.settings.FindsNothing ⟨.words, ["a", "b"]⟩ Env.sampleBare :=
    ⟨_, by cbv, by decide +kernel, .inr ⟨_, rfl, .key "b"⟩⟩
  obtain ⟨tests, -, quantifiers⟩ := unknown_stands_in rfl compiled nothing "x"
  exact ⟨q, compiled, answers, quantifiers .any (.each "y") _ (by decide),
    tests .isIn _ (by decide)⟩

/-- A judge to which everything is true decides under a name, but not in the place of what is not
found. -/
theorem judge_does_not_stand_in :
    ∃ q, (Query.compile { Options.standard with unknown := some (.judge .always) } none none
        "a == 1").outcome = .ok q ∧
      q.checked = .test ⟨.words, ["a"]⟩ .equal (some ⟨"1", none⟩) ∧
      q.settings.FindsNothing ⟨.words, ["a"]⟩ ⟨.map [], []⟩ ∧
      (q.settings.evaluate q.checked ⟨.map [], []⟩).outcome =
        .error (.notComparable ⟨.words, ["a"]⟩ .judge) ∧
      (q.settings.evaluate (.test ⟨.words, ["x"]⟩ .equal (some ⟨"1", none⟩))
        ⟨.map [], [[("x", .judge .always)]]⟩).outcome = .ok true := by
  exact ⟨_, by cbv, rfl, .inr ⟨_, rfl, .key "a"⟩, rfl, rfl⟩

end Sift
