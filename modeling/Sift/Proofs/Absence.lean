import Mathlib
import Sift.Proofs.Checking
import Sift.Query.Standard

/-!
# Queries that never miss anything

The policy for absent data is asked only where a selector leads to nothing. A query that refuses
absent data fails there, so if it has an answer, all that it looked for was there and no policy was
asked: the same text compiled under any other policy gives the same answer, and shows the same data
to the hook (`answer_without_refusal`).
-/

namespace Sift

/-! ## Outcomes that depend on a refusal -/

namespace Traced

variable {ν ε α β : Type}

/-- Where the strict outcome is a success, the lax one is that success with the same notes. -/
def Upholds (lax strict : Traced ν ε α) : Prop := ∀ a, strict.outcome = .ok a → lax = strict

theorem Upholds.refl (x : Traced ν ε α) : x.Upholds x := fun _ _ => rfl

theorem Upholds.bind {lax strict : Traced ν ε α} {laxNext strictNext : α → Traced ν ε β}
    (first : lax.Upholds strict) (onwards : ∀ a, (laxNext a).Upholds (strictNext a)) :
    (lax >>= laxNext).Upholds (strict >>= strictNext) := by
  intro b succeeds
  rw [outcome_bind] at succeeds
  obtain ⟨a, reached, behind⟩ := bind_eq_ok.mp succeeds
  rw [first a reached]
  refine bind_congr_of_ok fun a' reached' => ?_
  cases reached.symm.trans reached'
  exact onwards a b behind

end Traced

/-! ## Evaluation -/

namespace Settings

/-- The settings under which nothing may be absent. -/
def refusing (s : Settings) : Settings := { s with policy := .refuse }

variable (s : Settings)

/-- A selector that leads to something leads there under every policy. -/
theorem target_upholds (selector : Selector) (env : Env) :
    (s.target selector env).Upholds (s.refusing.target selector env) := by
  intro found targeted
  have same : s.refusing.resolve selector env = s.resolve selector env := rfl
  unfold target at targeted ⊢
  rw [same] at targeted ⊢
  dsimp only at targeted ⊢
  split at targeted
  next => cases targeted
  next => rfl
  next error failed =>
    split at targeted
    next => cases targeted
    next => cases targeted
  next => cases targeted

theorem quantify_upholds (quantifier : Quantifier)
    {lax strict : Frame → Traced Datum EvalError Bool}
    (visits : ∀ frame, (lax frame).Upholds (strict frame)) (frames : List Frame) :
    (quantify quantifier lax frames).Upholds (quantify quantifier strict frames) := by
  induction frames with
  | nil => exact .refl _
  | cons frame rest ih =>
    refine (visits frame).bind fun answer => ?_
    split
    · exact ih
    · exact .refl _

/-- An answer that is reached without anything being absent is reached under every policy. -/
theorem evaluate_upholds (e : CheckedExpr) (env : Env) :
    (s.evaluate e env).Upholds (s.refusing.evaluate e env) := by
  induction e generalizing env with
  | test selector operator literal =>
    exact (s.target_upholds selector env).bind fun _ => .refl _
  | not operand ih => exact (ih env).bind fun _ => .refl _
  | and left right ihLeft ihRight =>
    refine (ihLeft env).bind fun answer => ?_
    cases answer with
    | true => exact ihRight env
    | false => exact .refl _
  | or left right ihLeft ihRight =>
    refine (ihLeft env).bind fun answer => ?_
    cases answer with
    | true => exact .refl _
    | false => exact ihRight env
  | quantified quantifier selector binding body ih =>
    refine (s.target_upholds selector env).bind fun found => ?_
    rcases found with - | (d | _)
    · exact .refl _
    · dsimp only
      cases binding.frames? d with
      | none => exact .refl _
      | some frames => exact quantify_upholds quantifier (fun frame => ih (env.push frame)) frames
    · exact .refl _

end Settings

/-! ## Compiled queries -/

/-- A text that compiles with absent data refused compiles with any other policy, to the same
expression; and wherever the first query has an answer, the second one has it, too, having shown the
same data to the hook. -/
theorem answer_without_refusal {options : Options} {schema : Option Schema}
    {typeName : Option String} {source : String} {strict : Query}
    (compiled : (Query.compile { options with unknown := none, refuseMissing := true } schema
      typeName source).outcome = .ok strict) (unknown : Option Datum) :
    ∃ q, (Query.compile { options with unknown := unknown, refuseMissing := false } schema typeName
        source).outcome = .ok q ∧ q.parsed = strict.parsed ∧ q.checked = strict.checked ∧
      ∀ env b, (strict.evaluateIn env).outcome = .ok b →
        q.evaluateIn env = strict.evaluateIn env := by
  obtain ⟨policy, parsed, checked, tests, refuses, read, checks, rfl⟩ := compile_eq_ok.mp compiled
  cases refuses
  obtain ⟨lax, chosen⟩ : ∃ lax,
      Options.policy { options with unknown := unknown, refuseMissing := false } = .ok lax := by
    cases unknown with
    | none => exact ⟨.byOperator, rfl⟩
    | some datum => exact ⟨.substitute datum, rfl⟩
  refine ⟨_, compile_eq_ok.mpr ⟨lax, parsed, checked, tests, chosen, read, checks, rfl⟩, rfl, rfl,
    ?_⟩
  intro env b answers
  exact Settings.evaluate_upholds ⟨options.patterns, options.tag, options.hook, lax⟩ checked env b
    answers

/-- Nothing is found at `b`, but it is not looked for. -/
theorem answer_without_refusal_or :
    ∃ strict q, (Query.compile { Options.standard with refuseMissing := true } none none
        "a == 1 or b == 2").outcome = .ok strict ∧
      (Query.compile { Options.standard with unknown := some (.int 2) } none none
        "a == 1 or b == 2").outcome = .ok q ∧
      (strict.evaluateIn ⟨.map [("a", .int 1)], []⟩).outcome = .ok true ∧
      q.evaluateIn ⟨.map [("a", .int 1)], []⟩ = strict.evaluateIn ⟨.map [("a", .int 1)], []⟩ := by
  obtain ⟨strict, compiled, answer⟩ : ∃ strict,
      (Query.compile { Options.standard with refuseMissing := true } none none
          "a == 1 or b == 2").outcome = .ok strict ∧
        (strict.evaluateIn ⟨.map [("a", .int 1)], []⟩).outcome = .ok true :=
    ⟨_, by cbv, rfl⟩
  obtain ⟨q, compiled', -, -, same⟩ :=
    @answer_without_refusal .standard none none _ strict compiled (some (.int 2))
  exact ⟨strict, q, compiled, compiled', answer, same _ true answer⟩

end Sift
