import Sift.Proofs.Flattening

/-!
# Literals of a checked expression

Whatever the schema, or without one, the check leaves no test without the literal that its operator
takes, and converts a literal from its own text only. `Expr.EveryTest` states something of all tests
of an expression; the quantifiers over lists that are passed through change nothing about it.
-/

namespace Sift

/-- Every test of an expression has a property. -/
def Expr.EveryTest {ν : Type} (P : Operator → Option ν → Prop) : Expr ν → Prop
  | test _ operator literal => P operator literal
  | not operand => operand.EveryTest P
  | and left right => left.EveryTest P ∧ right.EveryTest P
  | or left right => left.EveryTest P ∧ right.EveryTest P
  | quantified _ _ _ body => body.EveryTest P

theorem Expr.EveryTest.imp {ν : Type} {P Q : Operator → Option ν → Prop} {e : Expr ν}
    (every : e.EveryTest P) (weaker : ∀ operator literal, P operator literal → Q operator literal) :
    e.EveryTest Q := by
  induction e with
  | test _ operator literal => exact weaker operator literal every
  | not _ ih | quantified _ _ _ _ ih => exact ih every
  | and _ _ ihLeft ihRight | or _ _ ihLeft ihRight => exact ⟨ihLeft every.1, ihRight every.2⟩

theorem Expr.EveryTest.of_forall {ν : Type} {P : Operator → Option ν → Prop} {e : Expr ν}
    (all : ∀ operator literal, P operator literal) : e.EveryTest P := by
  induction e with
  | test _ operator literal => exact all operator literal
  | not _ ih | quantified _ _ _ _ ih => exact ih
  | and _ _ ihLeft ihRight | or _ _ ihLeft ihRight => exact ⟨ihLeft, ihRight⟩

theorem everyTest_passThrough {ν : Type} {P : Operator → Option ν → Prop} {form : SelectorForm}
    {node : Selector → Expr ν} (nodes : ∀ selector, (node selector).EveryTest P)
    (first : List String) (others : List (List String)) :
    (passThrough form node first others).EveryTest P := by
  induction others generalizing first with
  | nil => exact nodes ⟨form, first⟩
  | cons next others ih => exact ih (passedName :: next)

/-- A literal is there if the operator takes one, and it was converted from its own text, if at
all. -/
structure SoundLiteral (operator : Operator) (literal : Option CheckedLiteral) : Prop where
  there : operator.takesLiteral = true → literal.isSome = true
  faithful (l : CheckedLiteral) : literal = some l → l.Faithful

section

variable {patterns : PatternEngine} {limits : Limits} {known : Option Schema} {scope : Scope}
  {checked : CheckedExpr}

/-- A test of the right form has the literal that its operator takes. -/
theorem there_of_checkForm {selector : Selector} {operator : Operator} {literal : Option String}
    (formed : checkForm limits selector operator literal = .ok ())
    (takes : operator.takesLiteral = true) : literal.isSome = true := by
  cases literal with
  | some raw => rfl
  | none =>
    simp only [checkForm, takes, and_self, if_true] at formed
    cases formed

/-- A literal as it was written is one that has not been converted. -/
theorem soundLiteral_asRead {operator : Operator} {literal : Option String}
    (there : operator.takesLiteral = true → literal.isSome = true) :
    SoundLiteral operator (literal.map fun raw => ⟨raw, none⟩) where
  there takes := by rw [Option.isSome_map, there takes]
  faithful l same := by
    obtain ⟨raw, -, rfl⟩ := Option.map_eq_some_iff.mp same
    exact nofun

theorem soundLiteral_of_mapM {field : Field} {selector : Selector} {operator : Operator}
    {literal : Option String} {checkedLiteral : Option CheckedLiteral}
    (there : operator.takesLiteral = true → literal.isSome = true)
    (checks : literal.mapM (checkLiteral patterns field selector operator) = .ok checkedLiteral) :
    SoundLiteral operator checkedLiteral := by
  rcases of_mapM_checkLiteral checks with ⟨rfl, rfl⟩ | ⟨raw, l, rfl, rfl, one⟩
  · exact ⟨there, nofun⟩
  · refine ⟨fun _ => rfl, ?_⟩
    rintro l' same
    cases same
    exact faithful_of_checkLiteral one

/-- What the check makes sure of in one test, it makes sure of in all tests of an expression. -/
theorem everyTest_of_checkedIn {P : Operator → Option CheckedLiteral → Prop}
    (asRead : known = none → ∀ selector operator literal,
      checkForm limits selector operator literal = .ok () →
      P operator (literal.map fun raw => ⟨raw, none⟩))
    (converted : ∀ field selector operator literal checkedLiteral,
      checkForm limits selector operator literal = .ok () →
      literal.mapM (checkLiteral patterns field selector operator) = .ok checkedLiteral →
      P operator checkedLiteral)
    {e : Expr String} (checks : (checkedIn patterns limits known scope e).outcome = .ok checked) :
    checked.EveryTest P := by
  induction e generalizing scope checked with
  | test selector operator literal =>
    have formed := form_of_checkedIn checks
    cases known with
    | none =>
      cases of_checkedIn_none checks
      exact asRead rfl selector operator literal formed
    | some schema =>
      obtain ⟨route, checkedLiteral, -, -, literals, rfl⟩ :=
        of_checkTest (of_checkedIn_test checks)
      refine everyTest_passThrough (fun _ => ?_) route.first route.others
      exact converted _ selector operator literal checkedLiteral formed literals
  | not operand ih =>
    obtain ⟨inner, innerChecks, rfl⟩ := of_checkedIn_not checks
    have all := ih innerChecks
    exact all
  | and left right ihLeft ihRight =>
    obtain ⟨left', right', leftChecks, rightChecks, rfl⟩ := of_checkedIn_and checks
    exact ⟨ihLeft leftChecks, ihRight rightChecks⟩
  | or left right ihLeft ihRight =>
    obtain ⟨left', right', leftChecks, rightChecks, rfl⟩ := of_checkedIn_or checks
    exact ⟨ihLeft leftChecks, ihRight rightChecks⟩
  | quantified quantifier selector binding body ih =>
    cases known with
    | none =>
      obtain ⟨inner, innerChecks, rfl⟩ := of_checkedIn_quantified_none checks
      have all := ih innerChecks
      exact all
    | some schema =>
      obtain ⟨route, inner, -, -, innerChecks, rfl⟩ := of_checkedIn_quantified checks
      have all := ih innerChecks
      refine everyTest_passThrough (fun _ => ?_) route.first route.others
      exact all

/-- The literals of a checked expression are sound. -/
theorem soundLiterals_of_checkedIn {e : Expr String}
    (checks : (checkedIn patterns limits known scope e).outcome = .ok checked) :
    checked.EveryTest SoundLiteral :=
  everyTest_of_checkedIn (fun _ _ _ _ formed => soundLiteral_asRead (there_of_checkForm formed))
    (fun _ _ _ _ _ formed literals => soundLiteral_of_mapM (there_of_checkForm formed) literals)
    checks

theorem soundLiterals_of_check {e : Expr String} {tests : Nat}
    (checks : (check patterns limits known e).outcome = .ok (checked, tests)) :
    checked.EveryTest SoundLiteral :=
  soundLiterals_of_checkedIn (of_check checks).1

/-- A pattern is one that can be read. -/
def ReadablePattern (patterns : PatternEngine) (operator : Operator)
    (literal : Option CheckedLiteral) : Prop :=
  operator.takesPattern = true → ∀ l ∈ literal, (l.pattern? patterns).isSome = true

/-- Under a schema the patterns of an expression have been tried. -/
theorem readablePatterns_of_check {schema : Schema} (filled : schema ≠ []) {e : Expr String}
    {tests : Nat} (checks : (check patterns limits (some schema) e).outcome = .ok (checked, tests)) :
    checked.EveryTest (ReadablePattern patterns) := by
  refine everyTest_of_checkedIn ?_ ?_ (of_check_filled filled checks)
  · nofun
  · intro field selector operator literal checkedLiteral _ literals takesPattern l inside
    rcases of_mapM_checkLiteral literals with ⟨-, rfl⟩ | ⟨raw, l', -, rfl, one⟩
    · cases inside
    · cases inside
      exact (of_checkLiteral one).2.2.2 takesPattern

end

end Sift
