import Sift.Proofs.Checking.Literals
import Sift.Proofs.Typing.Levels

/-!
# What a check fails with

A test is refused for its form, for its selector, for its operator or for its literal, and these
inversions say when. What the errors of all tests of an expression have in common, the error of the
whole check has, too (`failsWith_checkedIn`), if the errors about selectors have it: they are the only
other ones, as long as tests are not counted.
-/

namespace Sift

variable {patterns : PatternEngine} {limits : Limits} {selector : Selector} {operator : Operator}
  {error : CheckError}

/-! ## Tests -/

/-- A test of the wrong form has a literal that is too long, or none where there should be one. -/
theorem of_checkForm_error {literal : Option String}
    (fails : checkForm limits selector operator literal = .error error) :
    error = .literalTooLong selector limits.maxLiteralLength ∨
      error = .missingLiteral operator ∧ operator.takesLiteral = true ∧ literal = none := by
  have missing (fails : (if operator.takesLiteral = true ∧ literal = none then
      throw (.missingLiteral operator) else pure () : Except CheckError Unit) = .error error) :
      error = .missingLiteral operator ∧ operator.takesLiteral = true ∧ literal = none := by
    split at fails
    next absent =>
      cases fails
      exact ⟨rfl, absent⟩
    next => cases fails
  cases literal with
  | none => exact .inr (missing fails)
  | some raw =>
    simp only [checkForm] at fails
    split at fails
    · cases fails
      exact .inl rfl
    · exact .inr (missing fails)

/-- A literal that is tried may be no pattern, or nothing that patterns are for. -/
theorem of_tried_error {l : CheckedLiteral}
    (fails : l.tried patterns selector operator = .error error) :
    (∃ pattern, error = .badPattern pattern selector) ∨
      error = .patternOfOtherType selector ∧ operator.takesPattern = true ∧
        ∃ literal, l.converted = some literal ∧ ∀ s, literal ≠ .string s := by
  unfold CheckedLiteral.tried at fails
  split at fails
  next takesPattern =>
    split at fails
    · split at fails <;> cases fails
      exact .inl ⟨_, rfl⟩
    · split at fails <;> cases fails
      exact .inl ⟨_, rfl⟩
    next literal other known =>
      cases fails
      exact .inr ⟨rfl, takesPattern, literal, known, other⟩
  next => cases fails

/-- A literal is refused because its type does not read it, because it is no pattern, or because
patterns are not what its type reads. -/
theorem of_checkLiteral_error {field : Field} {raw : String}
    (fails : checkLiteral patterns field selector operator raw = .error error) :
    (∃ cause, error = .badLiteral raw selector cause) ∨
      (∃ pattern, error = .badPattern pattern selector) ∨
      error = .patternOfOtherType selector ∧ operator.takesPattern = true ∧
        ∃ type literal, field.literalType = some type ∧ type.read raw = .ok literal ∧
          ∀ s, literal ≠ .string s := by
  rw [checkLiteral_eq] at fails
  cases known : field.literalType with
  | none =>
    simp only [known, pure_bind] at fails
    rcases of_tried_error fails with pattern | ⟨-, -, literal, converted, -⟩
    · exact .inr (.inl pattern)
    · cases converted
  | some type =>
    simp only [known] at fails
    cases read : type.read raw with
    | error cause =>
      rw [read] at fails
      cases fails
      exact .inl ⟨cause, rfl⟩
    | ok literal =>
      simp only [read, pure_bind] at fails
      rcases of_tried_error fails with pattern | ⟨same, takesPattern, literal', converted, other⟩
      · exact .inr (.inl pattern)
      · cases converted
        exact .inr (.inr ⟨same, takesPattern, type, literal, rfl, read, other⟩)

/-! ## Expressions -/

/-- Whether the error is about where a selector leads and what may be done there. -/
def CheckError.isOfSelector : CheckError → Bool
  | invalidSelector _ | unsupportedOperator .. | notCollection .. => true
  | _ => false

section

variable {P : CheckError → Prop} (selectors : ∀ error, error.isOfSelector = true → P error)
include selectors

theorem failsWith_route (schema : Schema) (scope : Scope) (selector : Selector) :
    FailsWith P (schema.route scope selector) := by
  unfold Schema.route
  split
  · exact .error (selectors _ rfl)
  · split
    · exact .error (selectors _ rfl)
    · split
      · exact .error (selectors _ rfl)
      · exact .ok _

variable {good : Field → Prop}
  (literals : ∀ field, good field → ∀ selector operator raw, field.supports operator = true →
    FailsWith P (checkLiteral patterns field selector operator raw))
  (closed : Field.Hereditary good)
include literals closed

theorem failsWith_checkTest {schema : Schema} (level : ∀ entry ∈ schema, good entry.2)
    {scope : Scope} (known : ∀ entry ∈ scope, good entry.2) (selector : Selector)
    (operator : Operator) (literal : Option String) :
    FailsWith P (schema.checkTest patterns scope selector operator literal).outcome := by
  refine Traced.failsWith_bind (failsWith_route selectors schema scope selector) ?_
  intro route routed
  split
  · exact .error (selectors _ rfl)
  next supported =>
    refine Traced.failsWith_bind ?_ fun checked _ => ?_
    · cases literal with
      | none => exact .ok _
      | some raw =>
        have here := good_of_route closed level known routed
        exact (literals _ here selector operator raw (by simpa using supported)).bind fun _ _ => .ok _
    · split <;> exact .ok _

/-- What the errors of all literals and of the form of all tests have in common, with those about
selectors. -/
theorem failsWith_checkedIn {limits : Limits} {schema : Option Schema}
    (level : ∀ level ∈ schema, ∀ entry ∈ level, good entry.2) {scope : Scope}
    (known : ∀ entry ∈ scope, good entry.2) {e : Expr String}
    (forms : e.EveryTest fun operator literal =>
      ∀ selector, FailsWith P (checkForm limits selector operator literal)) :
    FailsWith P (checkedIn patterns limits schema scope e).outcome := by
  induction e generalizing scope with
  | test selector operator literal =>
    cases schema with
    | none =>
      rw [checkedIn_test_none]
      exact Traced.failsWith_bind (forms selector) fun _ _ => .ok _
    | some schema =>
      rw [checkedIn_test]
      refine Traced.failsWith_bind (forms selector) fun _ _ => ?_
      exact failsWith_checkTest selectors literals closed (level schema rfl) known selector operator
        literal
  | not operand ih =>
    rw [checkedIn_not, map_eq_pure_bind]
    exact Traced.failsWith_bind (ih known forms) fun _ _ => .ok _
  | and left right ihLeft ihRight =>
    rw [checkedIn_and]
    refine Traced.failsWith_bind (ihLeft known forms.1) fun _ _ => ?_
    exact Traced.failsWith_bind (ihRight known forms.2) fun _ _ => .ok _
  | or left right ihLeft ihRight =>
    rw [checkedIn_or]
    refine Traced.failsWith_bind (ihLeft known forms.1) fun _ _ => ?_
    exact Traced.failsWith_bind (ihRight known forms.2) fun _ _ => .ok _
  | quantified quantifier selector binding body ih =>
    cases schema with
    | none =>
      rw [checkedIn_quantified_none, map_eq_pure_bind]
      exact Traced.failsWith_bind (ih known forms) fun _ _ => .ok _
    | some schema =>
      rw [checkedIn_quantified]
      refine Traced.failsWith_bind (failsWith_route selectors schema scope selector) ?_
      intro route routed
      split
      · exact .error (selectors _ rfl)
      · have here := good_of_route closed (level schema rfl) known routed
        have inner := List.forall_mem_append.mpr ⟨good_of_binding closed here binding, known⟩
        exact Traced.failsWith_bind (ih inner forms) fun _ _ => .ok _

end

end Sift
