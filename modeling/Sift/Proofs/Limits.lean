import Mathlib
import Sift.Proofs.Checking.Errors
import Sift.Proofs.Grammar.Counting

/-!
# Limits

Limits only ever refuse. A limited query compiles if and only if the unlimited one does, the
expression that was read has no more tests than one limit allows, and none of its literals is longer
than the other; then the two queries are the same but for the limits (`compile_limited`). The tests
are counted twice, by the reader whenever it begins one and by the check as it comes to one, and both
counts are the number of tests of the tree, so the second one never refuses anything. Lists that are
passed through wrap quantifiers around a test and add none.
-/

namespace Sift

/-! ## Literals -/

/-- A literal, if there is one, is no longer than a limit, zero meaning none. -/
def LiteralFits (limit : Nat) (literal : Option String) : Prop :=
  limit = 0 ∨ ∀ raw ∈ literal, raw.utf8ByteSize ≤ limit

section

variable {patterns : PatternEngine} {limits : Limits} {known : Option Schema} {scope : Scope}
  {checked : CheckedExpr}

/-- The length of a literal that fits is not what a test fails on. -/
theorem checkForm_of_literalFits {literal : Option String}
    (fits : LiteralFits limits.maxLiteralLength literal) (selector : Selector)
    (operator : Operator) :
    checkForm limits selector operator literal = checkForm {} selector operator literal := by
  cases literal with
  | none => rfl
  | some raw =>
    have short : ¬(0 < limits.maxLiteralLength ∧ limits.maxLiteralLength < raw.utf8ByteSize) := by
      rintro ⟨limited, long⟩
      rcases fits with none | short
      · omega
      · exact absurd (short raw rfl) (Nat.not_le.mpr long)
    have unlimited : ¬(0 < 0 ∧ 0 < raw.utf8ByteSize) := fun both => Nat.lt_irrefl 0 both.1
    simp only [checkForm, if_neg short, if_neg unlimited]

theorem literalFits_of_checkForm {selector : Selector} {operator : Operator}
    {literal : Option String} (formed : checkForm limits selector operator literal = .ok ()) :
    LiteralFits limits.maxLiteralLength literal := by
  cases literal with
  | none => exact .inr nofun
  | some raw =>
    by_cases long : 0 < limits.maxLiteralLength ∧ limits.maxLiteralLength < raw.utf8ByteSize
    · simp only [checkForm, if_pos long] at formed
      cases formed
    · by_cases none : limits.maxLiteralLength = 0
      · exact .inl none
      · refine .inr fun raw' same => ?_
        cases same
        omega

/-- Where all literals fit, the limit changes nothing about the check, its count, notes and errors
included. -/
theorem checkIn_of_literalsFit {e : Expr String}
    (fit : e.EveryTest fun _ literal => LiteralFits limits.maxLiteralLength literal) (tests : Nat) :
    checkIn patterns limits known scope e tests = checkIn patterns {} known scope e tests := by
  induction e generalizing scope known tests with
  | test selector operator literal =>
    simp only [checkIn, checkForm_of_literalFits fit]
  | not operand ih =>
    simp only [checkIn, ih fit]
  | and left right ihLeft ihRight =>
    simp only [checkIn, ihLeft fit.1, ihRight fit.2]
  | or left right ihLeft ihRight =>
    simp only [checkIn, ihLeft fit.1, ihRight fit.2]
  | quantified quantifier selector binding body ih =>
    cases known with
    | none => simp only [checkIn, ih fit]
    | some schema => simp only [checkIn, ih fit]

theorem checkedIn_of_literalsFit {e : Expr String}
    (fit : e.EveryTest fun _ literal => LiteralFits limits.maxLiteralLength literal) :
    checkedIn patterns limits known scope e = checkedIn patterns {} known scope e := by
  rw [checkedIn, checkedIn, checkIn_of_literalsFit fit]

/-- The literals of an expression that checks fit. -/
theorem literalsFit_of_checkedIn {e : Expr String}
    (checks : (checkedIn patterns limits known scope e).outcome = .ok checked) :
    e.EveryTest fun _ literal => LiteralFits limits.maxLiteralLength literal := by
  induction e generalizing scope checked with
  | test selector operator literal => exact literalFits_of_checkForm (form_of_checkedIn checks)
  | not operand ih =>
    obtain ⟨inner, innerChecks, -⟩ := of_checkedIn_not checks
    exact ih innerChecks
  | and left right ihLeft ihRight =>
    obtain ⟨left', right', leftChecks, rightChecks, -⟩ := of_checkedIn_and checks
    exact ⟨ihLeft leftChecks, ihRight rightChecks⟩
  | or left right ihLeft ihRight =>
    obtain ⟨left', right', leftChecks, rightChecks, -⟩ := of_checkedIn_or checks
    exact ⟨ihLeft leftChecks, ihRight rightChecks⟩
  | quantified quantifier selector binding body ih =>
    obtain ⟨scope', inner, innerChecks⟩ := of_checkedIn_body checks
    exact ih innerChecks

/-! ## The number of tests -/

theorem testCount_passThrough {ν : Type} {form : SelectorForm} {node : Selector → Expr ν}
    {count : Nat} (nodes : ∀ selector, (node selector).testCount = count) (first : List String)
    (others : List (List String)) : (passThrough form node first others).testCount = count := by
  induction others generalizing first with
  | nil => exact nodes ⟨form, first⟩
  | cons next others ih => exact ih (passedName :: next)

theorem testCount_asRead (e : Expr String) : e.asRead.testCount = e.testCount := by
  induction e with
  | test => rfl
  | not operand ih => exact ih
  | and left right ihLeft ihRight => exact congrArg₂ (· + ·) ihLeft ihRight
  | or left right ihLeft ihRight => exact congrArg₂ (· + ·) ihLeft ihRight
  | quantified quantifier selector binding body ih => exact ih

/-- Checking keeps the number of tests. -/
theorem testCount_of_checkedIn {e : Expr String}
    (checks : (checkedIn patterns limits known scope e).outcome = .ok checked) :
    checked.testCount = e.testCount := by
  cases known with
  | none => rw [of_checkedIn_none checks, testCount_asRead]
  | some schema =>
    induction e generalizing scope checked with
    | test selector operator literal =>
      obtain ⟨route, checkedLiteral, -, -, -, rfl⟩ := of_checkTest (of_checkedIn_test checks)
      refine testCount_passThrough (fun _ => ?_) route.first route.others
      rfl
    | not operand ih =>
      obtain ⟨inner, innerChecks, rfl⟩ := of_checkedIn_not checks
      have same := ih innerChecks
      exact same
    | and left right ihLeft ihRight =>
      obtain ⟨left', right', leftChecks, rightChecks, rfl⟩ := of_checkedIn_and checks
      exact congrArg₂ (· + ·) (ihLeft leftChecks) (ihRight rightChecks)
    | or left right ihLeft ihRight =>
      obtain ⟨left', right', leftChecks, rightChecks, rfl⟩ := of_checkedIn_or checks
      exact congrArg₂ (· + ·) (ihLeft leftChecks) (ihRight rightChecks)
    | quantified quantifier selector binding body ih =>
      obtain ⟨route, inner, -, -, innerChecks, rfl⟩ := of_checkedIn_quantified checks
      have same := ih innerChecks
      refine testCount_passThrough (fun _ => ?_) route.first route.others
      exact same

end

/-- Whether the error is about the number of tests. -/
def CheckError.isCount : CheckError → Bool
  | tooManyTests .. => true
  | _ => false

/-- The number of tests is not what an outcome fails on. -/
def Uncounted {α : Type} (outcome : Except CheckError α) : Prop :=
  ∀ error, outcome = .error error → error.isCount = false

/-- Inside an expression no test is counted. -/
theorem uncounted_checkedIn (patterns : PatternEngine) (limits : Limits) (known : Option Schema)
    (scope : Scope) (e : Expr String) :
    Uncounted (checkedIn patterns limits known scope e).outcome := by
  have selectors (error : CheckError) (here : error.isOfSelector = true) :
      error.isCount = false := by
    cases error <;> first | rfl | cases here
  refine failsWith_checkedIn selectors ?_ .trivial (fun _ _ _ _ => trivial) (fun _ _ => trivial)
    (.of_forall fun operator literal selector error fails => ?_)
  · intro field _ selector operator raw _ error fails
    rcases of_checkLiteral_error fails with ⟨_, rfl⟩ | ⟨_, rfl⟩ | ⟨rfl, -⟩ <;> rfl
  · rcases of_checkForm_error fails with rfl | ⟨rfl, -⟩ <;> rfl

/-! ## Queries -/

section

variable {patterns : PatternEngine} {limits : Limits} {known : Option Schema} {e : Expr String}

/-- With no more tests than allowed, the whole check gives what comes of the expression, and the
number of its tests. -/
theorem outcome_check (few : limits.maxTests = 0 ∨ e.testCount ≤ limits.maxTests) :
    (check patterns limits known e).outcome =
      (checkedIn patterns limits (known.filter fun schema => !schema.isEmpty) [] e).outcome.map
        (·, e.testCount) := by
  have fine : ¬(0 < limits.maxTests ∧ limits.maxTests < e.testCount) := by omega
  rw [check_eq, Traced.outcome_bind]
  cases (checkedIn patterns limits (known.filter fun schema => !schema.isEmpty) [] e).outcome with
  | error => rfl
  | ok checked =>
    rw [ok_bind, if_neg fine]
    rfl

theorem check_eq_ok (few : limits.maxTests = 0 ∨ e.testCount ≤ limits.maxTests)
    {checked : CheckedExpr} {tests : Nat} :
    (check patterns limits known e).outcome = .ok (checked, tests) ↔
      (checkedIn patterns limits (known.filter fun schema => !schema.isEmpty) [] e).outcome =
        .ok checked ∧ tests = e.testCount := by
  refine ⟨of_check, ?_⟩
  rintro ⟨checks, rfl⟩
  rw [outcome_check few, checks]
  rfl

/-- The check under limits, of an expression that has no more tests than allowed, is the check
without limits where the literals fit, and refuses it where they do not. -/
theorem check_limited (few : limits.maxTests = 0 ∨ e.testCount ≤ limits.maxTests)
    {checked : CheckedExpr} {tests : Nat} :
    (check patterns limits known e).outcome = .ok (checked, tests) ↔
      (check patterns {} known e).outcome = .ok (checked, tests) ∧
        e.EveryTest fun _ literal => LiteralFits limits.maxLiteralLength literal := by
  rw [check_eq_ok few, check_eq_ok (.inl rfl)]
  constructor
  · rintro ⟨checks, counted⟩
    have fit := literalsFit_of_checkedIn checks
    exact ⟨⟨checkedIn_of_literalsFit fit ▸ checks, counted⟩, fit⟩
  · rintro ⟨⟨checks, counted⟩, fit⟩
    exact ⟨checkedIn_of_literalsFit fit ▸ checks, counted⟩

/-- Where the check is what fails, the text has been read. -/
theorem of_compile_check_error {options : Options} {typeName : Option String} {source : String}
    {error : CheckError}
    (failed : (Query.compile options known typeName source).outcome = .error (.check error)) :
    ∃ parsed, Expr.read options.limits.maxTests source = .ok parsed ∧
      (check options.patterns options.limits known parsed).outcome = .error error := by
  simp only [Query.compile, Traced.outcome_bind, Traced.outcome_mapError, Traced.outcome_ofExcept,
    outcome_readNoted] at failed
  cases chosen : options.policy with
  | error conflict =>
    rw [chosen] at failed
    cases failed
    unfold Options.policy at chosen
    split at chosen <;> cases chosen
  | ok policy =>
    cases read : Expr.read options.limits.maxTests source with
    | error fault =>
      rw [chosen, read] at failed
      cases failed
    | ok parsed =>
      refine ⟨parsed, rfl, ?_⟩
      cases checks : (check options.patterns options.limits known parsed).outcome with
      | ok checked =>
        simp only [chosen, read, ok_bind, mapError_ok, Traced.outcome_note, Traced.outcome_pure,
          checks] at failed
        cases failed
      | error cause =>
        simp only [chosen, read, ok_bind, mapError_ok, mapError_error, error_bind,
          Traced.outcome_note, Traced.outcome_pure, checks] at failed
        cases failed
        rfl

/-- A query has as many tests as the reader has met, as the check has counted, and as the trees of
both have. -/
theorem counted_of_compile {options : Options} {typeName : Option String} {source : String}
    {q : Query} (compiled : (Query.compile options known typeName source).outcome = .ok q) :
    Expr.readCounted options.limits.maxTests source = .ok (q.parsed, q.testCount) ∧
      (check options.patterns options.limits known q.parsed).outcome =
        .ok (q.checked, q.testCount) ∧
      q.parsed.testCount = q.testCount ∧ q.checked.testCount = q.testCount := by
  obtain ⟨policy, -, read, checks, -⟩ := of_compile compiled
  obtain ⟨checked, counted⟩ := of_check checks
  have kept := testCount_of_checkedIn checked
  rw [← counted] at kept
  exact ⟨Expr.readCounted_eq_ok_iff.mpr ⟨read, counted⟩, checks, counted.symm, kept⟩

end

/-- Limits are exact and only refuse: a limited query compiles if and only if the unlimited one
does, what was read has no more tests than the limit on them and no literal longer than the limit on
those, zero meaning none, and nothing but the limits tells the two queries apart. The number of tests
that a query keeps is what the reader has met, what the check has counted, and what the expression
that was read and the one that was checked have; and no text fails to compile on the count of the
check. -/
theorem compile_limited (options : Options) (known : Option Schema) (typeName : Option String)
    (source : String) :
    (∀ q, (Query.compile options known typeName source).outcome = .ok q ↔
      ∃ free, (Query.compile { options with limits := {} } known typeName source).outcome =
          .ok free ∧
        (options.limits.maxTests = 0 ∨ free.parsed.testCount ≤ options.limits.maxTests) ∧
        (free.parsed.EveryTest fun _ literal =>
          LiteralFits options.limits.maxLiteralLength literal) ∧
        q = { free with limits := options.limits }) ∧
    (∀ q, (Query.compile options known typeName source).outcome = .ok q →
      Expr.readCounted options.limits.maxTests source = .ok (q.parsed, q.testCount) ∧
        (check options.patterns options.limits known q.parsed).outcome =
          .ok (q.checked, q.testCount) ∧
        q.parsed.testCount = q.testCount ∧ q.checked.testCount = q.testCount) ∧
    ∀ count limit, (Query.compile options known typeName source).outcome ≠
      .error (.check (.tooManyTests count limit)) := by
  refine ⟨fun q => ?_, fun q => counted_of_compile, fun count limit => ?_⟩
  · constructor
    · intro compiled
      obtain ⟨policy, parsed, checked, tests, hasPolicy, read, checks, rfl⟩ :=
        compile_eq_ok.mp compiled
      obtain ⟨readFreely, few⟩ := Expr.read_limited.mp read
      obtain ⟨checksFreely, fit⟩ := (check_limited few).mp checks
      exact ⟨_, compile_eq_ok.mpr ⟨policy, parsed, checked, tests, hasPolicy, readFreely,
        checksFreely, rfl⟩, few, fit, rfl⟩
    · rintro ⟨free, compiled, few, fit, rfl⟩
      obtain ⟨policy, parsed, checked, tests, hasPolicy, read, checks, rfl⟩ :=
        compile_eq_ok.mp compiled
      exact compile_eq_ok.mpr ⟨policy, parsed, checked, tests, hasPolicy,
        Expr.read_limited.mpr ⟨read, few⟩, (check_limited few).mpr ⟨checks, fit⟩, rfl⟩
  · intro failed
    obtain ⟨parsed, read, fails⟩ := of_compile_check_error failed
    rw [outcome_check (Expr.read_limited.mp read).2] at fails
    cases checks : (checkedIn options.patterns options.limits
        (known.filter fun schema => !schema.isEmpty) [] parsed).outcome with
    | ok checked =>
      rw [checks] at fails
      cases fails
    | error error =>
      rw [checks] at fails
      cases fails
      cases uncounted_checkedIn _ _ _ _ _ _ checks

end Sift
