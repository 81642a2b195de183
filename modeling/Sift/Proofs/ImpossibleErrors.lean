import Mathlib
import Sift.Proofs.Checking.Errors
import Sift.Proofs.Evaluation.Errors
import Sift.Proofs.Grammar.Image
import Sift.Proofs.Limits

/-!
# Errors that do not happen

Some errors guard against what other parts of the program have ruled out already. The grammar gives
every operator the literal that it takes, so neither the check nor an evaluation misses one; under a
schema the check has tried every pattern, so no evaluation stumbles over one; and a schema that was
derived from a shape has patterns for texts only, at every level, so no pattern is refused for the
type of its field. `impossible_errors` states this of all texts, options, schemas and environments.
-/

namespace Sift

/-! ## Literals that are there -/

/-- There is a literal if the operator takes one. -/
def LiteralThere {ν : Type} (operator : Operator) (literal : Option ν) : Prop :=
  operator.takesLiteral = true → literal.isSome = true

theorem literalsThere_of_wellFormed {e : Expr String} (wellFormed : e.WellFormed) :
    e.EveryTest LiteralThere := by
  induction e with
  | test selector operator literal =>
    intro takes
    rw [wellFormed.2.1, takes]
  | not operand ih => exact ih wellFormed.1
  | and left right ihLeft ihRight | or left right ihLeft ihRight =>
    exact ⟨ihLeft wellFormed.1, ihRight wellFormed.2⟩
  | quantified quantifier selector binding body ih => exact ih wellFormed.2.2.2

/-! ## Fields that take patterns -/

/-- If patterns may be searched for in a field, its literals are texts. -/
def Field.TakesTexts (field : Field) : Prop :=
  ∀ operator : Operator, operator.takesPattern = true → field.supports operator = true →
    field.literalType = some .string

theorem takesTexts_of_operators {field : Field}
    (none : ∀ operator ∈ field.operators, operator.takesPattern = false) : field.TakesTexts := by
  intro operator takes supported
  have inside : operator ∈ field.operators := List.contains_iff_mem.mp supported
  cases takes.symm.trans (none operator inside)

/-- Patterns are for the scalars that are texts. -/
theorem derivable_takesTexts : Field.Derivable Field.TakesTexts where
  scalar type := by
    cases type with
    | string => exact fun _ _ _ => rfl
    | bool => exact takesTexts_of_operators (by decide)
    | int | uint | float32 | float64 =>
      have none : ∀ operator ∈ LiteralType.comparisons, operator.takesPattern = false := by decide
      exact takesTexts_of_operators none
  scalars _ := by
    have none : ∀ operator ∈ Field.membership, operator.takesPattern = false := by decide
    exact takesTexts_of_operators none
  list _ := by
    have none : ∀ operator ∈ Field.emptiness, operator.takesPattern = false := by decide
    exact takesTexts_of_operators none
  map _ _ _ _ := rfl
  closed := takesTexts_of_operators (by decide)
  record _ := takesTexts_of_operators (List.forall_mem_nil _)
  named _ takesTexts := takesTexts

/-! ## Compiling -/

section

variable {options : Options} {known : Option Schema} {typeName : Option String} {source : String}

/-- If a text is read but does not check, it is an expression that does not. -/
theorem of_compile_checkedIn_error {error : CheckError}
    (failed : (Query.compile options known typeName source).outcome = .error (.check error)) :
    ∃ e : Expr String, e.EveryTest LiteralThere ∧
      (checkedIn options.patterns options.limits (known.filter fun schema => !schema.isEmpty) []
        e).outcome = .error error := by
  obtain ⟨e, read, fails⟩ := of_compile_check_error failed
  refine ⟨e, literalsThere_of_wellFormed (wellFormed_of_read read), ?_⟩
  rw [outcome_check (Expr.read_limited.mp read).2] at fails
  cases inner : (checkedIn options.patterns options.limits
      (known.filter fun schema => !schema.isEmpty) [] e).outcome with
  | ok checked =>
    rw [inner] at fails
    cases fails
  | error error' =>
    rw [inner] at fails
    cases fails
    rfl

theorem compile_ne_missingLiteral (operator : Operator) :
    (Query.compile options known typeName source).outcome ≠
      .error (.check (.missingLiteral operator)) := by
  intro failed
  obtain ⟨e, there, fails⟩ := of_compile_checkedIn_error failed
  have never : FailsWith (fun error => ∀ operator, error ≠ .missingLiteral operator)
      (checkedIn options.patterns options.limits (known.filter fun schema => !schema.isEmpty) []
        e).outcome := by
    refine failsWith_checkedIn ?_ ?_ .trivial (fun _ _ _ _ => trivial) (List.forall_mem_nil _)
      (there.imp fun operator literal there selector error fails => ?_)
    · rintro _ aboutSelector operator rfl
      cases aboutSelector
    · intro field _ selector operator raw _ error fails
      rcases of_checkLiteral_error fails with ⟨_, rfl⟩ | ⟨_, rfl⟩ | ⟨rfl, -⟩ <;> nofun
    · rcases of_checkForm_error fails with rfl | ⟨-, takes, rfl⟩
      · nofun
      · cases there takes
  exact never _ fails operator rfl

theorem compile_ne_patternOfOtherType {tag : String} {shape : Shape} (free : shape.JudgeFree)
    {schema : Schema} (derived : Schema.ofShape tag shape = .ok schema) (selector : Selector) :
    (Query.compile options (some schema) typeName source).outcome ≠
      .error (.check (.patternOfOtherType selector)) := by
  intro failed
  obtain ⟨e, -, fails⟩ := of_compile_checkedIn_error failed
  have never : FailsWith (fun error => ∀ selector, error ≠ .patternOfOtherType selector)
      (checkedIn options.patterns options.limits
        ((some schema).filter fun schema => !schema.isEmpty) [] e).outcome := by
    refine failsWith_checkedIn ?_ ?_ (Field.Everywhere.hereditary Field.TakesTexts) ?_
      (List.forall_mem_nil _) (.of_forall fun operator literal selector error fails => ?_)
    · rintro _ aboutSelector selector rfl
      cases aboutSelector
    · intro field everywhere selector operator raw supported error fails
      rcases of_checkLiteral_error fails with
        ⟨_, rfl⟩ | ⟨_, rfl⟩ | ⟨-, takes, type, literal, typed, read, other⟩
      · nofun
      · nofun
      · -- A text reads every literal as itself.
        cases typed.symm.trans (everywhere.here operator takes supported)
        cases read
        exact absurd rfl (other raw)
    · intro level here
      cases (Option.filter_eq_some_iff.mp here).1
      exact everywhere_of_ofShape derivable_takesTexts free derived
    · rcases of_checkForm_error fails with rfl | ⟨rfl, -⟩ <;> nofun
  exact never _ fails selector rfl

end

/-! ## Evaluating -/

/-- No evaluation of the query fails with the error, neither in an environment nor for a value of a
host type. -/
structure Query.Never (q : Query) (error : EvalError) : Prop where
  evaluateIn (env : Env) : (q.evaluateIn env).outcome ≠ .error error
  evaluate {α : Type} [Host α] (a : α) : (q.evaluate a).outcome ≠ .error error

namespace Query

variable {q : Query} {error : EvalError}

/-- What no test of the checked expression fails with, if it is not about where selectors lead and to
what types. -/
theorem never_of_tests (noTarget : error.isOfTarget = false)
    (noType : ∀ expected actual, error ≠ .otherType expected actual)
    (tests : q.checked.EveryTest fun operator literal =>
      ∀ selector d, Test.run ⟨selector, operator, literal⟩ q.settings.patterns d ≠ .error error) :
    q.Never error := by
  have inside (env : Env) : (q.evaluateIn env).outcome ≠ .error error := by
    have never : FailsWith (· ≠ error) (q.evaluateIn env).outcome := by
      refine Settings.failsWith_evaluate ?_ (tests.imp ?_) env
      · rintro _ target rfl
        exact Bool.noConfusion (noTarget.symm.trans target)
      · rintro operator literal never selector d _ fails rfl
        exact never selector d fails
    exact fun fails => never error fails rfl
  refine ⟨inside, fun a => ?_⟩
  unfold evaluate
  dsimp only
  split
  · exact inside _
  · split
    · exact inside _
    · exact fun fails => noType _ _ (Except.error.inj fails).symm

theorem never_missingLiteral (sound : q.checked.EveryTest SoundLiteral) (operator : Operator) :
    q.Never (.missingLiteral operator) := by
  refine never_of_tests rfl nofun (sound.imp ?_)
  intro operator' literal sound selector d fails
  cases Test.failsWith_run _ _ d _ fails with
  | literal takes none =>
    have there := sound.there takes
    cases none
    cases there
  | datum aboutDatum => cases aboutDatum

theorem never_badPattern (readable : q.checked.EveryTest (ReadablePattern q.settings.patterns))
    (selector : Selector) : q.Never (.badPattern selector) := by
  refine never_of_tests rfl nofun (readable.imp ?_)
  intro operator literal readable selector' d fails
  cases Test.failsWith_run _ _ d _ fails with
  | pattern takes there unreadable =>
    have readable := readable takes _ there
    rw [unreadable] at readable
    cases readable
  | datum aboutDatum => cases aboutDatum

end Query

/-! ## All of them -/

/-- Errors that cannot happen do not happen. No text fails to compile for a literal that is missing,
whatever the schema. No query misses a literal when it is evaluated, whatever its policy and its hook
and whatever the environment, and if it was compiled under a schema that is not empty, it never comes
to a pattern that it cannot read. And under a schema derived from a shape without judges, no text
fails to compile for a pattern in a field that is no text. -/
theorem impossible_errors (options : Options) (typeName : Option String) (source : String) :
    (∀ known operator, (Query.compile options known typeName source).outcome ≠
      .error (.check (.missingLiteral operator))) ∧
    (∀ known q, (Query.compile options known typeName source).outcome = .ok q →
      (∀ operator, q.Never (.missingLiteral operator)) ∧
      ∀ schema, known = some schema → schema ≠ [] → ∀ selector, q.Never (.badPattern selector)) ∧
    ∀ tag shape schema, shape.JudgeFree → Schema.ofShape tag shape = .ok schema →
      ∀ selector, (Query.compile options (some schema) typeName source).outcome ≠
        .error (.check (.patternOfOtherType selector)) := by
  refine ⟨fun known => compile_ne_missingLiteral, fun known q compiled => ?_, ?_⟩
  · obtain ⟨policy, -, -, checks, settings⟩ := of_compile compiled
    refine ⟨Query.never_missingLiteral (soundLiterals_of_check checks), ?_⟩
    rintro schema rfl filled
    have readable := readablePatterns_of_check filled checks
    apply Query.never_badPattern
    rw [settings]
    exact readable
  · intro tag shape schema free derived
    exact compile_ne_patternOfOtherType free derived

/-- A record with a name and a size. -/
def Shape.sampleNamed : Shape :=
  .record "Named" [({ name := "name" }, .string), ({ name := "size" }, .int .w64)]

/-- A query for names never misses a literal and never comes to a pattern that it cannot read; and a
size that is searched for a pattern is refused for its operator and not for the pattern. -/
theorem impossible_errors_named :
    Shape.sampleNamed.JudgeFree ∧
      ∃ schema q, Schema.ofShape Schema.defaultTag .sampleNamed = .ok schema ∧
        (Query.compile .standard (some schema) none "name matches \"^a\"").outcome = .ok q ∧
        (∀ operator, q.Never (.missingLiteral operator)) ∧
        (∀ selector, q.Never (.badPattern selector)) ∧
        ∃ error, (Query.compile .standard (some schema) none "size matches \"1\"").outcome =
            .error error ∧
          (∀ operator, error ≠ .check (.missingLiteral operator)) ∧
          ∀ selector, error ≠ .check (.patternOfOtherType selector) := by
  have free : Shape.sampleNamed.JudgeFree :=
    .record _ (List.forall_mem_cons.mpr ⟨.string, List.forall_mem_singleton.mpr (.int .w64)⟩)
  obtain ⟨schema, q, error, derived, filled, compiled, refused⟩ : ∃ schema q error,
      Schema.ofShape Schema.defaultTag .sampleNamed = .ok schema ∧ schema ≠ [] ∧
        (Query.compile .standard (some schema) none "name matches \"^a\"").outcome = .ok q ∧
        (Query.compile .standard (some schema) none "size matches \"1\"").outcome = .error error :=
    ⟨_, _, _, rfl, List.cons_ne_nil _ _, by cbv, by cbv⟩
  have named := (impossible_errors .standard none "name matches \"^a\"").2.1 _ q compiled
  obtain ⟨noneMissing, -, noneOfOtherType⟩ := impossible_errors .standard none "size matches \"1\""
  refine ⟨free, schema, q, derived, compiled, named.1, named.2 schema rfl filled, error, refused,
    ?_, ?_⟩
  · exact fun operator same => noneMissing _ operator (refused.trans (congrArg _ same))
  · exact fun selector same => noneOfOtherType _ _ schema free derived selector
      (refused.trans (congrArg _ same))

/-- A schema of another origin may allow patterns for numbers. -/
example : (check Pattern.engine {} (some [(.named "size",
      { literalType := some (.int .w64), operators := [.isMatch] })])
    (.test ⟨.words, ["size"]⟩ .isMatch (some "1"))).outcome =
      .error (.patternOfOtherType ⟨.words, ["size"]⟩) := rfl

end Sift
