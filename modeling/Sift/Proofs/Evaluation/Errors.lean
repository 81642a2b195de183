import Sift.Proofs.Checking.Literals

/-!
# What an evaluation fails with

A test of a datum fails because its literal is not there, because its pattern cannot be read, or
because of the datum (`Test.Failure`, `failsWith_run`). An evaluation adds what goes wrong on the way
to the data, and nothing else: what these errors and those of all tests have in common, the error of
the evaluation has, too (`failsWith_evaluate`).
-/

namespace Sift

namespace EvalError

/-- Whether the error is about what is found and not about the literal of a test: the datum is not of
a kind that the operator is for, or the literal cannot be read for it. -/
def isOfDatum : EvalError → Bool
  | notComparable .. | badLiteral .. | noMembership .. | noEmptiness .. | notMatchable .. => true
  | _ => false

/-- Whether the error is about what a selector leads to, or that of a judge. -/
def isOfTarget : EvalError → Bool
  | unresolved _ | boundScalar .. | missing _ | notCollection _ | judgeNotIterable _
  | judgeFailed .. => true
  | _ => false

end EvalError

/-! ## Tests of a datum -/

namespace Test

/-- What the test of a datum fails with. -/
inductive Failure (t : Test) (patterns : PatternEngine) : EvalError → Prop
  | literal : t.operator.takesLiteral = true → t.literal = none →
    Failure t patterns (.missingLiteral t.operator)
  | pattern {l : CheckedLiteral} : t.operator.takesPattern = true → t.literal = some l →
    l.pattern? patterns = none → Failure t patterns (.badPattern t.selector)
  | datum {error : EvalError} : error.isOfDatum = true → Failure t patterns error

variable {t : Test} {patterns : PatternEngine}

theorem failsWith_literal (takes : t.operator.takesLiteral = true) :
    FailsWith (t.Failure patterns) t.literal! := by
  unfold literal!
  split
  · exact .ok _
  next none => exact .error (.literal takes none)

theorem failsWith_compared (takes : t.operator.takesLiteral = true) (d : Datum) :
    FailsWith (t.Failure patterns) (t.compared d) := by
  refine (failsWith_literal takes).bind fun l _ => ?_
  split
  · exact .error (.datum rfl)
  · exact .error (.datum rfl)
  · exact .ok _

theorem failsWith_contained (takes : t.operator.takesLiteral = true) (d : Datum) :
    FailsWith (t.Failure patterns) (t.contained d) := by
  refine (failsWith_literal takes).bind fun l _ => ?_
  split <;> first | exact .ok _ | exact .error (.datum rfl)

theorem failsWith_emptied (d : Datum) : FailsWith (t.Failure patterns) (t.emptied d) := by
  unfold emptied
  split
  · exact .ok _
  · exact .error (.datum rfl)

theorem failsWith_matched (takes : t.operator.takesLiteral = true)
    (searches : t.operator.takesPattern = true) (d : Datum) :
    FailsWith (t.Failure patterns) (t.matched patterns d) := by
  unfold matched
  split
  · refine (failsWith_literal takes).bind fun l there => ?_
    have known : t.literal = some l := by
      unfold literal! at there
      split at there
      next same => exact same.trans (congrArg some (Except.ok.inj there))
      next => cases there
    split
    · exact .ok _
    next unreadable => exact .error (.pattern searches known unreadable)
  · exact .error (.datum rfl)

theorem failsWith_ordered (takes : t.operator.takesLiteral = true) (d : Datum)
    (holds : Ordering → Bool) : FailsWith (t.Failure patterns) (t.ordered d holds) := by
  unfold ordered
  split
  · exact .error (.datum rfl)
  · refine (failsWith_compared takes d).bind fun ordering _ => ?_
    split <;> exact .ok _

/-- A test fails for its literal, for its pattern or for the datum. -/
theorem failsWith_run (t : Test) (patterns : PatternEngine) (d : Datum) :
    FailsWith (t.Failure patterns) (t.run patterns d) := by
  unfold run
  split
  next same => exact (failsWith_compared (by rw [same]; rfl) d).bind fun _ _ => .ok _
  next same => exact (failsWith_compared (by rw [same]; rfl) d).bind fun _ _ => .ok _
  next same => exact failsWith_contained (by rw [same]; rfl) d
  next same => exact (failsWith_contained (by rw [same]; rfl) d).bind fun _ _ => .ok _
  next => exact failsWith_emptied d
  next => exact (failsWith_emptied d).bind fun _ _ => .ok _
  next same => exact failsWith_matched (by rw [same]; rfl) (by rw [same]; rfl) d
  next same => exact (failsWith_matched (by rw [same]; rfl) (by rw [same]; rfl) d).bind fun _ _ => .ok _
  next same => exact failsWith_ordered (by rw [same]; rfl) d _
  next same => exact failsWith_ordered (by rw [same]; rfl) d _
  next same => exact failsWith_ordered (by rw [same]; rfl) d _
  next same => exact failsWith_ordered (by rw [same]; rfl) d _

end Test

/-! ## Selectors and expressions -/

namespace Settings

variable {s : Settings}

theorem failsWith_resolve (selector : Selector) (env : Env) :
    FailsWith (fun error => error.isOfTarget = true) (s.resolve selector env).outcome := by
  have follow (start : Nat) (d : Datum) : FailsWith (fun error => error.isOfTarget = true)
      ((d.resolve s.tag s.hook selector.path start).mapError EvalError.unresolved).outcome :=
    .mapError fun _ _ => rfl
  unfold resolve
  split
  · exact follow 0 env.root
  · split
    · exact follow 0 env.root
    · split
      · exact .error rfl
      · exact follow 1 _

theorem failsWith_settle (policy : AbsencePolicy) {error : EvalError}
    (here : error.isOfTarget = true) :
    FailsWith (fun error => error.isOfTarget = true) (policy.settle error) := by
  cases policy with
  | byOperator => exact .ok _
  | substitute datum => exact .ok _
  | refuse => exact .error here

theorem failsWith_target (selector : Selector) (env : Env) :
    FailsWith (fun error => error.isOfTarget = true) (s.target selector env).outcome := by
  have resolves := s.failsWith_resolve selector env
  unfold target
  dsimp only
  split
  · exact failsWith_settle s.policy rfl
  · exact .ok _
  · split
    · exact failsWith_settle s.policy rfl
    · exact .error rfl
  next error _ failed => exact .error (resolves error failed)

variable {P : EvalError → Prop}

theorem failsWith_quantify (quantifier : Quantifier) {visit : Frame → Traced Datum EvalError Bool}
    (visits : ∀ frame, FailsWith P (visit frame).outcome) (frames : List Frame) :
    FailsWith P (quantify quantifier visit frames).outcome := by
  induction frames with
  | nil => exact .ok _
  | cons frame rest ih =>
    refine Traced.failsWith_bind (visits frame) fun answer _ => ?_
    split
    · exact ih
    · exact .ok _

/-- What the errors of all tests have in common, with those about what selectors lead to. -/
theorem failsWith_evaluate (targets : ∀ error, error.isOfTarget = true → P error) {e : CheckedExpr}
    (tests : e.EveryTest fun operator literal =>
      ∀ selector d, FailsWith P (Test.run ⟨selector, operator, literal⟩ s.patterns d)) (env : Env) :
    FailsWith P (s.evaluate e env).outcome := by
  induction e generalizing env with
  | test selector operator literal =>
    refine Traced.failsWith_bind ((failsWith_target selector env).mono targets) fun found _ => ?_
    split
    · exact .ok _
    · exact tests selector _
    · exact .mapError fun _ _ => targets _ rfl
  | not operand ih => exact Traced.failsWith_bind (ih tests env) fun _ _ => .ok _
  | and left right ihLeft ihRight =>
    refine Traced.failsWith_bind (ihLeft tests.1 env) fun answer _ => ?_
    split
    · exact ihRight tests.2 env
    · exact .ok _
  | or left right ihLeft ihRight =>
    refine Traced.failsWith_bind (ihLeft tests.1 env) fun answer _ => ?_
    split
    · exact .ok _
    · exact ihRight tests.2 env
  | quantified quantifier selector binding body ih =>
    refine Traced.failsWith_bind ((failsWith_target selector env).mono targets) fun found _ => ?_
    split
    · exact .ok _
    · exact .error (targets _ rfl)
    · split
      · exact .error (targets _ rfl)
      · exact failsWith_quantify quantifier (fun frame => ih tests (env.push frame)) _

end Settings

end Sift
