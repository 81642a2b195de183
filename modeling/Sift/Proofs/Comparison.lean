import Mathlib
import Sift.Proofs.Checking.Literals
import Sift.Proofs.Number.Numerals
import Sift.Proofs.Unrolling

/-!
# Integers compared with numerals

Without a schema an integer is compared with a numeral exactly, if the numeral is an integer that
the type of the datum holds. Every other numeral is read as a 64-bit decimal and the integer is
brought to that format, so both are rounded. Rounding keeps the order, and all that is lost is which
of two is the greater one where both round alike: the integer then counts as equal to the numeral
(`integer_compared_with_numeral`), even if it is not (`integer_equals_other_numeral`).
-/

namespace Sift

/-! ## Integers -/

/-- The value of an integer, signed or not. -/
def Datum.integer? : Datum → Option ℤ
  | .int a => some a.toInt
  | .uint a => some a.toNat
  | _ => none

/-- The numeral is written as an integer, and the type of the datum holds it. -/
def Numeral.IsIntegerFor (n : Numeral) : Datum → Prop
  | .int _ => n.IsIntegerIn (-2 ^ 63) (2 ^ 63)
  | .uint _ => n.IsIntegerIn 0 (2 ^ 64)
  | _ => False

/-- Only zero rounds as zero does, among the integers. -/
theorem eq_zero_of_isRounding {a : ℤ} (rounding : Binary.IsRounding .double a 0) : a = 0 := by
  have unit (k : ℤ) (small : |k| ≤ 1) : Binary.Representable .double k :=
    ⟨k, 0, small.trans_lt (by decide), by decide, by decide, by simp⟩
  have up := rounding.nearest 1 (by exact_mod_cast unit 1 (by decide))
  have down := rounding.nearest (-1) (by exact_mod_cast unit (-1) (by decide))
  have up' : |0 - a| ≤ |1 - a| := by exact_mod_cast up
  have down' : |0 - a| ≤ |-1 - a| := by exact_mod_cast down
  have upSquares := sq_le_sq.mpr up'
  have downSquares := sq_le_sq.mpr down'
  have below : 2 * a ≤ 1 := by linarith
  have above : -1 ≤ 2 * a := by linarith
  omega

/-- How an integer is ordered against what a numeral is read as: as the two numbers are, unless the
numeral is no integer of the type and both round alike. -/
structure OrderedAs (a : ℤ) (n : Numeral) (whole : Prop) (o : Ordering) : Prop where
  faithful : whole ∨ ¬Binary.RoundAlike .double a n.value → o.Compares (a : ℚ) n.value
  alike : ¬whole → Binary.RoundAlike .double a n.value → o = .eq

/-- An integer that is brought to the format of a decimal. -/
theorem orderedAs_of_rounding {a : ℤ} (small : a.natAbs ≤ 2 ^ 64) {n : Numeral} {whole : Prop}
    {x : Binary64} {v : ℚ} (has : x.value? = some v)
    (rounding : Binary.IsRounding .double n.value v) (zero : whole → n.value = 0) :
    ∃ o, (Binary.ofInt a).order x = some o ∧ OrderedAs a n whole o := by
  obtain ⟨u, has', rounding'⟩ := Binary.isRounding_ofInt small
  obtain ⟨o, ordered, compares⟩ := Binary.exists_order has' has
  obtain ⟨alike, apart⟩ := Binary.compares_of_roundings rounding' rounding compares
  refine ⟨o, ordered, fun cause => ?_, fun _ same => alike same⟩
  rcases Classical.em (Binary.RoundAlike .double a n.value) with same | other
  · -- Written as an integer of the type and read as a decimal it can only be a negative zero.
    have isZero := zero (cause.resolve_right (not_not_intro same))
    obtain ⟨w, first, second⟩ := same
    have noughts : Binary.IsRounding .double n.value 0 := by
      rw [isZero]
      exact Binary.isRounding_zero (by decide) (by rw [abs_zero, mul_zero]; positivity)
    rw [alike ⟨w, first, second⟩]
    rw [second.unique noughts] at first
    show (a : ℚ) = n.value
    rw [eq_zero_of_isRounding first, isZero, Int.cast_zero]
  · exact apart other

/-- An integer against what a numeral is read as for it. -/
theorem orderedAs_of_readAs {d : Datum} {α : Type} {low high : ℤ} {literalOf : α → Literal}
    {number : α → ℤ} {a : ℤ} (small : a.natAbs ≤ 2 ^ 64)
    (integers : ∀ b, d.order (literalOf b) = some (compare a (number b)))
    (decimal : ∀ x, d.order (.float64 x) = (Binary.ofInt a).order x) {n : Numeral}
    {literal : Literal} (read : n.ReadAs low high literalOf number literal) :
    ∃ o, d.order literal = some o ∧ OrderedAs a n (n.IsIntegerIn low high) o := by
  rcases read with ⟨b, rfl, same, holds⟩ | ⟨x, v, rfl, has, rounding, zero⟩
  · refine ⟨_, integers b, fun _ => ?_, fun other => absurd holds other⟩
    rw [same]
    exact Int.cast_strictMono.compares.mpr ((compare_iff a (number b)).mp rfl)
  · rw [decimal]
    exact orderedAs_of_rounding small has rounding zero

theorem orderedAs_of_readLiteral? {d : Datum} {a : ℤ} (integer : d.integer? = some a) {n : Numeral}
    {literal : Literal} (read : d.readLiteral? n.text = some (.ok literal)) :
    ∃ o, d.order literal = some o ∧ OrderedAs a n (n.IsIntegerFor d) o := by
  cases d with
  | int k =>
    cases integer
    have small : k.toInt.natAbs ≤ 2 ^ 64 := by
      have low := k.le_toInt
      have high := k.toInt_lt
      omega
    exact orderedAs_of_readAs small (fun _ => rfl) (fun _ => rfl)
      (Numeral.readAs_int (Option.some.inj read))
  | uint k =>
    cases integer
    have small : (k.toNat : ℤ).natAbs ≤ 2 ^ 64 := by
      have high := k.toNat_lt
      omega
    have integers (b : UInt64) :
        (Datum.uint k).order (.uint b) = some (compare (k.toNat : ℤ) b.toNat) := by
      have compares : (compare k.toNat b.toNat).Compares (k.toNat : ℤ) b.toNat :=
        Nat.strictMono_cast.compares.mpr ((compare_iff _ _).mp rfl)
      exact congrArg some ((compare_iff _ _).mpr compares).symm
    exact orderedAs_of_readAs small integers (fun _ => rfl)
      (Numeral.readAs_uint (Option.some.inj read))
  | _ => cases integer

/-! ## Tests -/

/-- The relation between numbers that an operator asks for. -/
def Operator.relation? : Operator → Option (ℚ → ℚ → Prop)
  | equal => some (· = ·)
  | notEqual => some (· ≠ ·)
  | less => some (· < ·)
  | lessEqual => some (· ≤ ·)
  | greater => some (· > ·)
  | greaterEqual => some (· ≥ ·)
  | _ => none

/-- What an operator asks of the outcome of a comparison. -/
def Operator.asks? : Operator → Option (Option Ordering → Bool)
  | equal => some (· == some .eq)
  | notEqual => some (· != some .eq)
  | less => some fun outcome => outcome.any (· == .lt)
  | lessEqual => some fun outcome => outcome.any (· != .gt)
  | greater => some fun outcome => outcome.any (· == .gt)
  | greaterEqual => some fun outcome => outcome.any (· != .lt)
  | _ => none

section

variable {patterns : PatternEngine} {selector : Selector} {operator : Operator}
  {relation : ℚ → ℚ → Prop} {literal : CheckedLiteral} {d : Datum}

/-- The operators look at one comparison, which has to have an outcome. -/
theorem Test.of_run {asks : Option Ordering → Bool} (comparing : operator.asks? = some asks) {b : Bool}
    (answers : Test.run ⟨selector, operator, some literal⟩ patterns d = .ok b) :
    ∃ outcome, Test.compared ⟨selector, .equal, some literal⟩ d = .ok outcome ∧
      b = asks outcome := by
  -- With its literal there, a comparison does not look at the operator.
  have ofOrdered {holds : Ordering → Bool}
      (ordered : Test.ordered ⟨selector, operator, some literal⟩ d holds = .ok b) :
      ∃ outcome, Test.compared ⟨selector, .equal, some literal⟩ d = .ok outcome ∧
        b = outcome.any holds := by
    unfold Test.ordered at ordered
    split at ordered
    · cases ordered
    · obtain ⟨outcome, compared, ordered⟩ := bind_eq_ok.mp ordered
      refine ⟨outcome, compared, ?_⟩
      cases outcome <;> cases ordered <;> rfl
  cases operator <;> cases comparing
  case equal | notEqual =>
    obtain ⟨outcome, compared, same⟩ := bind_eq_ok.mp answers
    cases same
    exact ⟨outcome, compared, rfl⟩
  all_goals exact ofOrdered answers

/-- A test of what can be ordered against its literal answers as the operator asks. -/
theorem run_iff_relation (asks : operator.relation? = some relation) {o : Ordering}
    (compared : (⟨selector, operator, some literal⟩ : Test).compared d = .ok (some o)) {b : Bool}
    (answers : (⟨selector, operator, some literal⟩ : Test).run patterns d = .ok b) {x y : ℚ}
    (compares : o.Compares x y) : b = true ↔ relation x y := by
  have asked {holds : Option Ordering → Bool} (comparing : operator.asks? = some holds) :
      b = holds (some o) := by
    obtain ⟨outcome, compared', rfl⟩ := Test.of_run comparing answers
    rw [Except.ok.inj (compared'.symm.trans compared)]
  cases operator <;> cases asks <;> rw [asked rfl]
  case equal =>
    rw [beq_iff_eq, Option.some_inj]
    exact compares.eq_eq
  case notEqual =>
    rw [bne_iff_ne, Ne, Option.some_inj]
    exact compares.eq_eq.not
  case less =>
    rw [Option.any_some, beq_iff_eq]
    exact compares.eq_lt
  case lessEqual =>
    rw [Option.any_some, bne_iff_ne, Ne, compares.eq_gt]
    exact not_lt
  case greater =>
    rw [Option.any_some, beq_iff_eq]
    exact compares.eq_gt
  case greaterEqual =>
    rw [Option.any_some, bne_iff_ne, Ne, compares.eq_lt]
    exact not_lt

/-- A comparison that has an answer has compared. -/
theorem compared_of_run (asks : operator.relation? = some relation) {b : Bool}
    (answers : (⟨selector, operator, some literal⟩ : Test).run patterns d = .ok b) :
    ∃ o, (⟨selector, operator, some literal⟩ : Test).compared d = .ok o := by
  cases operator <;> cases asks
  all_goals
    obtain ⟨o, compared, -⟩ := Test.of_run rfl answers
    exact ⟨o, compared⟩

/-- What has been compared is the literal, read for the datum. -/
theorem read_of_compared (plain : literal.converted = none) {o : Option Ordering}
    (compared : (⟨selector, operator, some literal⟩ : Test).compared d = .ok o) :
    ∃ l, d.readLiteral? literal.raw = some (.ok l) ∧ d.order l = o := by
  have here : literal.for? d = d.readLiteral? literal.raw := by rw [CheckedLiteral.for?, plain]
  simp only [Test.compared, Test.literal!, ok_bind, here] at compared
  split at compared
  next => cases compared
  next => cases compared
  next l read =>
    cases compared
    exact ⟨l, read, rfl⟩

end

/-! ## Queries -/

/-- A property of all tests is one of every test inside. -/
theorem Expr.EveryTest.part {ν : Type} {P : Operator → Option ν → Prop} {e : Expr ν}
    (every : e.EveryTest P) {selector : Selector} {operator : Operator} {literal : Option ν}
    (part : Part (.test selector operator literal) e) : P operator literal := by
  induction part with
  | whole => exact every
  | not _ ih => exact ih every
  | andLeft _ _ ih => exact ih every.1
  | andRight _ _ ih => exact ih every.2
  | orLeft _ _ ih => exact ih every.1
  | orRight _ _ ih => exact ih every.2
  | body _ _ _ _ ih => exact ih every

/-- No literal is converted where an expression is taken as it was read. -/
theorem converted_asRead (e : Expr String) :
    e.asRead.EveryTest fun _ literal => ∀ l ∈ literal, l.converted = none := by
  induction e with
  | test selector operator literal =>
    intro l inside
    obtain ⟨raw, -, rfl⟩ := Option.map_eq_some_iff.mp inside
    rfl
  | not operand ih => exact ih
  | and left right ihLeft ihRight => exact ⟨ihLeft, ihRight⟩
  | or left right ihLeft ihRight => exact ⟨ihLeft, ihRight⟩
  | quantified quantifier selector binding body ih => exact ih

/-- In a query without a schema, an integer is compared with a numeral as the two numbers are,
unless the numeral is not written as an integer that the type holds and both round to the same
64-bit number: then the integer counts as equal to the numeral. -/
theorem integer_compared_with_numeral {options : Options} {typeName : Option String}
    {source : String} {q : Query}
    (compiled : (Query.compile options none typeName source).outcome = .ok q)
    {selector : Selector} {operator : Operator} {literal : CheckedLiteral}
    (part : Expr.Part (.test selector operator (some literal)) q.checked)
    {relation : ℚ → ℚ → Prop} (asks : operator.relation? = some relation) {n : Numeral}
    (written : literal.raw = n.text) {env : Env} {d : Datum} {a : ℤ}
    (found : (q.settings.target selector env).outcome = .ok (some (.datum d)))
    (integer : d.integer? = some a) {b : Bool}
    (answers : (q.settings.evaluate (.test selector operator (some literal)) env).outcome = .ok b) :
    (n.IsIntegerFor d ∨ ¬Binary.RoundAlike .double a n.value → (b = true ↔ relation a n.value)) ∧
      (¬n.IsIntegerFor d → Binary.RoundAlike .double a n.value →
        (b = true ↔ relation n.value n.value)) := by
  obtain ⟨-, -, -, checks, -⟩ := of_compile compiled
  rw [of_checkedIn_none (of_check checks).1] at part
  have plain := (converted_asRead q.parsed).part part literal rfl
  simp only [Settings.evaluate, Settings.test, Traced.outcome_bind, found, ok_bind,
    Traced.outcome_ofExcept] at answers
  obtain ⟨_, compared⟩ := compared_of_run asks answers
  obtain ⟨l, read, rfl⟩ := read_of_compared plain compared
  rw [written] at read
  obtain ⟨o, ordered, faithful, alike⟩ := orderedAs_of_readLiteral? integer read
  rw [ordered] at compared
  refine ⟨fun cause => run_iff_relation asks compared answers (faithful cause),
    fun other same => ?_⟩
  refine run_iff_relation asks compared answers ?_
  rw [alike other same]
  rfl

/-- One half above `2 ^ 63`, which no integer is and no type of 64 bits reaches. -/
def Numeral.sampleBound : Numeral where
  whole := ['9', '2', '2', '3', '3', '7', '2', '0', '3', '6', '8', '5', '4', '7', '7', '5', '8',
    '0', '8']
  fraction := ['5']
  leading := .inr ⟨_, _, rfl, by decide⟩

/-- An element of a list under the name that the quantifier around the test binds. -/
def Env.sampleElement : Env :=
  ⟨.map [("ns", .list [.int (-7), .uint 9])], [[("n", .int (-7))]]⟩

/-- A negative element lies below a numeral that its type does not hold. -/
theorem integer_compared_with_numeral_below :
    ∃ q, (Query.compile .standard none none
        "all ns as n \x7b n < 9223372036854775808.5 \x7d").outcome = .ok q ∧
      (q.settings.evaluate (.test ⟨.words, ["n"]⟩ .less (some ⟨Numeral.sampleBound.text, none⟩))
        Env.sampleElement).outcome = .ok true ∧
      (Numeral.sampleBound.IsIntegerFor (.int (-7)) ∨
          ¬Binary.RoundAlike .double (-7 : ℤ) Numeral.sampleBound.value →
        (true = true ↔ ((-7 : ℤ) : ℚ) < Numeral.sampleBound.value)) ∧
      (¬Numeral.sampleBound.IsIntegerFor (.int (-7)) →
        Binary.RoundAlike .double (-7 : ℤ) Numeral.sampleBound.value →
          (true = true ↔ Numeral.sampleBound.value < Numeral.sampleBound.value)) := by
  have compiles : ∃ q, (Query.compile .standard none none
        "all ns as n \x7b n < 9223372036854775808.5 \x7d").outcome = .ok q ∧
      q.checked = .quantified .all ⟨.words, ["ns"]⟩ (.each "n")
        (.test ⟨.words, ["n"]⟩ .less (some ⟨Numeral.sampleBound.text, none⟩)) ∧
      (q.settings.target ⟨.words, ["n"]⟩ Env.sampleElement).outcome =
        .ok (some (.datum (.int (-7)))) ∧
      (q.settings.evaluate (.test ⟨.words, ["n"]⟩ .less
        (some ⟨Numeral.sampleBound.text, none⟩)) Env.sampleElement).outcome = .ok true :=
    ⟨_, by cbv, rfl, rfl, by decide +kernel⟩
  obtain ⟨q, compiled, checked, found, answers⟩ := compiles
  have part : Expr.Part (.test ⟨.words, ["n"]⟩ .less (some ⟨Numeral.sampleBound.text, none⟩))
      q.checked := checked ▸ .body _ _ _ .whole
  exact ⟨q, compiled, answers,
    integer_compared_with_numeral compiled part rfl rfl found rfl answers⟩

/-- `2 ^ 53`, written with a fraction. -/
def Numeral.samplePower : Numeral where
  whole := ['9', '0', '0', '7', '1', '9', '9', '2', '5', '4', '7', '4', '0', '9', '9', '2']
  fraction := ['0']
  leading := .inr ⟨_, _, rfl, by decide⟩

/-- An integer that is not the numeral, but rounds to it, equals it. -/
theorem integer_equals_other_numeral :
    ∃ q, (Query.compile .standard none none "n == 9007199254740992.0").outcome = .ok q ∧
      q.checked = .test ⟨.words, ["n"]⟩ .equal (some ⟨Numeral.samplePower.text, none⟩) ∧
      (q.evaluateDatum (.map [("n", .int 9007199254740993)])).outcome = .ok true ∧
      ((9007199254740993 : Int64).toInt : ℚ) ≠ Numeral.samplePower.value := by
  exact ⟨_, by cbv, rfl, by decide +kernel, by decide +kernel⟩

end Sift
