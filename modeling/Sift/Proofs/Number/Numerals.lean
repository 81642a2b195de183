import Mathlib
import Sift.Proofs.Number.Rounding
import Sift.Proofs.Number.Unbounded

/-!
# Numerals

A numeral is a sign, a whole part without needless zeros and perhaps a fraction, of any length, and
denotes a rational. As an integer it is read exactly or, if it has a fraction or is too great, not
at all; as a decimal it is rounded to the nearest 64-bit number, also where the reader skips the
division because the power of ten decides (`isRounding_of_read?`). So a numeral that is read as a
number for an integer is either that integer or a rounding (`readAs_int`, `readAs_uint`).
-/

namespace Sift

/-- A number as the grammar writes it. -/
structure Numeral where
  negative : Bool := false
  whole : List Char
  /-- The digits behind the point; without any there is no point. -/
  fraction : List Char := []
  wholeDigits : whole.all Char.isDigit = true := by decide
  fractionDigits : fraction.all Char.isDigit = true := by decide
  /-- A whole part is there and starts with a zero only if it is one. -/
  leading : whole = ['0'] ∨ ∃ first rest, whole = first :: rest ∧ first ≠ '0'

namespace Numeral

/-- What follows the whole part. -/
def decimals (n : Numeral) : List Char := if n.fraction = [] then [] else '.' :: n.fraction

/-- How the numeral is written. -/
def text (n : Numeral) : String :=
  String.ofList ((if n.negative then ['-'] else []) ++ n.whole ++ n.decimals)

/-- The number that the numeral denotes. -/
def value (n : Numeral) : ℚ :=
  Binary.signed n.negative
    (rowValue 10 n.whole + rowValue 10 n.fraction / 10 ^ n.fraction.length)

end Numeral

/-! ## Digits -/

theorem rowValue_append (radix : Nat) (left right : List Char) :
    rowValue radix (left ++ right) =
      rowValue radix left * radix ^ right.length + rowValue radix right := by
  induction right using List.reverseRecOn with
  | nil => simp [rowValue]
  | append_singleton right last ih =>
    have step (row : List Char) : rowValue radix (row ++ [last]) =
        radix * rowValue radix row + digitValue last := by
      rw [rowValue, List.foldl_append]
      rfl
    rw [← List.append_assoc, step, step, ih, List.length_append, List.length_singleton, pow_succ]
    ring

/-- The decimal digits of a number denote it. -/
theorem rowValue_toDigits (n : Nat) : rowValue 10 (Nat.toDigits 10 n) = n := by
  have step (sofar : Nat) (c : Char) (inside : c ∈ Nat.toDigits 10 n) :
      10 * sofar + digitValue c = 10 * sofar + (c.toNat - '0'.toNat) := by
    rw [digitValue, if_pos (Nat.isDigit_of_mem_toDigits (by decide) (Nat.le_refl 10) inside)]
  rw [rowValue, List.foldl_ext _ _ 0 step, ← Nat.ofDigitChars_eq_foldl,
    Nat.ofDigitChars_ten_toDigits]

theorem isDigitOf_ten {c : Char} (digit : c.isDigit = true) : isDigitOf 10 c = true := by
  have bounds := Char.isDigit_iff_toNat.mp digit
  have top : '9'.toNat = '0'.toNat + 9 := rfl
  rw [isDigitOf, digitValue, if_pos digit]
  exact decide_eq_true (by omega)

theorem toLower_of_isDigit {c : Char} (digit : c.isDigit = true) : c.toLower = c := by
  have low := (Char.isDigit_iff_toNat.mp digit).2
  have top : '9'.toNat < 65 := by decide
  unfold Char.toLower
  split
  next upper =>
    have high : 65 ≤ c.toNat := UInt32.le_iff_toNat_le.mp upper.1
    omega
  next => rfl

theorem isDigitRun_of_digits {digits : List Char} (filled : digits ≠ [])
    (all : ∀ c ∈ digits, c.isDigit = true) : isDigitRun 10 digits = true := by
  fun_induction isDigitRun 10 digits with
  | case1 => exact absurd rfl filled
  | case2 c => exact isDigitOf_ten (all c List.mem_cons_self)
  | case3 c rest ih =>
    have underscore := all '_' (List.mem_cons_of_mem _ List.mem_cons_self)
    cases underscore
  | case4 c d rest other ih =>
    rw [isDigitOf_ten (all c List.mem_cons_self), Bool.true_and]
    exact ih (List.cons_ne_nil _ _) fun c inside => all c (List.mem_cons_of_mem _ inside)

/-- A run holds digits and underscores only. -/
theorem isDigitOf_of_isDigitRun {radix : Nat} {digits : List Char}
    (run : isDigitRun radix digits = true) : ∀ c ∈ digits, c = '_' ∨ isDigitOf radix c = true := by
  fun_induction isDigitRun radix digits with
  | case1 => cases run
  | case2 c =>
    intro c' inside
    obtain rfl := List.mem_singleton.mp inside
    exact .inr run
  | case3 c rest ih =>
    rw [Bool.and_eq_true] at run
    intro c' inside
    rcases List.mem_cons.mp inside with rfl | inside
    · exact .inr run.1
    · rcases List.mem_cons.mp inside with rfl | inside
      · exact .inl rfl
      · exact ih run.2 c' inside
  | case4 c d rest other ih =>
    rw [Bool.and_eq_true] at run
    intro c' inside
    rcases List.mem_cons.mp inside with rfl | inside
    · exact .inr run.1
    · exact ih run.2 c' inside

theorem runValue_of_digits {digits : List Char} (all : ∀ c ∈ digits, c.isDigit = true) :
    runValue 10 digits = rowValue 10 digits := by
  rw [runValue, List.filter_eq_self.mpr]
  intro c inside
  refine decide_eq_true ?_
  rintro rfl
  cases all _ inside

namespace Numeral

variable (n : Numeral)

theorem isDigit_whole : ∀ c ∈ n.whole, c.isDigit = true := List.all_eq_true.mp n.wholeDigits

theorem isDigit_fraction : ∀ c ∈ n.fraction, c.isDigit = true :=
  List.all_eq_true.mp n.fractionDigits

theorem whole_ne_nil : n.whole ≠ [] := by
  rcases n.leading with zero | ⟨first, rest, whole, -⟩
  · rw [zero]
    exact List.cons_ne_nil _ _
  · rw [whole]
    exact List.cons_ne_nil _ _

/-- The whole part starts with a digit. -/
theorem exists_whole : ∃ first rest, n.whole = first :: rest ∧ first.isDigit = true := by
  obtain ⟨first, rest, whole⟩ := List.exists_cons_of_ne_nil n.whole_ne_nil
  exact ⟨first, rest, whole, n.isDigit_whole first (whole ▸ List.mem_cons_self)⟩

theorem splitSign_text :
    splitSign n.text.toList = (n.negative, n.whole ++ n.decimals) := by
  obtain ⟨first, rest, whole, digit⟩ := n.exists_whole
  rw [text, String.toList_ofList, whole]
  cases n.negative with
  | true => rfl
  | false =>
    simp only [Bool.false_eq_true, if_false, List.nil_append, List.cons_append]
    unfold splitSign
    split
    next same =>
      cases same
      cases digit
    next same =>
      cases same
      cases digit
    next => rfl

/-! ## Reading integers -/

/-- A mark that is no digit of the radix does not stand in a run. -/
theorem isDigitRun_of_mark {radix : Nat} {mark : Char} {digits : List Char} (inside : mark ∈ digits)
    (other : mark ≠ '_') (noDigit : isDigitOf radix mark = false) :
    isDigitRun radix digits = false := by
  cases run : isDigitRun radix digits with
  | false => rfl
  | true =>
    rcases isDigitOf_of_isDigitRun run mark inside with same | digit
    · exact absurd same other
    · rw [noDigit] at digit
      cases digit

theorem splitRadix_of_ne_zero {first : Char} (other : first ≠ '0') (rest : List Char) :
    splitRadix (first :: rest) = (10, first :: rest) := by
  unfold splitRadix
  split
  case h_8 => rfl
  all_goals
    next same =>
      cases same
      exact absurd rfl other

/-- Without its sign the numeral is read as an integer if it has no fraction. -/
theorem readMagnitude?_whole :
    readMagnitude? (n.whole ++ n.decimals) =
      if n.fraction = [] then some (rowValue 10 n.whole) else none := by
  rw [decimals]
  split
  next none =>
    have radix : splitRadix n.whole = (10, n.whole) := by
      rcases n.leading with zero | ⟨first, rest, whole, other⟩
      · rw [zero]
        rfl
      · rw [whole, splitRadix_of_ne_zero other]
    rw [List.append_nil, readMagnitude?, radix]
    dsimp only
    rw [if_pos (isDigitRun_of_digits n.whole_ne_nil n.isDigit_whole),
      runValue_of_digits n.isDigit_whole]
  next some =>
    rcases n.leading with zero | ⟨first, rest, whole, other⟩
    · have noRun : isDigitRun 8 ('.' :: n.fraction) = false :=
        isDigitRun_of_mark List.mem_cons_self (by decide) rfl
      have radix : splitRadix (n.whole ++ '.' :: n.fraction) = (8, '.' :: n.fraction) := by
        rw [zero]
        rfl
      rw [readMagnitude?, radix]
      dsimp only
      rw [noRun]
      rfl
    · have noRun : isDigitRun 10 (n.whole ++ '.' :: n.fraction) = false :=
        isDigitRun_of_mark (List.mem_append_right _ List.mem_cons_self) (by decide) rfl
      have radix : splitRadix (n.whole ++ '.' :: n.fraction) =
          (10, n.whole ++ '.' :: n.fraction) := by
        rw [whole, List.cons_append, splitRadix_of_ne_zero other]
      rw [readMagnitude?, radix]
      dsimp only
      rw [noRun]
      rfl

/-- The whole part under the sign. -/
def integer : ℤ := if n.negative then -rowValue 10 n.whole else rowValue 10 n.whole

/-- Without a fraction the numeral denotes its whole part. -/
theorem value_of_whole (none : n.fraction = []) : n.value = n.integer := by
  have row : rowValue 10 [] = 0 := rfl
  rw [value, none, row, Nat.cast_zero, zero_div, add_zero, integer, Binary.signed]
  split <;> push_cast <;> rfl

theorem readSigned?_text :
    readSigned? n.text.toList = if n.fraction = [] then some n.integer else none := by
  rw [readSigned?, splitSign_text, integer]
  cases n.negative with
  | true =>
    dsimp only
    rw [readMagnitude?_whole]
    split <;> rfl
  | false =>
    dsimp only
    rw [readMagnitude?_whole]
    split <;> rfl

/-- An unsigned integer has no sign. -/
theorem readMagnitude?_text :
    readMagnitude? n.text.toList = if n.fraction = [] ∧ n.negative = false then
      some (rowValue 10 n.whole) else none := by
  rw [text, String.toList_ofList]
  cases negative : n.negative with
  | true =>
    have noRun : isDigitRun 10 ('-' :: (n.whole ++ n.decimals)) = false :=
      isDigitRun_of_mark List.mem_cons_self (by decide) rfl
    have radix : splitRadix ('-' :: (n.whole ++ n.decimals)) =
        (10, '-' :: (n.whole ++ n.decimals)) := splitRadix_of_ne_zero (by decide) _
    simp only [if_true, List.cons_append, List.nil_append]
    rw [readMagnitude?, radix]
    dsimp only
    rw [noRun]
    simp
  | false =>
    simp only [Bool.false_eq_true, if_false, List.nil_append, and_true]
    exact n.readMagnitude?_whole

/-! ## Reading decimals -/

theorem readNumeral?_text :
    readNumeral? (n.whole ++ n.decimals) =
      some (rowValue 10 (n.whole ++ n.fraction), -(n.fraction.length : ℤ)) := by
  have taken : (n.whole ++ n.decimals).takeWhile Char.isDigit = n.whole := by
    rw [List.takeWhile_append_of_pos n.isDigit_whole, decimals]
    split <;> simp
  have dropped : (n.whole ++ n.decimals).dropWhile Char.isDigit = n.decimals := by
    rw [List.dropWhile_append_of_pos n.isDigit_whole, decimals]
    split <;> simp
  have fractionTaken : n.fraction.takeWhile Char.isDigit = n.fraction :=
    List.takeWhile_eq_self_iff.mpr n.isDigit_fraction
  have fractionDropped : n.fraction.dropWhile Char.isDigit = [] :=
    List.dropWhile_eq_nil_iff.mpr n.isDigit_fraction
  unfold readNumeral?
  simp only [taken, dropped]
  by_cases none : n.fraction = []
  · have point : n.decimals = [] := if_pos none
    rw [point, none]
    simp [n.whole_ne_nil, readExponent?]
  · have point : n.decimals = '.' :: n.fraction := if_neg none
    rw [point]
    simp [n.whole_ne_nil, readExponent?, fractionTaken, fractionDropped]

/-- The text is no word, since it starts with a digit. -/
theorem lowered_ne {word : String} {letter : Char} {rest : List Char}
    (letters : word.toList = letter :: rest) (noDigit : letter.isDigit = false) :
    String.ofList ((n.whole ++ n.decimals).map Char.toLower) ≠ word := by
  obtain ⟨first, others, whole, digit⟩ := n.exists_whole
  rintro rfl
  rw [String.toList_ofList, whole, List.cons_append, List.map_cons, toLower_of_isDigit digit]
    at letters
  cases letters
  rw [digit] at noDigit
  cases noDigit

/-- As a decimal the numeral is the number nearest to its digits. -/
theorem read?_text :
    Binary.read? .double n.text = some (.ofDecimal n.negative
      (rowValue 10 (n.whole ++ n.fraction)) (-(n.fraction.length : ℤ))) := by
  unfold Binary.read?
  rw [n.splitSign_text]
  dsimp only
  split
  next same => exact absurd same (n.lowered_ne rfl rfl)
  next same => exact absurd same (n.lowered_ne rfl rfl)
  next same => exact absurd same (n.lowered_ne rfl rfl)
  next => rw [n.readNumeral?_text]; rfl

/-- What is left of the point and what is right of it, together. -/
theorem value_eq_div :
    n.value = Binary.signed n.negative
      (rowValue 10 (n.whole ++ n.fraction) / 10 ^ n.fraction.length) := by
  have unit : (0 : ℚ) < 10 ^ n.fraction.length := by positivity
  rw [value, rowValue_append]
  push_cast
  rw [add_div, mul_div_cancel_right₀ _ unit.ne']

/-- A finite decimal that the numeral is read as is its rounding. -/
theorem isRounding_of_read? {x : Binary64} (read : Binary.read? .double n.text = some x)
    (finite : x.isFinite = true) :
    ∃ v, x.value? = some v ∧ Binary.IsRounding .double n.value v := by
  rw [read?_text] at read
  cases read
  obtain ⟨v, has⟩ := Binary.exists_value? finite
  exact ⟨v, has, n.value_eq_div ▸ Binary.isRounding_ofDecimal has⟩

/-- The numeral has no fraction and lies between two integers, the second one excluded. -/
def IsIntegerIn (low high : ℤ) : Prop := n.fraction = [] ∧ (low : ℚ) ≤ n.value ∧ n.value < high

theorem isIntegerIn_iff {low high : ℤ} :
    n.IsIntegerIn low high ↔ n.fraction = [] ∧ low ≤ n.integer ∧ n.integer < high := by
  refine and_congr_right fun none => ?_
  rw [n.value_of_whole none, Int.cast_le, Int.cast_lt]

/-- As a signed integer the numeral is read if the type holds it. -/
theorem read_int_text :
    (n.IsIntegerIn (-2 ^ 63) (2 ^ 63) ∧
        (LiteralType.int .w64).read n.text = .ok (.int (Int64.ofInt n.integer))) ∨
      (¬n.IsIntegerIn (-2 ^ 63) (2 ^ 63) ∧
        ∃ error, (LiteralType.int .w64).read n.text = .error error) := by
  have bound : ((1 <<< (Width.w64.bits - 1) : ℕ) : ℤ) = 2 ^ 63 := by decide
  rw [isIntegerIn_iff]
  simp only [LiteralType.read_int, readSigned?_text, bound]
  by_cases none : n.fraction = []
  · rw [if_pos none]
    dsimp only
    by_cases range : -2 ^ 63 ≤ n.integer ∧ n.integer < 2 ^ 63
    · exact .inl ⟨⟨none, range⟩, if_pos range⟩
    · exact .inr ⟨fun both => range both.2, _, if_neg range⟩
  · rw [if_neg none]
    exact .inr ⟨fun both => none both.1, _, rfl⟩

/-- As an unsigned integer the numeral is read if the type holds it and it has no sign. -/
theorem read_uint_text :
    (n.IsIntegerIn 0 (2 ^ 64) ∧ 0 ≤ n.integer ∧
        (LiteralType.uint .w64).read n.text = .ok (.uint (UInt64.ofNat n.integer.toNat))) ∨
      ((n.IsIntegerIn 0 (2 ^ 64) → n.value = 0) ∧
        ∃ error, (LiteralType.uint .w64).read n.text = .error error) := by
  have bound : 1 <<< Width.w64.bits = 2 ^ 64 := by decide
  rw [isIntegerIn_iff]
  simp only [LiteralType.read_uint, readMagnitude?_text, bound]
  by_cases plain : n.fraction = [] ∧ n.negative = false
  · rw [if_pos plain]
    have same : n.integer = rowValue 10 n.whole := by
      rw [integer, plain.2]
      rfl
    rw [same, Int.toNat_natCast]
    dsimp only
    by_cases range : rowValue 10 n.whole < 2 ^ 64
    · exact .inl ⟨⟨plain.1, by omega⟩, by omega, if_pos range⟩
    · exact .inr ⟨fun both => absurd (by exact_mod_cast both.2.2) range, _, if_neg range⟩
  · rw [if_neg plain]
    refine .inr ⟨fun both => ?_, _, rfl⟩
    have negative : n.negative = true := by simpa [both.1] using plain
    have opposite : n.integer = -rowValue 10 n.whole := by rw [integer, if_pos negative]
    rw [n.value_of_whole both.1]
    exact_mod_cast (by omega : n.integer = 0)

/-- A number that the numeral is read as: exactly, as an integer that the type holds, or rounded,
as a finite decimal. Zero is the only integer of the type that is ever read as a decimal. -/
def ReadAs {α : Type} (low high : ℤ) (literalOf : α → Literal) (number : α → ℤ)
    (literal : Literal) : Prop :=
  (∃ b, literal = literalOf b ∧ n.value = number b ∧ n.IsIntegerIn low high) ∨
    ∃ x v, literal = .float64 x ∧ x.value? = some v ∧ Binary.IsRounding .double n.value v ∧
      (n.IsIntegerIn low high → n.value = 0)

variable {n}

/-- A type that reads the numeral exactly, or not at all, makes it a number with the decimals. -/
theorem readAs_of_readNumber {α : Type} {low high : ℤ} {literalOf : α → Literal} {number : α → ℤ}
    {type : LiteralType} {literal : Literal} (read : type.readNumber n.text = .ok literal)
    (whole : type.read n.text = .ok literal →
      ∃ b, literal = literalOf b ∧ n.value = number b ∧ n.IsIntegerIn low high)
    (otherwise : ∀ error, type.read n.text = .error error → n.IsIntegerIn low high →
      n.value = 0) : n.ReadAs low high literalOf number literal := by
  unfold LiteralType.readNumber at read
  split at read
  next accepted =>
    cases read
    exact .inl (whole accepted)
  next error failed =>
    split at read
    next x decimal =>
      split at read
      next finite =>
        cases read
        obtain ⟨v, has, rounding⟩ := n.isRounding_of_read? decimal finite
        exact .inr ⟨x, v, rfl, has, rounding, otherwise error failed⟩
      next => cases read
    next => cases read

theorem readAs_int {literal : Literal}
    (read : (LiteralType.int .w64).readNumber n.text = .ok literal) :
    n.ReadAs (-2 ^ 63) (2 ^ 63) Literal.int Int64.toInt literal := by
  refine readAs_of_readNumber read (fun accepted => ?_) fun error failed => ?_
  · rcases n.read_int_text with ⟨holds, reads⟩ | ⟨-, error, fails⟩
    · obtain ⟨none, low, high⟩ := n.isIntegerIn_iff.mp holds
      rw [reads] at accepted
      cases accepted
      refine ⟨_, rfl, ?_, holds⟩
      rw [Int64.toInt_ofInt_of_le low high, n.value_of_whole none]
    · rw [fails] at accepted
      cases accepted
  · rcases n.read_int_text with ⟨-, reads⟩ | ⟨beyond, -⟩
    · rw [reads] at failed
      cases failed
    · exact fun holds => absurd holds beyond

theorem readAs_uint {literal : Literal}
    (read : (LiteralType.uint .w64).readNumber n.text = .ok literal) :
    n.ReadAs 0 (2 ^ 64) Literal.uint (fun b => b.toNat) literal := by
  refine readAs_of_readNumber read (fun accepted => ?_) fun error failed => ?_
  · rcases n.read_uint_text with ⟨holds, notNegative, reads⟩ | ⟨-, error, fails⟩
    · obtain ⟨none, -, high⟩ := n.isIntegerIn_iff.mp holds
      rw [reads] at accepted
      cases accepted
      refine ⟨_, rfl, ?_, holds⟩
      have small : n.integer.toNat < UInt64.size := by
        have size : UInt64.size = 2 ^ 64 := rfl
        omega
      rw [UInt64.toNat_ofNat_of_lt' small, n.value_of_whole none]
      exact_mod_cast (Int.toNat_of_nonneg notNegative).symm
    · rw [fails] at accepted
      cases accepted
  · rcases n.read_uint_text with ⟨-, -, reads⟩ | ⟨zero, -⟩
    · rw [reads] at failed
      cases failed
    · exact zero

end Numeral

end Sift
