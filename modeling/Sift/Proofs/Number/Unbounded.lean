import Mathlib.Logic.Basic
import Sift.Literal.Reading

/-!
# Integers of any size

An integer is read digit by digit into 64 bits. Whether it fits is seen on the way: a product or a sum
that does not fit stops the reading, and later digits only make the number greater
(`foldlM_pushDigit?`). So reading is reading a number of any size and asking for its bounds
afterwards: `LiteralType.read_int` and `LiteralType.read_uint`.
-/

namespace Sift

/-! ## Reading without bounds -/

/-- A non-empty run of digits in which single underscores stand between digits only. -/
def isDigitRun (radix : Nat) : List Char → Bool
  | [] => false
  | [c] => isDigitOf radix c
  | c :: '_' :: rest => isDigitOf radix c && isDigitRun radix rest
  | c :: d :: rest => isDigitOf radix c && isDigitRun radix (d :: rest)

/-- The number that a run of digits denotes. -/
def runValue (radix : Nat) (digits : List Char) : Nat :=
  rowValue radix (digits.filter (· ≠ '_'))

/-- The number that an unsigned integer text denotes, of any size. -/
def readMagnitude? (text : List Char) : Option Nat :=
  let (radix, digits) := splitRadix text
  if isDigitRun radix digits then some (runValue radix digits) else none

/-- The integer that a signed text denotes, of any size. -/
def readSigned? (text : List Char) : Option Int :=
  match splitSign text with
  | (true, digits) => (readMagnitude? digits).map fun n => -(n : Int)
  | (false, digits) => (readMagnitude? digits).map Int.ofNat

section

variable {radix : Nat}

/-! ## Form -/

theorem isDigitOf_underscore (small : radix ≤ 16) : isDigitOf radix '_' = false := by
  have value : digitValue '_' = 16 := by decide
  rw [isDigitOf, value]
  exact decide_eq_false (by omega)

theorem hasDoubleUnderscore_cons {c : Char} (other : c ≠ '_') (rest : List Char) :
    hasDoubleUnderscore (c :: rest) = hasDoubleUnderscore rest := by
  rw [hasDoubleUnderscore]
  exact fun _ same => absurd same other

theorem isWellFormed_underscore (rest : List Char) : isWellFormed radix ('_' :: rest) = false := by
  simp [isWellFormed]

/-- A single underscore behind a digit may be left out of the form. -/
theorem isWellFormed_separated {c : Char} (other : c ≠ '_') (rest : List Char) :
    isWellFormed radix (c :: '_' :: rest) = (isDigitOf radix c && isWellFormed radix rest) := by
  cases rest with
  | nil => simp [isWellFormed]
  | cons d rest =>
    by_cases underscore : d = '_'
    · subst underscore
      simp [isWellFormed, hasDoubleUnderscore, hasDoubleUnderscore_cons other]
    · have single : hasDoubleUnderscore ('_' :: d :: rest) = hasDoubleUnderscore (d :: rest) := by
        rw [hasDoubleUnderscore]
        exact fun _ _ same => underscore (List.cons.inj same).1
      grind [isWellFormed, hasDoubleUnderscore_cons]

/-- So may a digit in front of another one. -/
theorem isWellFormed_digits {c d : Char} (other : c ≠ '_') (next : d ≠ '_') (rest : List Char) :
    isWellFormed radix (c :: d :: rest) =
      (isDigitOf radix c && isWellFormed radix (d :: rest)) := by
  grind [isWellFormed, hasDoubleUnderscore_cons]

/-- The form of an integer: single underscores stand between digits only. -/
theorem isWellFormed_eq (small : radix ≤ 16) (body : List Char) :
    isWellFormed radix body = isDigitRun radix body := by
  have noDigit := isDigitOf_underscore small
  fun_induction isDigitRun radix body with
  | case1 => rfl
  | case2 c =>
    by_cases underscore : c = '_'
    · rw [underscore, noDigit, isWellFormed_underscore]
    · simp [isWellFormed, hasDoubleUnderscore, beq_eq_false_iff_ne.mpr underscore, bne]
  | case3 c rest ih =>
    rw [← ih]
    by_cases underscore : c = '_'
    · rw [underscore, noDigit, isWellFormed_underscore, Bool.false_and]
    · exact isWellFormed_separated underscore rest
  | case4 c d rest other ih =>
    rw [← ih]
    by_cases underscore : c = '_'
    · rw [underscore, noDigit, isWellFormed_underscore, Bool.false_and]
    · exact isWellFormed_digits underscore other rest

/-! ## Digits -/

theorem word?_toNat {n : Nat} {word : UInt64} (fits : word? n = some word) : word.toNat = n := by
  rw [word?] at fits
  split at fits
  next small =>
    cases fits
    exact UInt64.toNat_ofNat_of_lt' small
  next => cases fits

theorem word?_toNat_self (word : UInt64) : word? word.toNat = some word := by
  rw [word?, if_pos word.toNat_lt, UInt64.ofNat_toNat]

/-- What is greater than what does not fit, does not fit either. -/
theorem word?_eq_none_of_le {m n : Nat} (great : word? m = none) (le : m ≤ n) :
    word? n = none := by
  rw [word?] at great ⊢
  split at great
  next => cases great
  next beyond => exact if_neg fun small => beyond (Nat.lt_of_le_of_lt le small)

/-- A product that does not fit does not fit with a digit behind it. -/
theorem pushDigit?_eq (n : UInt64) (digit : Char) :
    pushDigit? radix n digit = word? (radix * n.toNat + digitValue digit) := by
  rw [pushDigit?]
  cases product : word? (radix * n.toNat) with
  | none => exact (word?_eq_none_of_le product (Nat.le_add_right _ _)).symm
  | some shifted =>
    rw [← word?_toNat product]
    rfl

/-- Digits make a number greater. -/
theorem le_foldl_digits (positive : 0 < radix) (digits : List Char) (n : Nat) :
    n ≤ digits.foldl (fun value c => radix * value + digitValue c) n := by
  induction digits generalizing n with
  | nil => exact Nat.le_refl n
  | cons digit rest ih =>
    have step : n ≤ radix * n + digitValue digit :=
      Nat.le_trans (Nat.le_mul_of_pos_left n positive) (Nat.le_add_right _ _)
    exact Nat.le_trans step (ih _)

/-- Reading digit by digit into 64 bits succeeds with the number that the digits denote, if that fits. -/
theorem foldlM_pushDigit? (positive : 0 < radix) (digits : List Char) (n : UInt64) :
    digits.foldlM (pushDigit? radix) n =
      word? (digits.foldl (fun value c => radix * value + digitValue c) n.toNat) := by
  induction digits generalizing n with
  | nil => exact (word?_toNat_self n).symm
  | cons digit rest ih =>
    rw [List.foldlM_cons, List.foldl_cons, pushDigit?_eq]
    cases step : word? (radix * n.toNat + digitValue digit) with
    | none => exact (word?_eq_none_of_le step (le_foldl_digits positive rest _)).symm
    | some next =>
      rw [← word?_toNat step]
      exact ih next

end

/-! ## Types -/

theorem splitRadix_bounds (text : List Char) :
    0 < (splitRadix text).1 ∧ (splitRadix text).1 ≤ 16 := by
  unfold splitRadix
  split <;> simp

/-- An integer is read into 64 bits exactly if it can be read without bounds and fits. -/
theorem readMagnitude_eq (type : LiteralType) (raw : String) (text : List Char) :
    readMagnitude type raw text =
      match readMagnitude? text with
      | none => .error (.malformed type raw)
      | some n =>
        if n < UInt64.size then .ok (UInt64.ofNat n) else .error (.outOfRange type raw) := by
  have bounds := splitRadix_bounds text
  rw [readMagnitude, readMagnitude?]
  generalize splitRadix text = split at bounds
  obtain ⟨radix, body⟩ := split
  dsimp only at bounds ⊢
  rw [isWellFormed_eq bounds.2, foldlM_pushDigit? bounds.1]
  cases isDigitRun radix body with
  | false => rfl
  | true =>
    rw [if_pos rfl, if_pos rfl, runValue, rowValue, show UInt64.toNat 0 = 0 from rfl]
    generalize List.foldl _ 0 _ = n
    dsimp only
    by_cases fits : n < UInt64.size
    · rw [word?, if_pos fits, if_pos fits]
    · rw [word?, if_neg fits, if_neg fits]

/-- The machine word that a signed type is bounded by. -/
theorem toNat_limit (width : Width) :
    ((1 : UInt64) <<< UInt64.ofNat (width.bits - 1)).toNat = 1 <<< (width.bits - 1) := by
  cases width <;> rfl

theorem readSigned?_eq (text : List Char) :
    readSigned? text = (readMagnitude? (splitSign text).2).map fun n : Nat =>
      if (splitSign text).1 then -(n : Int) else n := by
  rw [readSigned?]
  obtain ⟨negative, digits⟩ := splitSign text
  cases negative with
  | true =>
    dsimp only
    cases readMagnitude? digits <;> rfl
  | false => rfl

namespace LiteralType

/-- A signed integer is read as one of any size, which has to be in the range of the type. -/
theorem read_int (width : Width) (raw : String) :
    (int width).read raw =
      match readSigned? raw.toList with
      | none => .error (.malformed (int width) raw)
      | some n =>
        let bound : Nat := 1 <<< (width.bits - 1)
        if -bound ≤ n ∧ n < bound then .ok (.int (Int64.ofInt n))
        else .error (.outOfRange (int width) raw) := by
  have bounds : 0 < 1 <<< (width.bits - 1) ∧ 1 <<< (width.bits - 1) < UInt64.size := by
    cases width <;> decide
  have limit := toNat_limit width
  rw [read, readSigned, readSigned?_eq]
  obtain ⟨negative, digits⟩ := splitSign raw.toList
  dsimp only
  rw [readMagnitude_eq]
  generalize 1 <<< UInt64.ofNat (width.bits - 1) = word at limit
  generalize 1 <<< (width.bits - 1) = bound at bounds limit
  cases readMagnitude? digits with
  | none => rfl
  | some n =>
    dsimp only [Option.map_some]
    by_cases fits : n < UInt64.size
    · have toNat := UInt64.toNat_ofNat_of_lt' fits
      rw [if_pos fits]
      cases negative with
      | true =>
        have beyond : word < UInt64.ofNat n ↔ ¬(-(bound : Int) ≤ -(n : Int) ∧ -(n : Int) < bound) := by
          rw [UInt64.lt_iff_toNat_lt, limit, toNat]
          omega
        refine (if_congr beyond rfl ?_).trans (ite_not _ _ _)
        rw [toNat]
        rfl
      | false =>
        have beyond : word ≤ UInt64.ofNat n ↔ ¬(-(bound : Int) ≤ (n : Int) ∧ (n : Int) < bound) := by
          rw [UInt64.le_iff_toNat_le, limit, toNat]
          omega
        have same : (UInt64.ofNat n).toInt64 = Int64.ofInt n :=
          (congrArg (fun bits => Int64.ofUInt64 ⟨bits⟩) (BitVec.ofInt_natCast 64 n)).symm
        refine (if_congr beyond rfl ?_).trans (ite_not _ _ _)
        rw [same]
        rfl
    · have beyond : ¬(-(bound : Int) ≤ (if negative then -(n : Int) else n) ∧
          (if negative then -(n : Int) else n) < bound) := by
        cases negative <;> simp <;> omega
      rw [if_neg fits]
      exact (if_neg beyond).symm

/-- An unsigned integer is read as one of any size, which has to be in the range of the type. -/
theorem read_uint (width : Width) (raw : String) :
    (uint width).read raw =
      match readMagnitude? raw.toList with
      | none => .error (.malformed (uint width) raw)
      | some n =>
        if n < 1 <<< width.bits then .ok (.uint (UInt64.ofNat n))
        else .error (.outOfRange (uint width) raw) := by
  have small : 1 <<< width.bits ≤ UInt64.size := by cases width <;> decide
  rw [read, readUnsigned, readMagnitude_eq]
  cases readMagnitude? raw.toList with
  | none => rfl
  | some n =>
    dsimp only
    by_cases fits : n < UInt64.size
    · have beyond : (width.bits < 64 ∧ (1 : UInt64) <<< UInt64.ofNat width.bits ≤ UInt64.ofNat n) ↔
          ¬n < 1 <<< width.bits := by
        rw [UInt64.le_iff_toNat_le, UInt64.toNat_ofNat_of_lt' fits]
        cases width with
        | w64 => exact ⟨fun narrow => absurd narrow.1 (by decide), fun great => absurd fits great⟩
        | _ => exact ⟨fun both => Nat.not_lt.mpr both.2, fun great => ⟨by decide, Nat.not_lt.mp great⟩⟩
      rw [if_pos fits]
      exact (if_congr beyond rfl rfl).trans (ite_not _ _ _)
    · rw [if_neg fits, if_neg fun below => fits (Nat.lt_of_lt_of_le below small)]
      rfl

end LiteralType

end Sift
