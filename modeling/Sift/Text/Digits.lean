/-!
# Digits

The values of digits and of rows of digits, for the radixes up to sixteen.
-/

namespace Sift

/-- The value of a digit in either case, and sixteen for every other character. -/
def digitValue (c : Char) : Nat :=
  if c.isDigit then c.toNat - '0'.toNat
  else if 'a' ≤ c ∧ c ≤ 'f' then c.toNat - 'a'.toNat + 10
  else if 'A' ≤ c ∧ c ≤ 'F' then c.toNat - 'A'.toNat + 10
  else 16

/-- Whether a character is a digit of a radix, which is at most sixteen. -/
def isDigitOf (radix : Nat) (c : Char) : Bool := digitValue c < radix

/-- The number that a row of digits denotes in a radix. -/
def rowValue (radix : Nat) (digits : List Char) : Nat :=
  digits.foldl (fun value c => radix * value + digitValue c) 0

/-- The value of a hexadecimal digit. -/
def hexDigit? (c : Char) : Option Nat :=
  if isDigitOf 16 c then some (digitValue c) else none

/-- The number that a text denotes: digits after an optional plus, within 64 bits. -/
def natural64? (text : String) : Option Nat :=
  let digits := match text.toList with
    | '+' :: rest => rest
    | rest => rest
  let value := rowValue 10 digits
  if digits ≠ [] ∧ digits.all Char.isDigit ∧ value < 1 <<< 64 then some value else none

end Sift
