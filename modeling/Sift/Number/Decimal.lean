import Sift.Number.Binary
import Sift.Text.Digits

/-!
# Decimal texts of binary numbers

Reading takes an optional sign and then digits with an optional point and exponent, or one of
the words `inf`, `infinity` and `nan` in any case; the result is the nearest number of the
format. Writing starts from the fewest digits that read back as the same number, the nearest
such digits if several do, and leaves all else (where positional writing ends, how a whole
number and an exponent look) to a `DecimalLayout`.
-/

namespace Sift

/-! ## Reading -/

/-- Splits off one leading sign; the flag tells whether it was a minus. -/
def splitSign : List Char → Bool × List Char
  | '-' :: rest => (true, rest)
  | '+' :: rest => (false, rest)
  | rest => (false, rest)

/-- The exponent part of a numeral: nothing, or `e` with a signed row of digits. -/
def readExponent? : List Char → Option Int
  | [] => some 0
  | mark :: rest =>
    let (negative, digits) := splitSign rest
    if mark.toLower = 'e' ∧ digits ≠ [] ∧ digits.all Char.isDigit then
      some (if negative then -(rowValue 10 digits : Int) else rowValue 10 digits)
    else none

/-- An unsigned numeral as its digits and the power of ten of the last one. -/
def readNumeral? (text : List Char) : Option (Nat × Int) := do
  let whole := text.takeWhile Char.isDigit
  let (fraction, rest) := match text.dropWhile Char.isDigit with
    | '.' :: rest => (rest.takeWhile Char.isDigit, rest.dropWhile Char.isDigit)
    | rest => ([], rest)
  if whole = [] ∧ fraction = [] then none
  let exponent ← readExponent? rest
  some (rowValue 10 (whole ++ fraction), exponent - fraction.length)

/-- The number nearest to the one a decimal text denotes. -/
def Binary.read? (f : BinaryFormat) (text : String) : Option (Binary f) :=
  let (negative, body) := splitSign text.toList
  match String.ofList (body.map Char.toLower) with
  | "inf" | "infinity" => some (.infinity negative)
  | "nan" => some .nan
  | _ => (readNumeral? body).map fun (digits, exponent) => .ofDecimal negative digits exponent

/-! ## Fewest digits -/

/-- A positive decimal: `0.d₁d₂… * 10 ^ point`. -/
structure DecimalDigits where
  digits : List Char
  point : Int
deriving DecidableEq, Repr

/-- The least `point` with `num / den < 10 ^ point`, for a positive ratio. -/
def decimalPoint (num den : Nat) : Int :=
  if den ≤ num then (Nat.toDigits 10 (num / den)).length
  else
    let places := (Nat.toDigits 10 (den / num)).length
    if num * powerOfTen (places - 1) < den then 1 - places else 2 - places

/-- The decimal on the grid of `10 ^ exponent` that lies nearest to `value * scale / unit` among
those within the given ends, both counted in `scale / unit`. A tie goes up. -/
def nearestOnGrid (value low high scale unit : Nat) (closed : Bool) : Option Nat :=
  let below := value * scale / unit
  let rest := value * scale % unit
  let within (candidate : Nat) : Bool :=
    if closed then low * scale ≤ candidate * unit && candidate * unit ≤ high * scale
    else low * scale < candidate * unit && candidate * unit < high * scale
  match within below, within (below + 1) with
  | true, true => some (if 2 * rest < unit then below else below + 1)
  | true, false => some below
  | false, true => some (below + 1)
  | false, false => none

/-- The digits of a whole number without its trailing zeros. -/
def significantDigits (n : Nat) : List Char :=
  ((Nat.toDigits 10 n).reverse.dropWhile (· = '0')).reverse

/-- The fewest digits that read back as the number `significand * 2 ^ shift` of format `f`,
nearest to it among equally many. The ends of what rounds to it lie half a unit away, a quarter
below the least significand of a binade, and belong to it when the significand is even. -/
def fewestDigits (f : BinaryFormat) (significand : Nat) (shift : Int) : DecimalDigits :=
  let value := 4 * significand
  let low := if significand = 1 <<< (f.precision - 1) ∧ f.minShift < shift then value - 1
    else value - 2
  let quarters := shift - 2
  let point := decimalPoint (value <<< quarters.toNat) (1 <<< (-quarters).toNat)
  let onGrid (count : Nat) : Option DecimalDigits :=
    let exponent := point - count
    let scale := powerOfTen (-exponent).toNat <<< quarters.toNat
    let unit := powerOfTen exponent.toNat <<< (-quarters).toNat
    (nearestOnGrid value low (value + 2) scale unit (significand % 2 = 0)).map fun n =>
      ⟨significantDigits n, exponent + (Nat.toDigits 10 n).length⟩
  ((List.range 17).findSome? fun i => onGrid (i + 1)).getD ⟨['0'], 1⟩

/-! ## Layouts -/

/-- How the digits of a number are laid out. -/
structure DecimalLayout where
  /-- The positions of the point at which no exponent is written, both ends included;
  `none` means that none ever is. -/
  positional : Option (Int × Int)
  /-- What follows a whole number. -/
  wholeMark : String
  /-- What stands before an exponent that is not negative. -/
  exponentSign : String
deriving DecidableEq, Repr

namespace DecimalLayout

/-- Plain text: never an exponent, and nothing after a whole number. -/
def plain : DecimalLayout := ⟨none, "", ""⟩

/-- Diagnostic text: a whole number ends in `.0`, and an exponent is written below `1e-4` and
from `1e16` on. -/
def diagnostic : DecimalLayout := ⟨some (-3, 16), ".0", ""⟩

/-- Document text: a whole number ends in `.0`, an exponent is written below `1e-5` and from
`1e16` on, and it always shows its sign. -/
def document : DecimalLayout := ⟨some (-4, 16), ".0", "+"⟩

/-- Whether digits with this point are written without an exponent. -/
def isPositional (layout : DecimalLayout) (point : Int) : Bool :=
  match layout.positional with
  | none => true
  | some (first, last) => first ≤ point && point ≤ last

/-- The text of a positive decimal, or of zero given as the digit `0` before the point. -/
def render (layout : DecimalLayout) (x : DecimalDigits) : String :=
  let zeros (n : Int) : List Char := List.replicate n.toNat '0'
  if layout.isPositional x.point then
    if x.point ≤ 0 then String.ofList ('0' :: '.' :: zeros (-x.point) ++ x.digits)
    else if x.digits.length ≤ x.point then
      String.ofList (x.digits ++ zeros (x.point - x.digits.length)) ++ layout.wholeMark
    else
      let whole := x.point.toNat
      String.ofList (x.digits.take whole ++ '.' :: x.digits.drop whole)
  else
    let mantissa := match x.digits with
      | first :: second :: rest => first :: '.' :: second :: rest
      | digits => digits
    let exponent := x.point - 1
    let sign := if exponent < 0 then "" else layout.exponentSign
    String.ofList mantissa ++ "e" ++ sign ++ toString exponent

end DecimalLayout

/-- The decimal text of a number in a layout. -/
def Binary.render {f : BinaryFormat} (layout : DecimalLayout) (x : Binary f) : String :=
  let sign (negative : Bool) : String := if negative then "-" else ""
  match x with
  | .nan => "NaN"
  | .infinity negative => sign negative ++ "inf"
  | .finite negative significand shift =>
    let digits := if significand = 0 then ⟨['0'], 1⟩ else fewestDigits f significand shift
    sign negative ++ layout.render digits

end Sift
