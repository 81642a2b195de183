/-!
# Binary floating-point numbers

A datum carries numbers in two interchange formats, 32 and 64 bits wide. Both are modelled
exactly: a finite number is a sign, a whole significand and a power of two, and every operation
first computes the exact ratio and then rounds it once, to nearest with ties to the even
significand. Comparison never rounds: it brings both significands to the smaller power of two
and compares whole numbers, so `-0` equals `0` and nothing is comparable with a NaN.
-/

namespace Sift

/-- A power of ten, as the core library raises numbers, whatever other powers are in scope. -/
def powerOfTen (n : Nat) : Nat := (@instHPow Nat Nat instPowNat).hPow 10 n

/-! ## Formats -/

/-- A binary interchange format, by the bits of its significand (the hidden one included) and
the bits of its exponent field. -/
structure BinaryFormat where
  precision : Nat
  exponentBits : Nat
deriving DecidableEq, Repr

namespace BinaryFormat

/-- The 32-bit format. -/
def single : BinaryFormat := ⟨24, 8⟩

/-- The 64-bit format. -/
def double : BinaryFormat := ⟨53, 11⟩

/-- The power of two of the least subnormal number. -/
def minShift (f : BinaryFormat) : Int :=
  3 - (1 <<< (f.exponentBits - 1) : Nat) - f.precision

/-- The power of two of the greatest finite numbers. -/
def maxShift (f : BinaryFormat) : Int := (1 <<< (f.exponentBits - 1) : Nat) - f.precision

end BinaryFormat

/-! ## Numbers -/

/-- A number of format `f`; a finite one is `significand * 2 ^ shift` under its sign. -/
inductive Binary (f : BinaryFormat) where
  | nan
  | infinity (negative : Bool)
  | finite (negative : Bool) (significand : Nat) (shift : Int)
deriving DecidableEq, Repr

/-- A 32-bit number. -/
abbrev Binary32 := Binary .single

/-- A 64-bit number. -/
abbrev Binary64 := Binary .double

namespace Binary

variable {f : BinaryFormat}

/-- Zero under a sign. -/
def zero (negative : Bool) : Binary f := .finite negative 0 f.minShift

def isFinite : Binary f → Bool
  | .finite .. => true
  | _ => false

def isInfinite : Binary f → Bool
  | .infinity _ => true
  | _ => false

def negate : Binary f → Binary f
  | .nan => .nan
  | .infinity negative => .infinity !negative
  | .finite negative significand shift => .finite (!negative) significand shift

/-! ## Rounding -/

/-- The whole number nearest to `num / den`, a tie going to the even one. -/
def roundHalfEven (num den : Nat) : Nat :=
  let quotient := num / den
  let rest := 2 * (num % den)
  if den < rest || (rest == den && quotient % 2 == 1) then quotient + 1 else quotient

/-- `num / den` divided by `2 ^ shift`, still as a ratio. -/
def scaleDown (num den : Nat) (shift : Int) : Nat × Nat :=
  (num <<< (-shift).toNat, den <<< shift.toNat)

/-- The power of two at which the significand of `num / den` is rounded: the one that leaves
`precision` bits before the point, or the least of the format. -/
def roundingShift (f : BinaryFormat) (num den : Nat) : Int :=
  let guess := max f.minShift ((Nat.log2 num : Int) - Nat.log2 den - f.precision)
  let (n, d) := scaleDown num den guess
  if n / d < 1 <<< f.precision then guess else guess + 1

/-- The number nearest to `num / den` under a sign; ties go to the even significand, and what
rounds beyond the greatest finite number is infinite. -/
def ofRatio (negative : Bool) (num den : Nat) : Binary f :=
  if num = 0 then zero negative else
    let shift := roundingShift f num den
    let (n, d) := scaleDown num den shift
    let rounded := roundHalfEven n d
    let (significand, shift) :=
      if rounded < 1 <<< f.precision then (rounded, shift) else (rounded / 2, shift + 1)
    if f.maxShift < shift then .infinity negative else .finite negative significand shift

/-- The number nearest to a whole number. -/
def ofInt (n : Int) : Binary f := ofRatio (n < 0) n.natAbs 1

/-- The number nearest to `digits * 10 ^ exponent` under a sign. Powers of ten that decide the
result on their own are never computed. -/
def ofDecimal (negative : Bool) (digits : Nat) (exponent : Int) : Binary f :=
  let magnitude := exponent + (Nat.toDigits 10 digits).length
  if digits = 0 ∨ magnitude < -400 then zero negative
  else if 400 < magnitude then .infinity negative
  else ofRatio negative (digits * powerOfTen exponent.toNat) (powerOfTen (-exponent).toNat)

/-- The same number in another format, rounded if it has to be. -/
def convert {g : BinaryFormat} : Binary f → Binary g
  | .nan => .nan
  | .infinity negative => .infinity negative
  | .finite negative significand shift =>
    ofRatio negative (significand <<< shift.toNat) (1 <<< (-shift).toNat)

/-- The product of two finite numbers, rounded once; anything else has no product here. -/
def mul : Binary f → Binary f → Binary f
  | .finite a m s, .finite b n t =>
    ofRatio (a != b) ((m * n) <<< (s + t).toNat) (1 <<< (-(s + t)).toNat)
  | _, _ => .nan

/-- The quotient of two finite numbers, rounded once; there is none by zero. -/
def div : Binary f → Binary f → Binary f
  | .finite a m s, .finite b n t =>
    if n = 0 then .nan
    else ofRatio (a != b) (m <<< (s - t).toNat) (n <<< (t - s).toNat)
  | _, _ => .nan

/-! ## Order -/

/-- A finite number as a whole multiple of `2 ^ unit`, for a `unit` not above its shift. -/
def scaled (negative : Bool) (significand : Nat) (shift unit : Int) : Int :=
  let magnitude : Int := significand <<< (shift - unit).toNat
  if negative then -magnitude else magnitude

/-- How two numbers are ordered; a NaN is ordered with nothing. -/
def order : Binary f → Binary f → Option Ordering
  | .nan, _ => none
  | _, .nan => none
  | .infinity a, .infinity b => some (if a = b then .eq else if a then .lt else .gt)
  | .infinity a, .finite .. => some (if a then .lt else .gt)
  | .finite .., .infinity b => some (if b then .gt else .lt)
  | .finite a m s, .finite b n t =>
    some (compare (scaled a m s (min s t)) (scaled b n t (min s t)))

/-- Numbers are equal when they are ordered as equal: `0` equals `-0`, a NaN equals nothing. -/
def equals (a b : Binary f) : Bool := a.order b == some .eq

/-! ## Bits -/

/-- The interchange encoding, sign first, then exponent field, then fraction. -/
def toBits (x : Binary f) : Nat :=
  let fraction := f.precision - 1
  let sign (negative : Bool) : Nat := if negative then 1 <<< (f.exponentBits + fraction) else 0
  let topField := (1 <<< f.exponentBits - 1) <<< fraction
  match x with
  | .nan => topField + 1 <<< (fraction - 1)
  | .infinity negative => sign negative + topField
  | .finite negative significand shift =>
    if significand < 1 <<< fraction then sign negative + significand
    else
      let field := (shift - f.minShift + 1).toNat
      sign negative + field <<< fraction + (significand - 1 <<< fraction)

end Binary

end Sift
