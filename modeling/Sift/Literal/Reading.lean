import Sift.Literal.Basic

/-!
# Reading literals

`LiteralType.read` reads a text as a literal of a type. An integer may name its radix by `0x`,
`0o` or `0b` or by a leading zero, which stands for octal, and single underscores may stand
between its digits; a signed one may carry a sign. The digits are read into 64 bits, and it is an
error when they do not fit. A text that denotes an integer beyond the width of the type is well
formed but out of range, however many digits it has.
-/

namespace Sift

/-! ## Integers -/

/-- The radix that an unsigned integer text selects, and its digits. -/
def splitRadix : List Char → Nat × List Char
  | '0' :: 'x' :: rest | '0' :: 'X' :: rest => (16, rest)
  | '0' :: 'o' :: rest | '0' :: 'O' :: rest => (8, rest)
  | '0' :: 'b' :: rest | '0' :: 'B' :: rest => (2, rest)
  | '0' :: c :: rest => (8, c :: rest)
  | digits => (10, digits)

/-- Whether two underscores stand next to each other. -/
def hasDoubleUnderscore : List Char → Bool
  | '_' :: '_' :: _ => true
  | _ :: rest => hasDoubleUnderscore rest
  | [] => false

/-- Whether an integer may be written so behind its radix: it is not empty, underscores stand
neither at its ends nor next to each other, and the rest are digits. -/
def isWellFormed (radix : Nat) (body : List Char) : Bool :=
  !body.isEmpty && body.head? != some '_' && body.getLast? != some '_' &&
    !hasDoubleUnderscore body && body.all fun c => c == '_' || isDigitOf radix c

/-- A number in 64 bits, if it fits. -/
def word? (n : Nat) : Option UInt64 := if n < UInt64.size then some (UInt64.ofNat n) else none

/-- Puts a digit behind a number, unless the product or the sum outgrows 64 bits. -/
def pushDigit? (radix : Nat) (n : UInt64) (digit : Char) : Option UInt64 := do
  let shifted ← word? (radix * n.toNat)
  word? (shifted.toNat + digitValue digit)

/-- The number that an unsigned integer text denotes, as part of a text to be read as a type. -/
def readMagnitude (type : LiteralType) (raw : String) (text : List Char) :
    Except LiteralError UInt64 :=
  let (radix, body) := splitRadix text
  if isWellFormed radix body then
    match (body.filter (· ≠ '_')).foldlM (pushDigit? radix) 0 with
    | some n => .ok n
    | none => .error (.outOfRange type raw)
  else .error (.malformed type raw)

/-- Reads a signed integer of a width. There is one more number below zero than above it. -/
def readSigned (width : Width) (raw : String) : Except LiteralError Literal := do
  let (negative, digits) := splitSign raw.toList
  let magnitude ← readMagnitude (.int width) raw digits
  let limit : UInt64 := 1 <<< UInt64.ofNat (width.bits - 1)
  if negative then
    if limit < magnitude then throw (.outOfRange (.int width) raw)
    else return .int (Int64.ofInt (-(magnitude.toNat : Int)))
  else
    if limit ≤ magnitude then throw (.outOfRange (.int width) raw)
    else return .int magnitude.toInt64

/-- Reads an unsigned integer of a width. In 64 bits everything fits that could be read. -/
def readUnsigned (width : Width) (raw : String) : Except LiteralError Literal := do
  let magnitude ← readMagnitude (.uint width) raw raw.toList
  if width.bits < 64 ∧ 1 <<< UInt64.ofNat width.bits ≤ magnitude then
    throw (.outOfRange (.uint width) raw)
  else return .uint magnitude

/-! ## All types -/

/-- The spellings of a truth value. -/
def readBool? (raw : String) : Option Bool :=
  if ["1", "t", "T", "TRUE", "true", "True"].contains raw then some true
  else if ["0", "f", "F", "FALSE", "false", "False"].contains raw then some false
  else none

namespace LiteralType

/-- Reads a text as a literal of a type. A 32-bit number that only the narrower format makes
infinite is out of range. -/
def read (type : LiteralType) (raw : String) : Except LiteralError Literal :=
  match type with
  | bool =>
    match readBool? raw with
    | some b => .ok (.bool b)
    | none => .error (.malformed type raw)
  | int width => readSigned width raw
  | uint width => readUnsigned width raw
  | float32 =>
    match Binary.read? .single raw, Binary.read? .double raw with
    | some x, some wide =>
      if x.isInfinite && wide.isFinite then .error (.outOfRange type raw)
      else .ok (.float32 x)
    | _, _ => .error (.malformed type raw)
  | float64 =>
    match Binary.read? .double raw with
    | some x => .ok (.float64 x)
    | none => .error (.malformed type raw)
  | string => .ok (.string raw)

/-- Reads a text as an integer literal or, failing that, as a finite decimal. When it is neither,
the error is that of the integer. -/
def readNumber (type : LiteralType) (raw : String) : Except LiteralError Literal :=
  match type.read raw with
  | .ok literal => .ok literal
  | .error error =>
    match Binary.read? .double raw with
    | some x => if x.isFinite then .ok (.float64 x) else .error error
    | none => .error error

end LiteralType

end Sift
