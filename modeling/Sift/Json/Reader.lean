import Sift.Json.Basic

/-!
# Reading JSON

The reader is strict: nothing but blanks around a document, no control characters in texts, no
half of a surrogate pair, no trailing commas, and at most `maxLevels` arrays and objects inside
each other. Of equal keys the last one counts.

A number that is not whole is read in the manner that `ofParts` states: its leading digits that
fit 64 bits become a significand, which is rounded once and then multiplied or divided by a
rounded power of ten. A number beyond the greatest finite one is refused.
-/

namespace Sift.Json

/-- A reader takes a prefix off a text and gives the rest with what it read. -/
abbrev Reading (α : Type) := List Char → Option (α × List Char)

/-- A text without the blanks it starts with. -/
def skipBlanks : List Char → List Char :=
  List.dropWhile fun c => c = ' ' || c = '\n' || c = '\t' || c = '\r'

/-- Takes a given word off a text. -/
def word (expected : List Char) (value : Json) : Reading Json := fun text =>
  if expected.isPrefixOf text then some (value, text.drop expected.length) else none

/-! ## Texts -/

/-- Four hexadecimal digits. -/
def unit16 : Reading Nat
  | a :: b :: c :: d :: rest => do
    some (((← hexDigit? a) * 16 + (← hexDigit? b)) * 256 + (← hexDigit? c) * 16 + (← hexDigit? d),
      rest)
  | _ => none

/-- The character that the digits after `\u` stand for; the first half of a surrogate pair takes
a second escape with it. -/
def unicodeEscape : Reading Char := fun text => do
  let (first, rest) ← unit16 text
  if 0xD800 ≤ first ∧ first < 0xDC00 then
    match rest with
    | '\\' :: 'u' :: rest =>
      let (second, rest) ← unit16 rest
      if 0xDC00 ≤ second ∧ second < 0xE000 then
        some (Char.ofNat (0x10000 + (first - 0xD800) * 0x400 + (second - 0xDC00)), rest)
      else none
    | _ => none
  else if 0xDC00 ≤ first ∧ first < 0xE000 then none
  else some (Char.ofNat first, rest)

/-- The character that a letter after a backslash stands for. -/
def simpleEscape? (c : Char) : Option Char :=
  [('"', '"'), ('\\', '\\'), ('/', '/'), ('b', '\x08'), ('f', '\x0c'), ('n', '\n'), ('r', '\r'),
   ('t', '\t')].lookup c

/-- The rest of a text after its opening quote, `done` holding its characters in reverse. Every
step takes at least one character, so as many steps as there are characters suffice. -/
def textBody : Nat → List Char → Reading String
  | 0, _, _ => none
  | _ + 1, _, [] => none
  | _ + 1, done, '"' :: rest => some (String.ofList done.reverse, rest)
  | steps + 1, done, '\\' :: 'u' :: rest => do
    let (c, rest) ← unicodeEscape rest
    textBody steps (c :: done) rest
  | steps + 1, done, '\\' :: c :: rest => do textBody steps ((← simpleEscape? c) :: done) rest
  | steps + 1, done, c :: rest =>
    if c.toNat < 32 ∨ c = '\\' then none else textBody steps (c :: done) rest

/-- A text between quotes. -/
def text (steps : Nat) : Reading String
  | '"' :: rest => textBody steps [] rest
  | _ => none

/-! ## Numbers -/

/-- Appends digits to a significand as long as it fits 64 bits; also tells how many fit. -/
def fitDigits (significand : Nat) : List Char → Nat × Nat
  | [] => (significand, 0)
  | c :: rest =>
    let next := 10 * significand + digitValue c
    if next < 1 <<< 64 then
      let (result, taken) := fitDigits next rest
      (result, taken + 1)
    else (significand, 0)

/-- The number `significand * 10 ^ exponent`, one rounding a step: the significand, the power of
ten and each product or quotient. An exponent beyond the greatest power is worked off in steps of
308, after three of which nothing is left of any significand. -/
def ofParts (significand : Nat) (exponent : Int) : Option Binary64 :=
  go 4 (.ofInt significand) exponent
where
  go : Nat → Binary64 → Int → Option Binary64
    | 0, _, _ => some (.zero false)
    | steps + 1, x, exponent =>
      if exponent.natAbs ≤ 308 then
        let power := Binary.ofDecimal false 1 exponent.natAbs
        if 0 ≤ exponent then
          let product := x.mul power
          if product.isInfinite then none else some product
        else some (x.div power)
      else if x.equals (.zero false) then some x
      else if 0 ≤ exponent then none
      else go steps (x.div (.ofDecimal false 1 308)) (exponent + 308)

/-- An exponent with its sign, or nothing if there is none. -/
def exponentPart : List Char → Option (Option (Bool × Nat) × List Char)
  | mark :: rest =>
    if mark = 'e' ∨ mark = 'E' then
      let (negative, rest) := splitSign rest
      let digits := rest.takeWhile Char.isDigit
      if digits = [] then none
      else some (some (negative, rowValue 10 digits), rest.dropWhile Char.isDigit)
    else some (none, mark :: rest)
  | [] => some (none, [])

/-- The digits after a point, or nothing if there is no point. -/
def fractionPart : List Char → Option (Option (List Char) × List Char)
  | '.' :: rest =>
    let digits := rest.takeWhile Char.isDigit
    if digits = [] then none else some (some digits, rest.dropWhile Char.isDigit)
  | rest => some (none, rest)

/-- A whole number that fits 64 bits. Minus zero does not count as whole. -/
def wholeNumber (negative : Bool) (magnitude : Nat) : Json :=
  if negative then
    if 0 < magnitude ∧ magnitude ≤ 1 <<< 63 then .int (Int64.ofInt (-magnitude))
    else .float (Binary.ofInt magnitude).negate
  else if magnitude < 1 <<< 63 then .int (Int64.ofNat magnitude)
  else .uint (UInt64.ofNat magnitude)

/-- The number with the given whole digits, fraction and exponent. An exponent of more than 31
bits leaves zero or nothing. -/
def composeNumber (negative : Bool) (whole : List Char) (fraction : Option (List Char))
    (exponent : Option (Bool × Nat)) : Option Json :=
  let (significand, taken) := fitDigits 0 whole
  let dropped : Int := whole.length - taken
  let signed (x : Binary64) : Json := .float (if negative then x.negate else x)
  match fraction, exponent, dropped with
  | none, none, 0 => some (wholeNumber negative significand)
  | _, _, _ =>
    let (significand, places) := fitDigits significand (fraction.getD [])
    let scale := dropped - places
    match exponent with
    | none => (ofParts significand scale).map signed
    | some (below, size) =>
      if size < 1 <<< 31 then
        (ofParts significand (if below then scale - size else scale + size)).map signed
      else if significand ≠ 0 ∧ !below then none
      else some (signed (.zero false))

/-- A number: no leading zeros, at least one digit on either side of a point. -/
def number : Reading Json := fun text => do
  let (negative, rest) := match text with
    | '-' :: rest => (true, rest)
    | rest => (false, rest)
  let whole := rest.takeWhile Char.isDigit
  if whole = [] ∨ (whole.length > 1 ∧ whole.head? = some '0') then none
  let (fraction, rest) ← fractionPart (rest.dropWhile Char.isDigit)
  let (exponent, rest) ← exponentPart rest
  some (← composeNumber negative whole fraction exponent, rest)

/-! ## Documents -/

/-- One or more items between commas, up to and with a closing character. -/
def separated {α : Type} (item : Reading α) (closing : Char) : Nat → Reading (List α)
  | 0, _ => none
  | steps + 1, text => do
    let (first, rest) ← item text
    match skipBlanks rest with
    | ',' :: rest =>
      let (others, rest) ← separated item closing steps rest
      some (first :: others, rest)
    | c :: rest => if c = closing then some ([first], rest) else none
    | [] => none

/-- What is neither an array nor an object. -/
def scalar (steps : Nat) : Reading Json
  | 'n' :: rest => word "ull".toList .null rest
  | 't' :: rest => word "rue".toList (.bool true) rest
  | 'f' :: rest => word "alse".toList (.bool false) rest
  | '"' :: rest => (textBody steps [] rest).map fun (s, rest) => (.string s, rest)
  | rest => number rest

/-- A key, a colon and a value. -/
def member (steps : Nat) (value : Reading Json) : Reading (String × Json) := fun rest => do
  let (key, rest) ← text steps (skipBlanks rest)
  match skipBlanks rest with
  | ':' :: rest =>
    let (value, rest) ← value rest
    some ((key, value), rest)
  | _ => none

/-- A document in which `levels` arrays and objects may still be opened inside each other. -/
def value (steps : Nat) : Nat → Reading Json
  | 0, text => match skipBlanks text with
    | '[' :: _ | '\x7b' :: _ => none
    | rest => scalar steps rest
  | levels + 1, text => match skipBlanks text with
    | '[' :: rest =>
      match skipBlanks rest with
      | ']' :: rest => some (.array [], rest)
      | rest => (separated (value steps levels) ']' steps rest).map fun (items, rest) =>
        (.array items, rest)
    | '\x7b' :: rest =>
      match skipBlanks rest with
      | '\x7d' :: rest => some (.object [], rest)
      | rest =>
        (separated (member steps (value steps levels)) '\x7d' steps rest).map
          fun (members, rest) => (.object (sortEntries members), rest)
    | rest => scalar steps rest

/-- How many arrays and objects may stand inside each other. -/
def maxLevels : Nat := 127

/-- The document that a text holds, if it holds just one. -/
def read? (s : String) : Option Json :=
  let text := s.toList
  match value (text.length + 1) maxLevels text with
  | some (document, rest) => if skipBlanks rest = [] then some document else none
  | none => none

end Sift.Json
