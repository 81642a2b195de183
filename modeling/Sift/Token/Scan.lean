import Sift.Token.Basic
import Sift.Text.Digits

/-!
# Scanning

`scan` reads one token off a text that does not start with a blank. It works on characters alone
and counts them: where a token ends, where a fault lies and where reading stopped are numbers of
characters, and `Cursor` turns them into positions by walking over that many characters. A cursor
that met a fault stays where reading stopped, so scanning can go on from there.
-/

namespace Sift

/-! ## One token -/

/-- What a non-empty text starts with. Lengths count the characters after the first one; places of
faults count all characters. -/
inductive Scan where
  | token (token : Token) (more : Nat)
  | fault (fault : Fault) (place stop : Nat)
deriving DecidableEq, Repr

namespace Scan

/-- Blanks may stand between tokens: only these four characters. -/
def isBlank (c : Char) : Bool := c = ' ' || c = '\t' || c = '\r' || c = '\n'

/-- What a word is made of. -/
def isWordChar (c : Char) : Bool := c.isAlphanum || c = '_' || c = '/'

/-- The character that a letter after a backslash stands for. -/
def simpleEscape? : Char → Option Char
  | 'n' => some '\n'
  | 't' => some '\t'
  | 'r' => some '\r'
  | 'a' => some '\x07'
  | 'b' => some '\x08'
  | 'f' => some '\x0c'
  | 'v' => some '\x0b'
  | '"' => some '"'
  | '\'' => some '\''
  | '\\' => some '\\'
  | _ => none

/-- Reads up to `count` hexadecimal digits: the number if all are there, and how many are. -/
def hexDigits (count value : Nat) : List Char → Option Nat × Nat
  | [] => (if count = 0 then some value else none, 0)
  | c :: rest =>
    match count, hexDigit? c with
    | 0, _ => (some value, 0)
    | _ + 1, none => (none, 0)
    | count + 1, some digit =>
      let (result, read) := hexDigits count (16 * value + digit) rest
      (result, read + 1)

/-- The character with a given code point, unless it is half of a surrogate pair. -/
def codePoint? (n : Nat) : Option Char := if n.isValidChar then some (Char.ofNat n) else none

/-- The rest of a string after `read` characters, the decoded ones in reverse. -/
def string (decoded : List Char) (read : Nat) : List Char → Scan
  | [] => fault .unterminatedString read read
  | '"' :: _ => token (.string (String.ofList decoded.reverse)) read
  | ['\\'] => fault .unterminatedString (read + 1) (read + 1)
  | '\\' :: 'u' :: a :: b :: c :: d :: rest =>
    match hexDigits 4 0 [a, b, c, d] with
    | (some value, _) =>
      match codePoint? value with
      | some decodedChar => string (decodedChar :: decoded) (read + 6) rest
      | none => fault .invalidEscape read (read + 6)
    | (none, digits) => fault .invalidEscape read (read + 2 + digits)
  | '\\' :: 'u' :: rest => fault .invalidEscape read (read + 2 + (hexDigits 4 0 rest).2)
  | '\\' :: c :: rest =>
    match simpleEscape? c with
    | some decodedChar => string (decodedChar :: decoded) (read + 2) rest
    | none => fault .invalidEscape read (read + 1)
  | c :: rest => string (c :: decoded) (read + 1) rest

/-- The rest of a raw string after its opening backquote. -/
def raw (rest : List Char) : Scan :=
  let body := rest.takeWhile (· ≠ '`')
  if body.length < rest.length then token (.raw (String.ofList body)) (body.length + 1)
  else fault .unterminatedString (rest.length + 1) (rest.length + 1)

/-- A numeral of which `read` characters have been read, given with the text that follows. A
letter, a digit, an underscore or a point must not follow a numeral directly. -/
def finishNumber (numeral rest : List Char) : Scan :=
  let read := numeral.length
  match rest with
  | c :: _ =>
    if Unicode.isAlphanumeric c || c = '_' || c = '.' then fault .invalidNumber read read
    else token (.number (String.ofList numeral)) (read - 1)
  | [] => token (.number (String.ofList numeral)) (read - 1)

/-- The fraction of a numeral whose whole part has been read. -/
def fraction (numeral rest : List Char) : Scan :=
  match rest with
  | '.' :: rest =>
    let digits := rest.takeWhile Char.isDigit
    if digits = [] then fault .invalidNumber (numeral.length + 1) (numeral.length + 1)
    else finishNumber (numeral ++ '.' :: digits) (rest.drop digits.length)
  | _ => finishNumber numeral rest

/-- The whole part of a numeral after its sign: a lone zero, or digits that do not start with
one. -/
def number (sign text : List Char) : Scan :=
  match text with
  | '0' :: rest => fraction (sign ++ ['0']) rest
  | _ =>
    let digits := text.takeWhile Char.isDigit
    if digits = [] then fault .invalidNumber sign.length sign.length
    else fraction (sign ++ digits) (text.drop digits.length)

/-- One of two marks, depending on whether an equals sign follows. -/
def comparison (plain withEquals : Token) : List Char → Scan
  | '=' :: _ => token withEquals 1
  | _ => token plain 0

end Scan

open Scan in
/-- The token, or the fault, that a text starts with, given by its first character and the rest. -/
def scan (first : Char) (rest : List Char) : Scan :=
  match first, rest with
  | '(', _ => .token .openParen 0
  | ')', _ => .token .closeParen 0
  | '[', _ => .token .openBracket 0
  | ']', _ => .token .closeBracket 0
  | '\x7b', _ => .token .openBrace 0
  | '\x7d', _ => .token .closeBrace 0
  | '.', _ => .token .dot 0
  | ',', _ => .token .comma 0
  | '=', '=' :: _ => .token .equal 1
  | '!', '=' :: _ => .token .notEqual 1
  | '<', _ => comparison .less .lessEqual rest
  | '>', _ => comparison .greater .greaterEqual rest
  | '"', _ => string [] 1 rest
  | '`', _ => raw rest
  | '-', _ => number ['-'] rest
  | '_', _ =>
    if (rest.head?.map Char.isAlphanum).getD false then .fault (.unexpectedCharacter '_') 0 0
    else .token .underscore 0
  | _, _ =>
    if first.isDigit then number [] (first :: rest)
    else if first.isAlpha then
      let more := rest.takeWhile isWordChar
      .token (.word (String.ofList (first :: more))) more.length
    else .fault (.unexpectedCharacter first) 0 0

/-! ## Cursors -/

/-- What is left of a text and where it starts. -/
structure Cursor where
  position : Position
  rest : List Char
deriving DecidableEq, Repr

namespace Cursor

/-- The cursor at the start of a text. -/
def ofText (text : String) : Cursor := ⟨.start, text.toList⟩

/-- The cursor some characters further on. -/
def advance (c : Cursor) (count : Nat) : Cursor :=
  ⟨c.position.after (c.rest.take count), c.rest.drop count⟩

/-- The cursor behind the blanks. -/
def skipBlanks (c : Cursor) : Cursor := c.advance (c.rest.takeWhile Scan.isBlank).length

/-- The next token, or a fault, and the cursor behind what was read. At the end of the text the
token is `Token.finish`, again and again. -/
def next (c : Cursor) : Except FaultAt SpannedToken × Cursor :=
  let here := c.skipBlanks
  match here.rest with
  | [] => (.ok ⟨.finish, here.position, here.position⟩, here)
  | first :: rest =>
    match scan first rest with
    | .token token more =>
      let behind := here.advance (more + 1)
      (.ok ⟨token, here.position, behind.position⟩, behind)
    | .fault fault place stop =>
      (.error ⟨(here.advance place).position, fault⟩, here.advance stop)

end Cursor

/-! ## All tokens -/

/-- The tokens from a cursor on, the last one being `Token.finish`; the first fault ends it. -/
def tokensFrom (c : Cursor) : Except FaultAt (List SpannedToken) :=
  let here := c.skipBlanks
  match _split : here.rest with
  | [] => .ok [⟨.finish, here.position, here.position⟩]
  | first :: rest =>
    match scan first rest with
    | .token token more =>
      let behind := here.advance (more + 1)
      match tokensFrom behind with
      | .ok others => .ok (⟨token, here.position, behind.position⟩ :: others)
      | .error fault => .error fault
    | .fault fault place _ => .error ⟨(here.advance place).position, fault⟩
termination_by c.rest.length
decreasing_by
  have shorter : here.rest.length ≤ c.rest.length := by
    simp [here, Cursor.skipBlanks, Cursor.advance]
  simp only [Cursor.advance, List.length_drop]
  rw [_split] at shorter ⊢
  simp only [List.length_cons] at shorter ⊢
  omega

/-- The tokens of a text. -/
def tokens (text : String) : Except FaultAt (List SpannedToken) := tokensFrom (.ofText text)

end Sift
