import Sift.Position
import Sift.Text.Quoted

/-!
# Tokens

The words, literals and marks that an expression is made of, and what can be wrong with a text.
Keywords are plain words: whether a word acts as one depends on where it stands.
-/

namespace Sift

/-- A token of the expression language. -/
inductive Token where
  /-- A letter followed by letters, digits, underscores and slashes. -/
  | word (s : String)
  /-- A text between double quotes, its escapes resolved. -/
  | string (s : String)
  /-- A text between backquotes, taken as it stands. -/
  | raw (s : String)
  /-- A decimal numeral as it stands. -/
  | number (s : String)
  | equal
  | notEqual
  | less
  | lessEqual
  | greater
  | greaterEqual
  | openParen
  | closeParen
  | openBracket
  | closeBracket
  | openBrace
  | closeBrace
  | dot
  | comma
  | underscore
  /-- The end of the text. -/
  | finish
deriving DecidableEq, Repr

namespace Token

/-- The text that a token carries. -/
def content? : Token → Option String
  | word s | string s | raw s | number s => some s
  | _ => none

/-- How a token is shown. -/
def text : Token → String
  | word s => s
  | string s => Text.quoted s
  | raw s => "`" ++ s ++ "`"
  | number s => s
  | equal => "=="
  | notEqual => "!="
  | less => "<"
  | lessEqual => "<="
  | greater => ">"
  | greaterEqual => ">="
  | openParen => "("
  | closeParen => ")"
  | openBracket => "["
  | closeBracket => "]"
  | openBrace => "\x7b"
  | closeBrace => "\x7d"
  | dot => "."
  | comma => ","
  | underscore => "_"
  | finish => "EOF"

end Token

/-- A token with the places where it starts and ends. -/
structure SpannedToken where
  token : Token
  start : Position
  finish : Position
deriving DecidableEq, Repr

/-! ## Faults -/

/-- What is wrong with a piece of text whose rule is clear. -/
inductive Fault where
  | invalidEscape
  | unterminatedString
  | invalidNumber
  | unexpectedCharacter (c : Char)
  | unmatchedBraces
  | unmatchedParentheses
  | tooManyTests
  | invalidSelector
  | invalidPointer
  | invalidIndex
  | unclosedIndex
  | sharedName (name : String)
deriving DecidableEq, Repr

namespace Fault

/-- The rule that is broken. -/
def rule : Fault → String
  | invalidEscape | unterminatedString => "string"
  | invalidNumber => "number"
  | unexpectedCharacter _ => "token"
  | unmatchedBraces => "collection"
  | unmatchedParentheses => "grouping"
  | tooManyTests | invalidSelector => "match"
  | invalidPointer => "jsonpointer"
  | invalidIndex | unclosedIndex => "index"
  | sharedName _ => "binding"

/-- The wording of the fault. -/
def message : Fault → String
  | invalidEscape => "Invalid escape sequence"
  | unterminatedString => "Unterminated string literal"
  | invalidNumber => "Invalid number literal"
  | unexpectedCharacter c => "Unexpected character " ++ Text.quotedChar c
  | unmatchedBraces => "Unmatched braces"
  | unmatchedParentheses => "Unmatched parentheses"
  | tooManyTests => "max number of expressions parsed"
  | invalidSelector => "Invalid selector"
  | invalidPointer => "Invalid JSON pointer"
  | invalidIndex => "Invalid index"
  | unclosedIndex => "Unclosed index expression"
  | sharedName name =>
    Text.quoted name ++ " cannot be used as a placeholder for both the index and the value"

end Fault

/-- A fault and where it lies. -/
structure FaultAt where
  position : Position
  fault : Fault
deriving DecidableEq, Repr

/-- Place, rule and wording of a fault. -/
def FaultAt.message (f : FaultAt) : String :=
  f.position.text ++ ": rule \"" ++ f.fault.rule ++ "\": " ++ f.fault.message

end Sift
