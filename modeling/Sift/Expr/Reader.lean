import Sift.Expr.Basic
import Sift.Token.Scan

/-!
# Reading expressions

The reader takes the tokens of a text and builds the expression they write. From loosest to
tightest: `or`, `and`, `not`, quantifiers, tests and groups in parentheses; `and` and `or` group to
the left. Words are keywords only where the grammar asks for them, so any of them can also be a
name.

A reader is a state machine over the tokens that are left and the number of tests met so far; the
state survives a failure, so the number is known then, too. Nested and repeated parts take a
number of steps that bounds how deep the calls go; `stepsFor` is more than any text with as many
tokens can use.
-/

namespace Sift

/-! ## Errors -/

/-- What could have gone on where nothing that stands there could. -/
inductive Expected where
  | expression
  | afterNot
  | endOfText
  | membership
  | operator
  | value
  | asWord
  | openBrace
  | closeBrace
  | closeParen
  | bindingStart
  | bindingComma
  | bindingValue
  | pathSegment
  | afterNotOperator
  | emptyWord
deriving DecidableEq, Repr

/-- The list of what was expected. -/
def Expected.text : Expected → String
  | expression => r#""(", "-", "0", "\"", "`", "not", [ \t\r\n], [1-9] or [a-zA-Z]"#
  | afterNot =>
    r#""!=", "(", "-", "0", "==", "\"", "`", "contains", "in", "is", "matches", "not", "# ++
      r#"[ \t\r\n], [1-9] or [a-zA-Z]"#
  | endOfText => r#""and", "or", [ \t\r\n] or EOF"#
  | membership => r#""in", "not" or [ \t\r\n]"#
  | operator =>
    r#""!=", "<", "<=", "==", ">", ">=", "contains", "in", "is", "matches", "not" or "# ++
      r#"[ \t\r\n]"#
  | value => r#""-", "0", "\"", "`", [1-9] or [a-zA-Z]"#
  | asWord => r#""as" or [ \t\r\n]"#
  | openBrace => "\"\x7b\" or [ \\t\\r\\n]"
  | closeBrace => "\"\x7d\", \"and\", \"or\" or [ \\t\\r\\n]"
  | closeParen => r#"")", "and", "or" or [ \t\r\n]"#
  | bindingStart => r#""_" or [a-zA-Z]"#
  | bindingComma => r#""," or [ \t\r\n]"#
  | bindingValue => "[a-zA-Z]"
  | pathSegment => "[a-zA-Z]"
  | afterNotOperator => r#""contains", "in", "matches" or [ \t\r\n]"#
  | emptyWord => r#""empty", "not" or [ \t\r\n]"#

/-- Why a text is no expression. -/
inductive ReadError where
  /-- A part whose rule is clear is at fault. -/
  | malformed (fault : FaultAt)
  /-- Nothing that stands here can go on. -/
  | unexpected (position : Position) (expected : Expected)
deriving DecidableEq, Repr

namespace ReadError

/-- Where the error lies. -/
def position : ReadError → Position
  | malformed fault => fault.position
  | unexpected position _ => position

/-- The wording of the error. -/
def message : ReadError → String
  | malformed fault => fault.message
  | unexpected position expected =>
    position.text ++ ": no match found, expected: " ++ expected.text

end ReadError

/-! ## The state of a reader -/

namespace Reader

/-- What is left of the tokens, the current one first, and the number of tests met. -/
structure State where
  current : SpannedToken
  rest : List SpannedToken
  counted : Nat := 0
deriving DecidableEq, Repr

end Reader

/-- A step that reads a part of an expression. -/
abbrev Reader := EStateM ReadError Reader.State

namespace Reader

/-- The current token. -/
def token : Reader Token := return (← get).current.token

/-- Goes on to the next token; the last one stays. -/
def advance : Reader Unit :=
  modify fun s => match s.rest with
    | next :: rest => { s with current := next, rest }
    | [] => s

/-- Fails because of a fault at the current token. -/
def malformed {α : Type} (fault : Fault) : Reader α := do
  throw (.malformed ⟨(← get).current.start, fault⟩)

/-- Fails because the current token cannot go on. -/
def unexpected {α : Type} (expected : Expected) : Reader α := do
  throw (.unexpected (← get).current.start expected)

/-- Whether the current token is a given word. -/
def atWord (w : String) : Reader Bool := return (← token) = .word w

/-- Passes over a token that has to be there. -/
def expect (t : Token) (expected : Expected) : Reader Unit := do
  if (← token) = t then advance else unexpected expected

/-! ## Paths, operands and literals -/

/-- The segments that follow the first word of a path: words after points and texts in
brackets. -/
def pathRest : Nat → List String → Reader (List String)
  | 0, _ => unexpected .pathSegment
  | steps + 1, path => do
    match ← token with
    | .dot =>
      advance
      match ← token with
      | .word segment =>
        advance
        pathRest steps (path ++ [segment])
      | _ => unexpected .pathSegment
    | .openBracket =>
      advance
      match ← token with
      | .string key | .raw key =>
        advance
        if (← token) = .closeBracket then
          advance
          pathRest steps (path ++ [key])
        else malformed .unclosedIndex
      | _ => malformed .invalidIndex
    | _ => return path

/-- What stands first in a test, before it is known whether it selects or is a literal. -/
inductive Operand where
  | path (segments : List String)
  | string (s : String)
  | raw (s : String)
  | number (s : String)
deriving DecidableEq, Repr

namespace Operand

/-- The operand as a selector: a path, or a string that is a pointer. -/
def selector? : Operand → Option Selector
  | path segments => some ⟨.words, segments⟩
  | string s => (Pointer.decode? s).map fun segments => ⟨.pointer, segments⟩
  | _ => none

/-- The operand as a literal. -/
def literal : Operand → String
  | path segments => ".".intercalate segments
  | string s | raw s | number s => s

end Operand

/-- The first part of a test. -/
def operand (steps : Nat) : Reader Operand := do
  match ← token with
  | .word first =>
    advance
    return .path (← pathRest steps [first])
  | .string s =>
    advance
    return .string s
  | .raw s =>
    advance
    return .raw s
  | .number s =>
    advance
    return .number s
  | _ => unexpected .expression

/-- A literal; a path stands for its segments joined by points. -/
def literal (steps : Nat) : Reader String := do
  match ← token with
  | .word first =>
    advance
    return ".".intercalate (← pathRest steps [first])
  | .string s | .raw s | .number s =>
    advance
    return s
  | _ => unexpected .value

/-- A selector where only a selector can stand. -/
def selector (steps : Nat) : Reader Selector := do
  match ← token with
  | .word first =>
    advance
    return ⟨.words, ← pathRest steps [first]⟩
  | .string s =>
    match Pointer.decode? s with
    | some path =>
      advance
      return ⟨.pointer, path⟩
    | none => malformed .invalidPointer
  | _ => malformed .invalidSelector

/-! ## Tests -/

/-- Fails where an operator should follow an operand. -/
def missingOperator {α : Type} (operand : Operand) : Reader α :=
  unexpected (if operand.selector?.isSome then .operator else .membership)

/-- The rest of `selector operator literal`, the operator being current. -/
def selectorFirst (steps : Nat) (operand : Operand) (operator : Operator) :
    Reader (Expr String) := do
  match operand.selector? with
  | none => unexpected .membership
  | some selector =>
    advance
    return .test selector operator (some (← literal steps))

/-- The rest of `literal in selector`, the word `in` being current. -/
def literalFirst (steps : Nat) (operand : Operand) (operator : Operator) :
    Reader (Expr String) := do
  advance
  return .test (← selector steps) operator (some operand.literal)

/-- The rest of `selector is empty`, the word `is` being current. -/
def emptiness (operand : Operand) : Reader (Expr String) := do
  match operand.selector? with
  | none => unexpected .membership
  | some selector =>
    advance
    let negated ← atWord "not"
    if negated then advance
    expect (.word "empty") .emptyWord
    return .test selector (if negated then .isNotEmpty else .isEmpty) none

/-- The rest of a test behind an operand and the word `not`, which is current. -/
def negatedTest (steps : Nat) (operand : Operand) : Reader (Expr String) := do
  advance
  match ← token with
  | .word "in" => literalFirst steps operand .notIn
  | .word "contains" => selectorFirst steps operand .notIn
  | .word "matches" => selectorFirst steps operand .notMatch
  | _ => unexpected .afterNotOperator

/-- A test. It is counted before anything of it is read, and one beyond the limit fails at its
start; a limit of zero means none. -/
def test (limit steps : Nat) : Reader (Expr String) := do
  modify fun s => { s with counted := s.counted + 1 }
  if 0 < limit ∧ limit < (← get).counted then malformed .tooManyTests
  let operand ← operand steps
  match ← token with
  | .equal => selectorFirst steps operand .equal
  | .notEqual => selectorFirst steps operand .notEqual
  | .less => selectorFirst steps operand .less
  | .lessEqual => selectorFirst steps operand .lessEqual
  | .greater => selectorFirst steps operand .greater
  | .greaterEqual => selectorFirst steps operand .greaterEqual
  | .word "in" => literalFirst steps operand .isIn
  | .word "contains" => selectorFirst steps operand .isIn
  | .word "matches" => selectorFirst steps operand .isMatch
  | .word "is" => emptiness operand
  | .word "not" => negatedTest steps operand
  | _ => missingOperator operand

/-! ## Bindings -/

/-- The names behind `as`. -/
def binding : Reader Binding := do
  match ← token with
  | .word first =>
    advance
    if (← token) = .comma then
      advance
      match ← token with
      | .underscore =>
        advance
        return .index first
      | .word second =>
        if second = first then malformed (.sharedName first)
        else
          advance
          return .both first second
      | _ => unexpected .bindingStart
    else return .each first
  | .underscore =>
    advance
    expect .comma .bindingComma
    match ← token with
    | .word name =>
      advance
      return .value name
    | _ => unexpected .bindingValue
  | _ => unexpected .bindingStart

/-- Words that make an `any` or `all` before them the name of a field. -/
def isOperatorWord (w : String) : Bool :=
  ["in", "not", "contains", "is", "matches"].contains w

/-- The quantifier that starts here: `any` or `all` with something after it that can be a
selector. -/
def quantifier? : Reader (Option Quantifier) := do
  let s ← get
  let follows := match s.rest with
    | ⟨.word w, _, _⟩ :: _ => !isOperatorWord w
    | ⟨.string _, _, _⟩ :: _ => true
    | _ => false
  match s.current.token, follows with
  | .word "any", true => return some .any
  | .word "all", true => return some .all
  | _, _ => return none

/-! ## Expressions -/

/-- Whether an operand of `not` can start with a token. -/
def startsOperand : Token → Bool
  | .word _ | .string _ | .raw _ | .number _ | .openParen => true
  | _ => false

/-- The negation of an operand; a double one is the operand itself. -/
def negated : Expr String → Expr String
  | .not operand => operand
  | operand => .not operand

mutual

/-- One or more conjunctions between `or`. -/
def disjunction (limit : Nat) : Nat → Reader (Expr String)
  | 0 => unexpected .expression
  | steps + 1 => do disjunctionRest limit steps (← conjunction limit steps)

/-- The conjunctions that follow, each behind an `or`. -/
def disjunctionRest (limit : Nat) : Nat → Expr String → Reader (Expr String)
  | 0, _ => unexpected .expression
  | steps + 1, left => do
    if ← atWord "or" then
      advance
      disjunctionRest limit steps (.or left (← conjunction limit steps))
    else return left

/-- One or more negations between `and`. -/
def conjunction (limit : Nat) : Nat → Reader (Expr String)
  | 0 => unexpected .expression
  | steps + 1 => do conjunctionRest limit steps (← negation limit steps)

/-- The negations that follow, each behind an `and`. -/
def conjunctionRest (limit : Nat) : Nat → Expr String → Reader (Expr String)
  | 0, _ => unexpected .expression
  | steps + 1, left => do
    if ← atWord "and" then
      advance
      conjunctionRest limit steps (.and left (← negation limit steps))
    else return left

/-- A quantified expression, a group or a test, with any number of `not` in front. -/
def negation (limit : Nat) : Nat → Reader (Expr String)
  | 0 => unexpected .expression
  | steps + 1 => do
    if ← atWord "not" then
      advance
      if startsOperand (← token) then return negated (← negation limit steps)
      else unexpected .afterNot
    else
      match ← quantifier? with
      | some quantifier => quantified limit steps quantifier
      | none => primary limit steps

/-- A quantified expression, the quantifier being current. -/
def quantified (limit : Nat) : Nat → Quantifier → Reader (Expr String)
  | 0, _ => unexpected .expression
  | steps + 1, quantifier => do
    advance
    let selector ← selector steps
    expect (.word "as") .asWord
    let binding ← binding
    expect .openBrace .openBrace
    let body ← disjunction limit steps
    match ← token with
    | .closeBrace =>
      advance
      return .quantified quantifier selector binding body
    | .finish => malformed .unmatchedBraces
    | _ => unexpected .closeBrace

/-- A group in parentheses or a test. -/
def primary (limit : Nat) : Nat → Reader (Expr String)
  | 0 => unexpected .expression
  | steps + 1 => do
    if (← token) = .openParen then
      advance
      let inner ← disjunction limit steps
      match ← token with
      | .closeParen =>
        advance
        return inner
      | .finish => malformed .unmatchedParentheses
      | _ => unexpected .closeParen
    else test limit steps

end

/-- An expression that takes up all tokens. -/
def whole (limit steps : Nat) : Reader (Expr String) := do
  let expression ← disjunction limit steps
  if (← token) = .finish then return expression else unexpected .endOfText

/-- A number of steps that no text with as many tokens uses up: a token leads through at most six
nested calls. -/
def stepsFor (tokenCount : Nat) : Nat := 8 * (tokenCount + 1)

end Reader

/-! ## Whole texts -/

namespace Expr

/-- The expression that a list of tokens writes, with at most `limit` tests (zero meaning any
number). Either way the final state tells how many tests were met. -/
def ofTokens (limit : Nat) (tokens : List SpannedToken) :
    EStateM.Result ReadError Reader.State (Expr String) :=
  match tokens with
  | first :: rest => (Reader.whole limit (Reader.stepsFor rest.length)).run ⟨first, rest, 0⟩
  | [] =>
    let finish : SpannedToken := ⟨.finish, .start, .start⟩
    (Reader.whole limit (Reader.stepsFor 0)).run ⟨finish, [], 0⟩

/-- The expression that a text writes, and how many tests were met in it. -/
def readCounted (limit : Nat) (text : String) : Except ReadError (Expr String × Nat) :=
  match tokens text with
  | .error fault => .error (.malformed fault)
  | .ok tokens =>
    match ofTokens limit tokens with
    | .ok expression s => .ok (expression, s.counted)
    | .error error _ => .error error

/-- The expression that a text writes. -/
def read (limit : Nat) (text : String) : Except ReadError (Expr String) :=
  (readCounted limit text).map Prod.fst

end Expr

end Sift
