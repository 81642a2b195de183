import Sift.Expr.Reader

/-!
# Written expressions

`Expr.WellFormed` describes the expressions that a text can write, and `Expr.written` writes them
with the fewest parentheses: a group stands around an `or` below an `and`, around both below a
`not`, and around the right operand of a chain that would group to the left otherwise. Literals
are quoted, membership puts its literal first, and a segment behind the first word of a path is a
quoted index, so any text can be a segment or a literal.
-/

namespace Sift

/-! ## Well-formed expressions -/

/-- A letter followed by letters, digits, underscores and slashes. -/
def isName (s : String) : Bool :=
  match s.toList with
  | first :: rest => first.isAlpha && rest.all Scan.isWordChar
  | [] => false

/-- A segment that a pointer text can hold. -/
def Pointer.isSegment (segment : String) : Bool :=
  segment.toList != [] && segment.toList.all fun c => Pointer.isSegmentChar c || c == '/'

namespace Selector

/-- A path of words starts with a name, and the segments of a pointer are those of pointer
texts. -/
def WellFormed (s : Selector) : Prop :=
  match s.form with
  | .words => ∃ first others, s.path = first :: others ∧ isName first = true
  | .pointer => s.path ≠ [] ∧ ∀ segment ∈ s.path, Pointer.isSegment segment = true

/-- Whether the selector is written with a given word in front. -/
def StartsWith (s : Selector) (word : String) : Prop :=
  s.form = .words ∧ s.path.head? = some word

end Selector

theorem path_ne_nil {selector : Selector} (wellFormed : selector.WellFormed) :
    selector.path ≠ [] := by
  obtain ⟨form, path⟩ := selector
  cases form with
  | words =>
    obtain ⟨first, rest, same, -⟩ := wellFormed
    exact List.ne_nil_of_mem (same ▸ List.mem_cons_self)
  | pointer => exact wellFormed.1

/-- All names are names, and a pair has two of them. -/
def Binding.WellFormed : Binding → Prop
  | .each name | .index name | .value name => isName name = true
  | .both i v => isName i = true ∧ isName v = true ∧ i ≠ v

/-- Whether the operator is written behind its literal. -/
def Operator.isMembership : Operator → Bool
  | .isIn | .notIn => true
  | _ => false

namespace Expr

/-- Whether the expression is a negation at the top. -/
def isNegation {ν : Type} : Expr ν → Bool
  | .not _ => true
  | _ => false

/-- No negation stands directly below another one, every operator has the literal it takes, and no
selector stands in front with a word that the grammar would take for something else. -/
def WellFormed : Expr String → Prop
  | .test selector operator literal =>
    selector.WellFormed ∧ literal.isSome = operator.takesLiteral ∧
      (operator.isMembership = false → ¬ selector.StartsWith "not")
  | .not operand => operand.WellFormed ∧ operand.isNegation = false
  | .and left right => left.WellFormed ∧ right.WellFormed
  | .or left right => left.WellFormed ∧ right.WellFormed
  | .quantified _ selector binding body =>
    selector.WellFormed ∧ (∀ word, Reader.isOperatorWord word = true → ¬ selector.StartsWith word) ∧
      binding.WellFormed ∧ body.WellFormed

end Expr

/-! ## Writing -/

/-- A character inside a quotation: only quotes and backslashes are escaped. -/
def quotedAs (c : Char) : List Char := if c = '"' ∨ c = '\\' then ['\\', c] else [c]

/-- A text between double quotes. -/
def quotation (s : String) : String := String.ofList ('"' :: s.toList.flatMap quotedAs ++ ['"'])

/-- A path of words: the first word and an index for every other segment. -/
def writtenPath : List String → String
  | [] => ""
  | first :: others => first ++ String.join (others.map fun segment => "[" ++ quotation segment ++ "]")

/-- How a selector is written. -/
def Selector.written (s : Selector) : String :=
  match s.form with
  | .words => writtenPath s.path
  | .pointer => quotation (Pointer.encode s.path)

/-- How an operator between selector and literal, or behind a selector, is written. -/
def Operator.written : Operator → String
  | .equal => "=="
  | .notEqual => "!="
  | .isIn => "in"
  | .notIn => "not in"
  | .isEmpty => "is empty"
  | .isNotEmpty => "is not empty"
  | .isMatch => "matches"
  | .notMatch => "not matches"
  | .less => "<"
  | .lessEqual => "<="
  | .greater => ">"
  | .greaterEqual => ">="

/-- The word that a quantifier is written as. -/
def Quantifier.written : Quantifier → String
  | .any => "any"
  | .all => "all"

/-- How tightly an operand has to be bound where it stands. -/
inductive Tightness where
  /-- Nothing has to be grouped. -/
  | loose
  /-- The right operand of `or` and the left one of `and`: an `or` is grouped. -/
  | conjunct
  /-- The right operand of `and` and the operand of `not`: `and` and `or` are grouped. -/
  | unit
deriving DecidableEq, Repr

namespace Expr

/-- A text in parentheses, if it has to be a group. -/
def grouped (needed : Bool) (text : String) : String :=
  if needed then "(" ++ text ++ ")" else text

/-- How a test is written. -/
def writtenTest (selector : Selector) (operator : Operator) (literal : Option String) : String :=
  match operator.isMembership, literal with
  | true, literal =>
    quotation (literal.getD "") ++ " " ++ operator.written ++ " " ++ selector.written
  | false, some literal => selector.written ++ " " ++ operator.written ++ " " ++ quotation literal
  | false, none => selector.written ++ " " ++ operator.written

/-- How an expression is written where it has to be bound so tightly. -/
def writtenAt : Tightness → Expr String → String
  | _, .test selector operator literal => writtenTest selector operator literal
  | _, .not operand => "not " ++ writtenAt .unit operand
  | place, .and left right =>
    grouped (place = .unit) (writtenAt .conjunct left ++ " and " ++ writtenAt .unit right)
  | place, .or left right =>
    grouped (place ≠ .loose) (writtenAt .loose left ++ " or " ++ writtenAt .conjunct right)
  | _, .quantified quantifier selector binding body =>
    quantifier.written ++ " " ++ selector.written ++ " as " ++ binding.text ++ " \x7b " ++
      writtenAt .loose body ++ " \x7d"

/-- The text of an expression with the fewest parentheses. -/
def written (e : Expr String) : String := e.writtenAt .loose

end Expr

/-! ## Tokens -/

/-- The tokens that a reader has left, the current one first. -/
def Reader.State.tokens (s : Reader.State) : List Token := s.current.token :: s.rest.map (·.token)

/-- The tokens of the segments behind the first word of a path. -/
def indexTokens (others : List String) : List Token :=
  others.flatMap fun segment => [.openBracket, .string segment, .closeBracket]

/-- The tokens of a path of words. -/
def pathTokens : List String → List Token
  | [] => []
  | first :: others => .word first :: indexTokens others

/-- The tokens of a written selector. -/
def Selector.tokens (s : Selector) : List Token :=
  match s.form with
  | .words => pathTokens s.path
  | .pointer => [.string (Pointer.encode s.path)]

/-- The tokens of a written operator. -/
def Operator.tokens : Operator → List Token
  | .equal => [.equal]
  | .notEqual => [.notEqual]
  | .isIn => [.word "in"]
  | .notIn => [.word "not", .word "in"]
  | .isEmpty => [.word "is", .word "empty"]
  | .isNotEmpty => [.word "is", .word "not", .word "empty"]
  | .isMatch => [.word "matches"]
  | .notMatch => [.word "not", .word "matches"]
  | .less => [.less]
  | .lessEqual => [.lessEqual]
  | .greater => [.greater]
  | .greaterEqual => [.greaterEqual]

/-- The tokens of a written binding. -/
def Binding.tokens : Binding → List Token
  | .each name => [.word name]
  | .index name => [.word name, .comma, .underscore]
  | .value name => [.underscore, .comma, .word name]
  | .both i v => [.word i, .comma, .word v]

namespace Expr

/-- Tokens between parentheses, if they have to be a group. -/
def groupedTokens (needed : Bool) (tokens : List Token) : List Token :=
  if needed then .openParen :: tokens ++ [.closeParen] else tokens

/-- The tokens of a written test. -/
def testTokens (selector : Selector) (operator : Operator) (literal : Option String) : List Token :=
  match operator.isMembership, literal with
  | true, literal => .string (literal.getD "") :: operator.tokens ++ selector.tokens
  | false, some literal => selector.tokens ++ operator.tokens ++ [.string literal]
  | false, none => selector.tokens ++ operator.tokens

/-- The tokens of an expression written where it has to be bound so tightly. -/
def tokensAt : Tightness → Expr String → List Token
  | _, .test selector operator literal => testTokens selector operator literal
  | _, .not operand => .word "not" :: tokensAt .unit operand
  | place, .and left right =>
    groupedTokens (place = .unit) (tokensAt .conjunct left ++ .word "and" :: tokensAt .unit right)
  | place, .or left right =>
    groupedTokens (place ≠ .loose) (tokensAt .loose left ++ .word "or" :: tokensAt .conjunct right)
  | _, .quantified quantifier selector binding body =>
    .word quantifier.written :: selector.tokens ++ .word "as" :: binding.tokens ++
      .openBrace :: tokensAt .loose body ++ [.closeBrace]

end Expr

end Sift
