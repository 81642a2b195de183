import Sift.Event
import Sift.Expr.Basic
import Sift.Literal.Reading
import Sift.Schema.Basic
import Sift.Traced

/-!
# Checking expressions

Checking confirms that an expression makes sense under a schema and gets it ready to be evaluated:
every selector leads somewhere, its field takes the operator, literals are read as the type of the
field, and patterns are well formed. What a pattern is depends on the engine that is given. A name
bound by a quantifier is looked up before the fields at the top. The tests are counted on the way.

A selector may pass through lists before its last segment. It then stands for some element of each
of them, so the test is wrapped into an `any` per list, all of which bind the name `$v`, which no
text can write. Without a schema, or with an empty one, nothing of this happens.
-/

namespace Sift

/-! ## Checked literals -/

/-- An engine for patterns, which those who check and evaluate are given. -/
structure PatternEngine where
  /-- The texts that a pattern matches; nothing for a text that is no pattern. -/
  compile? : String → Option (String → Bool)

/-- A literal after checking. -/
structure CheckedLiteral where
  /-- The text as it was written. -/
  raw : String
  /-- The literal as the type of the field, where the schema names one. -/
  converted : Option Literal := none
deriving DecidableEq

namespace CheckedLiteral

/-- The literal as a text: as converted, if it is one then, and as written otherwise. -/
def asText (l : CheckedLiteral) : String :=
  match l.converted with
  | some (.string s) => s
  | _ => l.raw

/-- The texts that the literal matches, if it is a pattern. -/
def pattern? (l : CheckedLiteral) (patterns : PatternEngine) : Option (String → Bool) :=
  patterns.compile? l.asText

end CheckedLiteral

/-- An expression that has been checked. -/
abbrev CheckedExpr := Expr CheckedLiteral

/-! ## Errors -/

/-- Why an expression does not check. -/
inductive CheckError where
  /-- The schema has no such path; the selector is cut behind the first segment that fails. -/
  | invalidSelector (selector : Selector)
  | unsupportedOperator (operator : Operator) (selector : Selector)
  | missingLiteral (operator : Operator)
  | badLiteral (raw : String) (selector : Selector) (cause : LiteralError)
  /-- A pattern for a field that is no text. -/
  | patternOfOtherType (selector : Selector)
  | badPattern (pattern : String) (selector : Selector)
  | notCollection (quantifier : Quantifier) (selector : Selector)
  | literalTooLong (selector : Selector) (limit : Nat)
  | tooManyTests (count limit : Nat)
deriving DecidableEq, Repr

namespace CheckError

/-- The wording of the error. -/
def message : CheckError → String
  | invalidSelector selector => s!"Selector \"{selector.text}\" is not valid"
  | unsupportedOperator operator selector =>
    s!"Invalid match operator \"{operator.name}\" for selector \"{selector.text}\""
  | missingLiteral operator => s!"Match operator \"{operator.name}\" requires a non-nil value"
  | badLiteral raw selector cause =>
    s!"Failed to coerce value \"{raw}\" for selector \"{selector.text}\": {cause.message}"
  | patternOfOtherType selector =>
    "Match operator cannot be used with fields whose coercion functions return non string " ++
      s!"values (selector \"{selector.text}\")"
  | badPattern pattern selector =>
    s!"Failed to compile regular expression {Text.quoted pattern} for selector " ++
      s!"\"{selector.text}\""
  | notCollection quantifier selector =>
    s!"{quantifier.name} expression not supported for selector \"{selector.text}\": " ++
      "not a list or a map"
  | literalTooLong selector limit =>
    s!"Value for selector \"{selector.text}\" exceeds the maximum length ({limit})"
  | tooManyTests count limit =>
    s!"Number of match expressions ({count}) exceeds the limit ({limit})"

end CheckError

/-! ## Following a path -/

/-- The names bound around an expression with what is known of them, innermost first. -/
abbrev Scope := List (String × Field)

/-- Where a path leads, and its segments cut behind every list that it passes through. -/
structure Route where
  field : Field
  /-- The segments up to the first list passed through, or all of them. -/
  first : List String
  /-- The segments behind each list, up to the next one. -/
  others : List (List String) := []

/-- Follows segments down from a field. On failure the number of the first segment that leads
nowhere is given, counted from one. -/
def Field.follow (field : Field) : List String → Except Nat Route
  | [] => .ok ⟨field, [], []⟩
  | segment :: rest =>
    match Schema.field? field.fields segment with
    | none => .error 1
    | some next =>
      match next.follow rest with
      | .error failed => .error (failed + 1)
      | .ok route =>
        if field.collection = some .list then
          .ok ⟨route.field, [], (segment :: route.first) :: route.others⟩
        else .ok { route with first := segment :: route.first }

namespace Schema

/-- The field that the first segment of a selector stands for. -/
def start? (schema : Schema) (scope : Scope) (segment : String) : Option Field :=
  (scope.lookup segment).or (schema.field? segment)

/-- The route of a selector. -/
def route (schema : Schema) (scope : Scope) (selector : Selector) : Except CheckError Route :=
  match selector.path with
  | [] => .error (.invalidSelector (selector.take 0))
  | segment :: rest =>
    match schema.start? scope segment with
    | none => .error (.invalidSelector (selector.take 1))
    | some field =>
      match field.follow rest with
      | .error failed => .error (.invalidSelector (selector.take (failed + 1)))
      | .ok route => .ok { route with first := segment :: route.first }

end Schema

/-- What is known of the names of a binding over a collection. -/
def Binding.fields (binding : Binding) (collection : Field) : Scope :=
  let known (name : String) (field : Option Field) : Scope :=
    (field.map fun field => (name, field)).toList
  match binding with
  | each name =>
    known name (if collection.collection = some .map then collection.index else collection.value)
  | index name => known name collection.index
  | value name => known name collection.value
  | both i v => known i collection.index ++ known v collection.value

/-- The name that the quantifiers over lists passed through bind. -/
def passedName : String := "$v"

/-- A node inside one `any` per list passed through. The node and each of the quantifiers selects
from the element that the quantifier around it binds. -/
def passThrough {ν : Type} (form : SelectorForm) (node : Selector → Expr ν) (first : List String) :
    List (List String) → Expr ν
  | [] => node ⟨form, first⟩
  | next :: others =>
    .quantified .any ⟨form, first⟩ (.value passedName)
      (passThrough form node (passedName :: next) others)

/-! ## Checking -/

/-- Limits of what is accepted, zero meaning none. -/
structure Limits where
  maxTests : Nat := 0
  maxLiteralLength : Nat := 0
deriving DecidableEq, Repr

/-- The literal of a test, read as the type of the field and, where it is a pattern, tried. -/
def checkLiteral (patterns : PatternEngine) (field : Field) (selector : Selector)
    (operator : Operator) (raw : String) : Except CheckError CheckedLiteral := do
  let converted ← match field.literalType with
    | none => pure none
    | some type =>
      match type.read raw with
      | .ok literal => pure (some literal)
      | .error cause => throw (.badLiteral raw selector cause)
  let literal : CheckedLiteral := ⟨raw, converted⟩
  if operator.takesPattern then
    match converted with
    | none | some (.string _) =>
      if (literal.pattern? patterns).isNone then throw (.badPattern literal.asText selector)
      else return literal
    | some _ => throw (.patternOfOtherType selector)
  else return literal

/-- What is asked of a test before any schema: that its literal is there and not too long, in
bytes. -/
def checkForm (limits : Limits) (selector : Selector) (operator : Operator)
    (literal : Option String) : Except CheckError Unit := do
  if let some raw := literal then
    if 0 < limits.maxLiteralLength ∧ limits.maxLiteralLength < raw.utf8ByteSize then
      throw (.literalTooLong selector limits.maxLiteralLength)
  if operator.takesLiteral ∧ literal = none then throw (.missingLiteral operator)

/-- Checks a test under a schema. -/
def Schema.checkTest (patterns : PatternEngine) (schema : Schema) (scope : Scope)
    (selector : Selector) (operator : Operator) (literal : Option String) :
    Traced Event CheckError CheckedExpr := do
  let route ← .ofExcept (schema.route scope selector)
  if !route.field.supports operator then
    .fail (.unsupportedOperator operator selector)
  else do
    let checked ← .ofExcept (literal.mapM (checkLiteral patterns route.field selector operator))
    if route.others ≠ [] then .note (.expanded selector.text)
    return passThrough selector.form (.test · operator checked) route.first route.others

/-- Checks an expression inside a scope, and goes on counting tests from a number. Without a schema
only the form of the tests is looked at. -/
def checkIn (patterns : PatternEngine) (limits : Limits) (schema : Option Schema) :
    Scope → Expr String → Nat → Traced Event CheckError (CheckedExpr × Nat)
  | scope, .test selector operator literal, tests => do
    .ofExcept (checkForm limits selector operator literal)
    match schema with
    | none => return (.test selector operator (literal.map fun raw => ⟨raw, none⟩), tests + 1)
    | some schema =>
      return (← schema.checkTest patterns scope selector operator literal, tests + 1)
  | scope, .not operand, tests => do
    let (operand, tests) ← checkIn patterns limits schema scope operand tests
    return (.not operand, tests)
  | scope, .and left right, tests => do
    let (left, tests) ← checkIn patterns limits schema scope left tests
    let (right, tests) ← checkIn patterns limits schema scope right tests
    return (.and left right, tests)
  | scope, .or left right, tests => do
    let (left, tests) ← checkIn patterns limits schema scope left tests
    let (right, tests) ← checkIn patterns limits schema scope right tests
    return (.or left right, tests)
  | scope, .quantified quantifier selector binding body, tests =>
    match schema with
    | none => do
      let (body, tests) ← checkIn patterns limits none scope body tests
      return (.quantified quantifier selector binding body, tests)
    | some schema => do
      let route ← .ofExcept (schema.route scope selector)
      if route.field.collection = none then .fail (.notCollection quantifier selector)
      else do
        let inner := binding.fields route.field ++ scope
        let (body, tests) ← checkIn patterns limits (some schema) inner body tests
        return (passThrough selector.form (.quantified quantifier · binding body)
          route.first route.others, tests)

/-- Checks a whole expression and counts its tests. An empty schema counts as none. The number of
tests is looked at last. -/
def check (patterns : PatternEngine) (limits : Limits) (schema : Option Schema)
    (expression : Expr String) : Traced Event CheckError (CheckedExpr × Nat) := do
  let known := schema.filter fun schema => !schema.isEmpty
  let (checked, tests) ← checkIn patterns limits known [] expression 0
  if 0 < limits.maxTests ∧ limits.maxTests < tests then
    .fail (.tooManyTests tests limits.maxTests)
  else return (checked, tests)

end Sift
