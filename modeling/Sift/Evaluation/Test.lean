import Sift.Check
import Sift.Evaluation.Path

/-!
# Testing a datum

What each operator says of a datum that has been found. A literal is compared as the kind of the
datum: as it was converted when the expression was checked, if that is of the same kind, and as
read from its text otherwise. Equality and order are one comparison, which has no result for a
NaN; membership compares with each element and passes over those the literal cannot be read for.
-/

namespace Sift

/-! ## Errors -/

/-- Why an evaluation has no answer. -/
inductive EvalError where
  | unresolved (error : PathError)
  /-- A selector goes on behind a bound name that stands for a scalar. -/
  | boundScalar (name : String) (kind : Kind) (path : List String)
  | notCollection (selector : Selector)
  | notComparable (selector : Selector) (kind : Kind)
  | badLiteral (raw : String) (selector : Selector) (cause : LiteralError)
  | noMembership (kind : Kind) (selector : Selector)
  | noEmptiness (kind : Kind) (selector : Selector)
  | notMatchable (kind : Kind) (selector : Selector)
  | badPattern (selector : Selector)
  /-- A judge refused to decide. -/
  | judgeFailed (selector : Selector) (reason : String)
  | judgeNotIterable (selector : Selector)
  | missingLiteral (operator : Operator)
  /-- A typed query was given a datum of another type. -/
  | otherType (expected actual : String)
  /-- Nothing was found and nothing may be missing. -/
  | missing (selector : Selector)
  | notFilterable (kind : Kind)
deriving DecidableEq, Repr

namespace EvalError

/-- The wording of the error. -/
def message : EvalError → String
  | unresolved error => "error finding value in datum: " ++ error.message
  | boundScalar name kind path =>
    s!"{Pointer.encode [name]} references a {kind.name} so {Pointer.encode path} is invalid"
  | notCollection selector => s!"{selector.text} is not a list or a map"
  | notComparable selector kind =>
    "unable to find suitable primitive comparison function for selector " ++
      s!"\"{selector.text}\" of kind {kind.name}"
  | badLiteral raw selector cause =>
    s!"Failed to coerce value \"{raw}\" for selector \"{selector.text}\": {cause.message}"
  | noMembership kind selector =>
    s!"Cannot perform in/contains operations on type {kind.name} for selector: " ++
      s!"\"{selector.text}\""
  | noEmptiness kind selector =>
    s!"Cannot perform is empty operations on type {kind.name} for selector: \"{selector.text}\""
  | notMatchable kind selector =>
    s!"Cannot perform match operations on type {kind.name} for selector: \"{selector.text}\""
  | badPattern selector =>
    s!"Failed to compile regular expression for selector \"{selector.text}\""
  | judgeFailed selector reason =>
    s!"custom matcher for selector \"{selector.text}\" failed: {reason}"
  | judgeNotIterable selector =>
    s!"cannot iterate over the custom value at selector \"{selector.text}\""
  | missingLiteral operator => s!"match operator \"{operator.name}\" requires a value"
  | otherType expected actual => s!"evaluator was compiled for {expected} but was given {actual}"
  | missing selector => s!"value for selector \"{selector.text}\" is missing"
  | notFilterable kind => s!"cannot filter a value of kind {kind.name}"

end EvalError

/-! ## Comparison -/

/-- The kind of data that a literal compares with directly. -/
def Literal.kind : Literal → Kind
  | bool _ => .bool
  | int _ => .int
  | uint _ => .uint
  | float32 _ => .float32
  | float64 _ => .float64
  | string _ => .string

/-- A literal as one of the kind of a datum; there is none for what is not a scalar. -/
def CheckedLiteral.for? (l : CheckedLiteral) (d : Datum) :
    Option (Except LiteralError Literal) :=
  match l.converted with
  | some literal => if literal.kind = d.kind then some (.ok literal) else d.readLiteral? l.raw
  | none => d.readLiteral? l.raw

namespace Datum

/-- How a datum is ordered against a literal. An integer also compares with a decimal, after
rounding to its format. -/
def order (d : Datum) (l : Literal) : Option Ordering :=
  match d, l with
  | bool a, .bool b => some (compare a b)
  | int a, .int b => some (compare a.toInt b.toInt)
  | uint a, .uint b => some (compare a.toNat b.toNat)
  | float32 a, .float32 b => a.order b
  | float64 a, .float64 b => a.order b
  | int a, .float64 b => (Binary.ofInt a.toInt).order b
  | uint a, .float64 b => (Binary.ofInt a.toNat).order b
  | string a, .string b => some (compare a b)
  | _, _ => none

/-- Whether a datum equals a literal, which it does not if the literal cannot be read for it. -/
def equalsLiteral (d : Datum) (l : CheckedLiteral) : Bool :=
  match l.for? d with
  | some (.ok literal) => d.order literal == some .eq
  | _ => false

end Datum

/-- Whether a run of characters occurs in a text. -/
def occursIn (run : List Char) : List Char → Bool
  | [] => run.isEmpty
  | c :: rest => run.isPrefixOf (c :: rest) || occursIn run rest

/-! ## Operators -/

/-- A test of a datum that has been found. -/
structure Test where
  selector : Selector
  operator : Operator
  literal : Option CheckedLiteral

namespace Test

/-- The literal of the test, which has to be there. -/
def literal! (t : Test) : Except EvalError CheckedLiteral :=
  match t.literal with
  | some literal => .ok literal
  | none => .error (.missingLiteral t.operator)

/-- The datum ordered against the literal. -/
def compared (t : Test) (d : Datum) : Except EvalError (Option Ordering) := do
  let literal ← t.literal!
  match literal.for? d with
  | none => .error (.notComparable t.selector d.kind)
  | some (.error cause) => .error (.badLiteral literal.raw t.selector cause)
  | some (.ok value) => .ok (d.order value)

/-- Whether the literal is in the datum: a key of a map, an element of a list, a part of a
text. -/
def contained (t : Test) (d : Datum) : Except EvalError Bool := do
  let literal ← t.literal!
  match d with
  | .map entries => .ok (entries.any fun (key, _) => key == literal.asText)
  | .pairs entries => .ok (entries.any fun (key, _) => key.equalsLiteral literal)
  | .list items => .ok (items.any fun item => item.equalsLiteral literal)
  | .string s => .ok (occursIn literal.asText.toList s.toList)
  | other => .error (.noMembership other.kind t.selector)

/-- Whether the datum is empty. -/
def emptied (t : Test) (d : Datum) : Except EvalError Bool :=
  match d.isEmpty? with
  | some answer => .ok answer
  | none => .error (.noEmptiness d.kind t.selector)

/-- Whether the datum holds a match of the literal as a pattern. -/
def matched (t : Test) (patterns : PatternEngine) (d : Datum) : Except EvalError Bool :=
  match d with
  | .string s => do
    match (← t.literal!).pattern? patterns with
    | some isMatch => .ok (isMatch s)
    | none => .error (.badPattern t.selector)
  | other => .error (.notMatchable other.kind t.selector)

/-- Whether the datum is ordered against the literal in a given way. Truth values and what is not
a scalar have no order; what is not comparable is ordered in no way. -/
def ordered (t : Test) (d : Datum) (holds : Ordering → Bool) : Except EvalError Bool :=
  if !d.isScalar || d.kind == .bool then .error (.notComparable t.selector d.kind)
  else do
    match ← t.compared d with
    | some ordering => .ok (holds ordering)
    | none => .ok false

/-- The answer of the test. -/
def run (t : Test) (patterns : PatternEngine) (d : Datum) : Except EvalError Bool :=
  match t.operator with
  | .equal => return (← t.compared d) == some .eq
  | .notEqual => return (← t.compared d) != some .eq
  | .isIn => t.contained d
  | .notIn => return !(← t.contained d)
  | .isEmpty => t.emptied d
  | .isNotEmpty => return !(← t.emptied d)
  | .isMatch => t.matched patterns d
  | .notMatch => return !(← t.matched patterns d)
  | .less => t.ordered d (· == .lt)
  | .lessEqual => t.ordered d (· != .gt)
  | .greater => t.ordered d (· == .gt)
  | .greaterEqual => t.ordered d (· != .lt)

end Test

end Sift
