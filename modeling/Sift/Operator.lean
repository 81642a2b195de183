/-!
# Operators

The operators that compare a selected datum with a literal, and the quantifiers over the elements
of a collection.
-/

namespace Sift

/-- How a selected datum is tested. -/
inductive Operator where
  | equal
  | notEqual
  /-- Membership of the literal in the datum, `in` and `contains`. -/
  | isIn
  | notIn
  | isEmpty
  | isNotEmpty
  /-- A search for a pattern in a text. -/
  | isMatch
  | notMatch
  | less
  | lessEqual
  | greater
  | greaterEqual
deriving DecidableEq, Repr

namespace Operator

/-- All operators, in the order in which they are listed. -/
def all : List Operator :=
  [equal, notEqual, isIn, notIn, isEmpty, isNotEmpty, isMatch, notMatch,
   less, lessEqual, greater, greaterEqual]

/-- The name shown in outlines and messages. -/
def name : Operator → String
  | equal => "Equal"
  | notEqual => "Not Equal"
  | isIn => "In"
  | notIn => "Not In"
  | isEmpty => "Is Empty"
  | isNotEmpty => "Is Not Empty"
  | isMatch => "Matches"
  | notMatch => "Not Matches"
  | less => "Less Than"
  | lessEqual => "Less Than Or Equal"
  | greater => "Greater Than"
  | greaterEqual => "Greater Than Or Equal"

/-- Whether the operator takes a literal. -/
def takesLiteral : Operator → Bool
  | isEmpty | isNotEmpty => false
  | _ => true

/-- Whether the operator searches for a pattern. -/
def takesPattern : Operator → Bool
  | isMatch | notMatch => true
  | _ => false

/-- The answer for a datum that is not there: what is absent is empty, equals nothing, holds
nothing and matches nothing. -/
def ifAbsent : Operator → Bool
  | notEqual | notIn | isEmpty | notMatch => true
  | _ => false

end Operator

/-- Whether some or every element has to satisfy the body. -/
inductive Quantifier where
  | any
  | all
deriving DecidableEq, Repr

namespace Quantifier

/-- The name shown in outlines and messages. -/
def name : Quantifier → String
  | any => "Any"
  | all => "All"

/-- The answer over no elements at all. -/
def ifNone : Quantifier → Bool
  | any => false
  | all => true

end Quantifier

end Sift
