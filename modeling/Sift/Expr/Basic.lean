import Sift.Operator
import Sift.Selector

/-!
# Expressions

An expression tests selected data and combines the tests by `not`, `and`, `or` and quantifiers.
The tree is the same before and after checking; what changes is what is known of a literal, so the
type `ν` of literals is a parameter.
-/

namespace Sift

/-- The names that a quantifier gives to what it visits. -/
inductive Binding where
  /-- `name`: the element of a list, the key of a map. -/
  | each (name : String)
  /-- `name, _`: the position in a list, the key of a map. -/
  | index (name : String)
  /-- `_, name`: the element of a list, the value of a map. -/
  | value (name : String)
  /-- `index, value`: both. -/
  | both (index value : String)
deriving DecidableEq, Repr

namespace Binding

/-- The name of the position or key, where it has a place of its own. -/
def indexName? : Binding → Option String
  | index name => some name
  | both name _ => some name
  | _ => none

/-- The name of the element or value, where it has a place of its own. -/
def valueName? : Binding → Option String
  | value name => some name
  | both _ name => some name
  | _ => none

/-- How the binding is written. -/
def text : Binding → String
  | each name => name
  | index name => name ++ ", _"
  | value name => "_, " ++ name
  | both i v => i ++ ", " ++ v

end Binding

/-- An expression with literals of type `ν`. -/
inductive Expr (ν : Type) where
  /-- A test of a selected datum; emptiness takes no literal. -/
  | test (selector : Selector) (operator : Operator) (literal : Option ν)
  | not (operand : Expr ν)
  | and (left right : Expr ν)
  | or (left right : Expr ν)
  /-- A body that some or every element of a selected collection has to satisfy. -/
  | quantified (quantifier : Quantifier) (selector : Selector) (binding : Binding)
    (body : Expr ν)
deriving DecidableEq, Repr

namespace Expr

variable {ν : Type}

/-- The number of tests in an expression. -/
def testCount : Expr ν → Nat
  | test .. => 1
  | not operand => operand.testCount
  | and left right => left.testCount + right.testCount
  | or left right => left.testCount + right.testCount
  | quantified _ _ _ body => body.testCount

end Expr

end Sift
