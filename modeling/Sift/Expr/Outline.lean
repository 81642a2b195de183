import Sift.Expr.Basic
import Sift.Text.Quoted

/-!
# Outlines

An outline shows an expression as nested braces, a node to a block and a property to a line, with
the literals as they were written.
-/

namespace Sift.Expr

variable {ν : Type}

/-- The indentation of a level in the usual outline. -/
def usualIndent : String := "   "

/-- An indentation repeated for every level. -/
def indentation (indent : String) (level : Nat) : String :=
  String.join (List.replicate level indent)

/-- A block of a title and the text between its braces. -/
def block (margin title inner : String) : String :=
  margin ++ title ++ " \x7b\n" ++ inner ++ margin ++ "\x7d\n"

/-- The outline of an expression from a level on, `raw` telling how a literal was written. -/
def outline (raw : ν → String) (indent : String) (level : Nat) : Expr ν → String
  | test selector operator literal =>
    let margin := indentation indent level
    let line (text : String) : String := margin ++ indent ++ text ++ "\n"
    let value := match literal with
      | some literal => line ("Value: " ++ Text.quoted (raw literal))
      | none => ""
    block margin operator.name (line ("Selector: " ++ selector.text) ++ value)
  | not operand =>
    block (indentation indent level) "Not" (outline raw indent (level + 1) operand)
  | and left right =>
    block (indentation indent level) "And"
      (outline raw indent (level + 1) left ++ outline raw indent (level + 1) right)
  | or left right =>
    block (indentation indent level) "Or"
      (outline raw indent (level + 1) left ++ outline raw indent (level + 1) right)
  | quantified quantifier selector binding body =>
    let margin := indentation indent level
    let line (text : String) : String := margin ++ indent ++ text ++ "\n"
    block margin quantifier.name
      (line ("Selector: " ++ selector.text) ++ line ("Bind: " ++ binding.text) ++
        outline raw indent (level + 1) body)

end Sift.Expr
