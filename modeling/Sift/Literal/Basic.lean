import Sift.Number.Decimal
import Sift.Text.Quoted

/-!
# Literals

A literal is written as text and read as one of twelve types. Integer types differ in width, but
all signed literals are held in 64 bits, and so are all unsigned ones: the width only decides
which texts are in range.
-/

namespace Sift

/-- The width of an integer type. -/
inductive Width where
  | w8
  | w16
  | w32
  | w64
deriving DecidableEq, Repr

/-- The number of bits of a width. -/
def Width.bits : Width → Nat
  | w8 => 8
  | w16 => 16
  | w32 => 32
  | w64 => 64

/-- The types that a literal can be read as. -/
inductive LiteralType where
  | bool
  | int (width : Width)
  | uint (width : Width)
  | float32
  | float64
  | string
deriving DecidableEq, Repr

/-- The name shown in messages. -/
def LiteralType.name : LiteralType → String
  | bool => "bool"
  | int width => "int" ++ toString width.bits
  | uint width => "uint" ++ toString width.bits
  | float32 => "float32"
  | float64 => "float64"
  | string => "string"

/-- A literal that has been read. -/
inductive Literal where
  | bool (b : Bool)
  | int (n : Int64)
  | uint (n : UInt64)
  | float32 (x : Binary32)
  | float64 (x : Binary64)
  | string (s : String)
deriving DecidableEq

namespace Literal

/-- The plain text of a literal. -/
def text : Literal → String
  | bool b => if b then "true" else "false"
  | int n => toString n.toInt
  | uint n => toString n.toNat
  | float32 x => x.render .plain
  | float64 x => x.render .plain
  | string s => s

end Literal

/-- Why a text is no literal of a type. -/
inductive LiteralError where
  /-- The text is not of the form of the type. -/
  | malformed (type : LiteralType) (raw : String)
  /-- The text denotes a number that the type cannot hold. -/
  | outOfRange (type : LiteralType) (raw : String)
deriving DecidableEq, Repr

namespace LiteralError

/-- The wording of the error. -/
def message : LiteralError → String
  | malformed type raw => s!"parsing {Text.quoted raw} as {type.name}: invalid syntax"
  | outOfRange type raw => s!"parsing {Text.quoted raw} as {type.name}: value out of range"

end LiteralError

end Sift
