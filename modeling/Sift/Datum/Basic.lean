import Sift.Literal.Reading
import Sift.Operator

/-!
# Data

A `Datum` is what an expression is evaluated against. Host values turn into data once; from then
on only data are looked at. Besides the usual shapes there are maps under keys of any kind
(`pairs`), records whose fields carry a visibility and tags, and judges, which decide matches on
themselves instead of being looked into.
-/

namespace Sift

/-! ## Record members -/

/-- What is known about a field of a record apart from its type or value. -/
structure Member where
  /-- The name the field is declared under. -/
  name : String
  /-- A private field cannot be reached by any expression. -/
  isPrivate : Bool := false
  /-- Directives under the names of their tags; the first one under a name counts. -/
  tags : List (String × String) := []
deriving DecidableEq, Repr

/-- What the exposure of a field under a tag says. -/
inductive Exposure where
  /-- The field cannot be reached and its name is free. -/
  | hidden
  /-- The field is excluded by the tag. -/
  | ignored
  /-- The field can be reached under these names. -/
  | names (names : List String)
deriving DecidableEq, Repr

/-- A text without the white space around it. -/
def trimmed (text : List Char) : List Char :=
  ((text.dropWhile Unicode.isWhiteSpace).reverse.dropWhile Unicode.isWhiteSpace).reverse

/-- The parts of a directive between commas, trimmed, without the empty ones. -/
def aliasesOf (directive : String) : List String :=
  (((directive.toList.splitOn ',').map trimmed).filter (· ≠ [])).map String.ofList

namespace Member

/-- The directive of a field under a tag. -/
def directive? (m : Member) (tag : String) : Option String := m.tags.lookup tag

/-- How a field is exposed under a tag: a directive `-` excludes it, any other one gives its names,
and without names it goes by its own. -/
def exposure (m : Member) (tag : String) : Exposure :=
  if m.isPrivate then .hidden
  else match m.directive? tag with
    | none => .names [m.name]
    | some directive =>
      if directive = "-" then .ignored
      else match aliasesOf directive with
        | [] => .names [m.name]
        | aliases => .names aliases

end Member

/-! ## Judges -/

/-- A value that decides matches on itself, given the rest of the path, the operator and the
literal if there is one. Judges are told apart by their identity. -/
structure Judge where
  id : Nat
  decide : List String → Operator → Option Literal → Except String Bool

/-! ## Data -/

/-- A value that expressions can be evaluated against. -/
inductive Datum where
  /-- An absent value. -/
  | null
  | bool (b : Bool)
  | int (n : Int64)
  | uint (n : UInt64)
  | float32 (x : Binary32)
  | float64 (x : Binary64)
  | string (s : String)
  | list (items : List Datum)
  /-- Entries under texts. -/
  | map (entries : List (String × Datum))
  /-- Entries under keys of any kind. -/
  | pairs (entries : List (Datum × Datum))
  | record (typeName : String) (fields : List (Member × Datum))
  | judge (j : Judge)
deriving Inhabited

/-- The kinds of data that messages distinguish. -/
inductive Kind where
  | null
  | bool
  | int
  | uint
  | float32
  | float64
  | string
  | list
  | map
  | record
  | judge
deriving DecidableEq, Repr

/-- The name shown in messages. -/
def Kind.name : Kind → String
  | null => "null"
  | bool => "bool"
  | int => "int"
  | uint => "uint"
  | float32 => "float32"
  | float64 => "float64"
  | string => "string"
  | list => "list"
  | map => "map"
  | record => "struct"
  | judge => "custom"

namespace Datum

/-- The kind of a datum; both sorts of maps are of one kind. -/
def kind : Datum → Kind
  | null => .null
  | bool _ => .bool
  | int _ => .int
  | uint _ => .uint
  | float32 _ => .float32
  | float64 _ => .float64
  | string _ => .string
  | list _ => .list
  | map _ | pairs _ => .map
  | record .. => .record
  | judge _ => .judge

def isNull : Datum → Bool
  | null => true
  | _ => false

/-- Whether a datum is a truth value, a number or a text. -/
def isScalar : Datum → Bool
  | bool _ | int _ | uint _ | float32 _ | float64 _ | string _ => true
  | _ => false

/-- The text of a text. -/
def text? : Datum → Option String
  | string s => some s
  | _ => none

/-- How much a text (in bytes), a list or a map holds. -/
def size? : Datum → Option Nat
  | string s => some s.utf8ByteSize
  | list items => some items.length
  | map entries => some entries.length
  | pairs entries => some entries.length
  | _ => none

/-- Whether a text, a list or a map is empty. -/
def isEmpty? (d : Datum) : Option Bool := d.size?.map (· == 0)

/-- A literal as a datum. -/
def ofLiteral : Literal → Datum
  | .bool b => bool b
  | .int n => int n
  | .uint n => uint n
  | .float32 x => float32 x
  | .float64 x => float64 x
  | .string s => string s

/-- Reads a text as a literal of the kind of a scalar. An integer may also be compared with a
finite decimal. -/
def readLiteral? (d : Datum) (raw : String) : Option (Except LiteralError Literal) :=
  match d with
  | bool _ => some (LiteralType.bool.read raw)
  | int _ => some ((LiteralType.int .w64).readNumber raw)
  | uint _ => some ((LiteralType.uint .w64).readNumber raw)
  | float32 _ => some (LiteralType.float32.read raw)
  | float64 _ => some (LiteralType.float64.read raw)
  | string _ => some (LiteralType.string.read raw)
  | _ => none

/-! ## Equality -/

mutual

/-- Whether two data are the same: of one kind, with equal parts in the same order. Numbers of
different kinds are never the same. -/
def same : Datum → Datum → Bool
  | null, null => true
  | bool a, bool b => a == b
  | int a, int b => a == b
  | uint a, uint b => a == b
  | float32 a, float32 b => a.equals b
  | float64 a, float64 b => a.equals b
  | string a, string b => a == b
  | list a, list b => sameItems a b
  | map a, map b => sameEntries a b
  | pairs a, pairs b => samePairs a b
  | record a as, record b bs => a == b && sameFields as bs
  | judge a, judge b => a.id == b.id
  | _, _ => false

def sameItems : List Datum → List Datum → Bool
  | [], [] => true
  | a :: as, b :: bs => same a b && sameItems as bs
  | _, _ => false

def sameEntries : List (String × Datum) → List (String × Datum) → Bool
  | [], [] => true
  | (j, a) :: as, (k, b) :: bs => j == k && same a b && sameEntries as bs
  | _, _ => false

def samePairs : List (Datum × Datum) → List (Datum × Datum) → Bool
  | [], [] => true
  | (j, a) :: as, (k, b) :: bs => same j k && same a b && samePairs as bs
  | _, _ => false

def sameFields : List (Member × Datum) → List (Member × Datum) → Bool
  | [], [] => true
  | (m, a) :: as, (n, b) :: bs => m == n && same a b && sameFields as bs
  | _, _ => false

end

instance : BEq Datum := ⟨same⟩

end Datum

end Sift
