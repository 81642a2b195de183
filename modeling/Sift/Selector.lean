import Sift.Unicode.Property

/-!
# Selectors

A selector is a path into a datum, written either as words (`foo.bar`) or as a pointer text
(`"/foo/bar"`). Both forms hold the same list of segments; the form is kept because it decides
how the selector is shown.
-/

namespace Sift

/-! ## Pointer texts -/

namespace Pointer

/-- Replaces every occurrence of a character by `~` and a digit. -/
def escape (digit escaped : Char) (text : List Char) : List Char :=
  text.flatMap fun c => if c = escaped then ['~', digit] else [c]

/-- A segment as it stands in a pointer text: tildes are escaped before slashes. -/
def encodeSegment (segment : String) : String :=
  String.ofList (escape '1' '/' (escape '0' '~' segment.toList))

/-- A path as a pointer text. -/
def encode (path : List String) : String :=
  String.join (path.map fun segment => "/" ++ encodeSegment segment)

/-- Replaces every `~` that a given digit follows by a character. -/
def unescape (digit restored : Char) : List Char → List Char
  | '~' :: c :: rest =>
    if c = digit then restored :: unescape digit restored rest
    else '~' :: unescape digit restored (c :: rest)
  | c :: rest => c :: unescape digit restored rest
  | [] => []

/-- The segment that an encoded one stands for: slashes are restored before tildes. -/
def decodeSegment (segment : List Char) : List Char :=
  unescape '0' '~' (unescape '1' '/' segment)

/-- Whether a character may stand in an encoded segment. -/
def isSegmentChar (c : Char) : Bool :=
  Unicode.isAlphanumeric c || ['-', '_', '.', '~', ':', '|'].contains c

/-- The path that a pointer text stands for. It starts with a slash, and no segment is empty or
holds a character outside `isSegmentChar`. -/
def decode? (text : String) : Option (List String) :=
  match text.toList with
  | '/' :: rest =>
    let segments := rest.splitOn '/'
    if segments.all fun segment => segment != [] && segment.all isSegmentChar then
      some (segments.map fun segment => String.ofList (decodeSegment segment))
    else none
  | _ => none

end Pointer

/-! ## Selectors -/

/-- How a selector is written. -/
inductive SelectorForm where
  /-- Words between points. -/
  | words
  /-- A pointer text between quotes. -/
  | pointer
deriving DecidableEq, Repr

/-- A path into a datum and the form it was written in. -/
structure Selector where
  form : SelectorForm
  path : List String
deriving DecidableEq, Repr

namespace Selector

/-- The path as a pointer text, whatever the form. -/
def toPointer (s : Selector) : String := Pointer.encode s.path

/-- The selector as outlines and messages show it. -/
def text (s : Selector) : String :=
  match s.form with
  | .words => ".".intercalate s.path
  | .pointer => s.toPointer

/-- The selector of the first `n` segments. -/
def take (n : Nat) (s : Selector) : Selector := ⟨s.form, s.path.take n⟩

end Selector

end Sift
