/-!
# Positions

A position tells where in a text something stands: its line and column, counted in characters
from one, and its offset, counted in bytes from zero. The position after a prefix of a text is
found by walking over the prefix, so every position that is built from `Position.after` is that
of some prefix.
-/

namespace Sift

/-- A place in a text. -/
structure Position where
  line : Nat
  column : Nat
  offset : Nat
deriving DecidableEq, Repr

namespace Position

/-- Where every text starts. -/
def start : Position := ⟨1, 1, 0⟩

/-- The place behind a character; a line feed starts a new line. -/
def next (p : Position) (c : Char) : Position :=
  if c = '\n' then ⟨p.line + 1, 1, p.offset + c.utf8Size⟩
  else ⟨p.line, p.column + 1, p.offset + c.utf8Size⟩

/-- The place behind a run of characters. -/
def after (p : Position) (text : List Char) : Position := text.foldl next p

/-- Line and column, with the offset in parentheses. -/
def text (p : Position) : String := s!"{p.line}:{p.column} ({p.offset})"

@[simp] theorem after_nil (p : Position) : p.after [] = p := rfl

@[simp] theorem after_cons (p : Position) (c : Char) (text : List Char) :
    p.after (c :: text) = (p.next c).after text := rfl

theorem after_append (p : Position) (s t : List Char) :
    p.after (s ++ t) = (p.after s).after t := List.foldl_append

end Position

end Sift
