import Sift.Unicode.Folding
import Sift.Unicode.Property
import Sift.Unicode.Script

/-!
# Patterns

A pattern describes texts: a character of a class, an assertion about the place between two
characters, and sequences, alternatives and repetitions of patterns. Greediness, groups and
their names do not appear, because they do not change which texts hold a match.
-/

namespace Sift.Pattern

/-! ## Classes of characters -/

/-- A property that a class can be made of. -/
inductive Property where
  /-- One of these general categories. -/
  | categories (categories : List Unicode.Category)
  /-- The script with this code. -/
  | script (code : String)
  /-- Use with the script of this code. -/
  | scriptExtension (code : String)
  | whiteSpace
  /-- What words are made of. -/
  | word
  /-- A property of its own. -/
  | predicate (holds : Char → Bool)

namespace Property

/-- Whether a character has the property. -/
def holds : Property → Char → Bool
  | categories cs, c => cs.contains (Unicode.category c)
  | script code, c => Unicode.Script.code c == code
  | scriptExtension code, c => (Unicode.Script.extensionCodes c).contains code
  | whiteSpace, c => Unicode.isWhiteSpace c
  | word, c => Unicode.isWordCharacter c
  | predicate p, c => p c

end Property

/-- A class of characters. -/
inductive CharClass where
  | none
  /-- The characters from the first to the last. -/
  | range (first last : Char)
  | property (p : Property)
  | union (a b : CharClass)
  | intersection (a b : CharClass)
  | difference (a b : CharClass)
  | symmetricDifference (a b : CharClass)
  | negation (a : CharClass)
  /-- All characters that differ from one of the class in case only. -/
  | caseless (a : CharClass)
  /-- The same among the ASCII letters. -/
  | asciiCaseless (a : CharClass)

namespace CharClass

/-- A class of one character. -/
def one (c : Char) : CharClass := range c c

/-- The other case of an ASCII letter, beside the character itself. -/
def asciiVariants (c : Char) : List Char :=
  if c.isUpper then [c, c.toLower] else if c.isLower then [c, c.toUpper] else [c]

/-- Whether a character is in a class. -/
def contains : CharClass → Char → Bool
  | none, _ => false
  | range first last, c => first ≤ c && c ≤ last
  | property p, c => p.holds c
  | union a b, c => a.contains c || b.contains c
  | intersection a b, c => a.contains c && b.contains c
  | difference a b, c => a.contains c && !b.contains c
  | symmetricDifference a b, c => a.contains c != b.contains c
  | negation a, c => !a.contains c
  | caseless a, c => (Unicode.caseVariants c).any fun d => a.contains d
  | asciiCaseless a, c => (asciiVariants c).any fun d => a.contains d

end CharClass

/-! ## Assertions -/

/-- An assertion about a place in a text. -/
inductive Look where
  | textStart
  | textEnd
  | lineStart
  | lineEnd
  /-- As `lineStart`, where a carriage return, alone or before a line feed, ends lines, too. -/
  | crlfLineStart
  | crlfLineEnd
  | wordBoundary (ascii : Bool)
  | notWordBoundary (ascii : Bool)
  | wordStart (ascii : Bool)
  | wordEnd (ascii : Bool)
  /-- No word goes on before the place. -/
  | wordStartHalf (ascii : Bool)
  /-- No word goes on behind the place. -/
  | wordEndHalf (ascii : Bool)
deriving DecidableEq, Repr

namespace Look

/-- Whether a character, if there is one, belongs to a word. -/
def inWord (ascii : Bool) : Option Char → Bool
  | none => false
  | some c => if ascii then c.isAlphanum || c == '_' else Unicode.isWordCharacter c

/-- Whether the assertion holds between two characters; at an end of the text one is missing. -/
def holds (look : Look) (before behind : Option Char) : Bool :=
  match look with
  | textStart => before.isNone
  | textEnd => behind.isNone
  | lineStart => before.isNone || before == some '\n'
  | lineEnd => behind.isNone || behind == some '\n'
  | crlfLineStart =>
    before.isNone || before == some '\n' || (before == some '\r' && behind != some '\n')
  | crlfLineEnd =>
    behind.isNone || behind == some '\r' || (behind == some '\n' && before != some '\r')
  | wordBoundary ascii => inWord ascii before != inWord ascii behind
  | notWordBoundary ascii => inWord ascii before == inWord ascii behind
  | wordStart ascii => !inWord ascii before && inWord ascii behind
  | wordEnd ascii => inWord ascii before && !inWord ascii behind
  | wordStartHalf ascii => !inWord ascii before
  | wordEndHalf ascii => !inWord ascii behind

end Look

end Sift.Pattern

namespace Sift

/-! ## Patterns -/

open Pattern in
/-- A pattern. -/
inductive Pattern where
  | empty
  | char (set : CharClass)
  | look (look : Look)
  | seq (first second : Pattern)
  | alt (left right : Pattern)
  /-- The body at least `least` times and, if there is a bound, at most `most` times. -/
  | repeated (body : Pattern) (least : Nat) (most : Option Nat)

end Sift
