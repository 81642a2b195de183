import Sift.Pattern.Property
import Sift.Text.Digits

/-!
# Reading patterns

The reader takes the text of a pattern or refuses it. It knows the usual forms: classes in
brackets with set operations, escapes, properties, counted repetitions, groups with names, and
flags that hold to the end of their group. There are no back references and no assertions about
longer stretches of text, and nothing may be repeated that is not there.

Three limits refuse patterns that are well formed: of nesting, of the size of the program that the
pattern stands for, and of 32 bits for the numbers of repetitions.
-/

namespace Sift.Pattern

/-! ## Flags and blanks -/

/-- The flags that are in force at a place of a pattern. -/
structure Flags where
  ignoreCase : Bool := false
  multiLine : Bool := false
  dotAll : Bool := false
  crlf : Bool := false
  /-- Without it, classes and assertions know ASCII only. -/
  unicode : Bool := true
  /-- Blanks and comments are passed over. -/
  extended : Bool := false
deriving DecidableEq, Repr

mutual

/-- A text without leading blanks and comments. -/
def dropBlanks : List Char → List Char
  | [] => []
  | c :: rest =>
    if Unicode.isWhiteSpace c then dropBlanks rest
    else if c = '#' then dropComment rest
    else c :: rest

/-- A text behind the line that it starts in. -/
def dropComment : List Char → List Char
  | [] => []
  | c :: rest => if c = '\n' then dropBlanks rest else dropComment rest

end

/-- A text without the blanks that the flags pass over. -/
def skip (flags : Flags) (text : List Char) : List Char :=
  if flags.extended then dropBlanks text else text

/-- A reader takes a prefix off a text and gives the rest with what it read. -/
abbrev Reading (α : Type) := List Char → Option (α × List Char)

/-! ## Escapes -/

/-- What an escape or a single character stands for. -/
inductive Atom where
  | literal (c : Char)
  | set (chars : CharClass)
  | look (assertion : Look)

/-- Characters with a meaning of their own. -/
def isMeta (c : Char) : Bool := "\\.+*?()|[]\x7b\x7d^$#&-~".toList.contains c

/-- Characters that may stand behind a backslash for themselves: ASCII marks but angles. -/
def isEscapable (c : Char) : Bool :=
  isMeta c || (c.toNat < 128 && !c.isAlphanum && c != '<' && c != '>')

/-- The character with a code point in hexadecimal. -/
def hexChar? (digits : List Char) : Option Char :=
  let n := rowValue 16 digits
  if digits ≠ [] ∧ n.isValidChar then some (Char.ofNat n) else none

/-- A fixed number of hexadecimal digits, between which blanks may be passed over. -/
def fixedHex (flags : Flags) : Nat → List Char → Reading (List Char)
  | 0, digits, text => some (digits.reverse, text)
  | count + 1, digits, c :: rest =>
    if isDigitOf 16 c then
      fixedHex flags count (c :: digits) (if count = 0 then rest else skip flags rest)
    else none
  | _ + 1, _, [] => none

/-- Hexadecimal digits up to a closing brace. -/
def bracedHex (flags : Flags) (digits : List Char) : Nat → Reading (List Char)
  | 0, _ => none
  | steps + 1, text =>
    match skip flags text with
    | '\x7d' :: rest => some (digits.reverse, rest)
    | c :: rest => if isDigitOf 16 c then bracedHex flags (c :: digits) steps rest else none
    | [] => none

/-- A character by its code point, `count` being the number of digits without braces. -/
def hexEscape (flags : Flags) (count : Nat) : Reading Char := fun text =>
  match skip flags text with
  | [] => none
  | '\x7b' :: rest => do
    let (digits, rest) ← bracedHex flags [] (rest.length + 1) rest
    some (← hexChar? digits, rest)
  | text => do
    let (digits, rest) ← fixedHex flags count [] text
    some (← hexChar? digits, rest)

/-- The text up to a closing brace, without the blanks passed over. -/
def bracedName (flags : Flags) (name : List Char) : Nat → Reading (List Char)
  | 0, _ => none
  | steps + 1, text =>
    match skip flags text with
    | '\x7d' :: rest => some (name.reverse, rest)
    | c :: rest => bracedName flags (c :: name) steps rest
    | [] => none

/-- Splits a text at the first occurrence of a mark. -/
def cutAt? (mark : List Char) : List Char → Option (List Char × List Char)
  | [] => none
  | c :: rest =>
    if mark.isPrefixOf (c :: rest) then some ([], (c :: rest).drop mark.length)
    else (cutAt? mark rest).map fun (before, behind) => (c :: before, behind)

/-- The property that the text between braces asks for; the flag tells whether it is denied. -/
def propertyText? (text : List Char) : Option (Bool × Property) :=
  let valued (name value : List Char) : Option Property :=
    propertyValued? (String.ofList name) (String.ofList value)
  match cutAt? ['!', '='] text, cutAt? [':'] text, cutAt? ['='] text with
  | some (name, value), _, _ => (valued name value).map (true, ·)
  | none, some (name, value), _ => (valued name value).map (false, ·)
  | none, none, some (name, value) => (valued name value).map (false, ·)
  | none, none, none => (propertyNamed? (String.ofList text)).map (false, ·)

/-- A class under the flags: without case if they say so, and negated after that. -/
def finishClass (flags : Flags) (negated : Bool) (set : CharClass) : Option CharClass :=
  let folded := if flags.ignoreCase then
      if flags.unicode then CharClass.caseless set else .asciiCaseless set
    else set
  if negated then if flags.unicode then some (.negation folded) else none
  else some folded

/-- A class by a property, behind `\p` or `\P`. -/
def propertyEscape (flags : Flags) (negated : Bool) : Reading CharClass := fun text => do
  if !flags.unicode then none
  match skip flags text with
  | '\x7b' :: rest =>
    let (name, rest) ← bracedName flags [] (rest.length + 1) rest
    let (denied, property) ← propertyText? name
    some (← finishClass flags (negated != denied) (.property property), rest)
  | c :: rest =>
    if c = '\\' then none
    let property ← propertyNamed? (String.ofList [c])
    some (← finishClass flags negated (.property property), skip flags rest)
  | [] => none

/-- The digits of the ASCII characters, their blanks, and what words are made of there. -/
def asciiDigit : CharClass := .range '0' '9'
def asciiSpace : CharClass := .union (.range '\t' '\x0d') (.one ' ')
def asciiWord : CharClass :=
  .union (.union (.range '0' '9') (.range 'A' 'Z')) (.union (.range 'a' 'z') (.one '_'))

/-- The class behind one of the letters `d`, `s` and `w`, denied by their upper case. -/
def letterClass? (flags : Flags) (letter : Char) : Option CharClass := do
  let set ← match letter.toLower with
    | 'd' => some (if flags.unicode then .property (.categories [.nd]) else asciiDigit)
    | 's' => some (if flags.unicode then .property .whiteSpace else asciiSpace)
    | 'w' => some (if flags.unicode then .property .word else asciiWord)
    | _ => none
  if letter.isUpper then if flags.unicode then some (CharClass.negation set) else none
  else some set

/-- The kinds of word boundaries that have a name. -/
def namedBoundary? (ascii : Bool) (name : String) : Option Look :=
  match name with
  | "start" => some (.wordStart ascii)
  | "end" => some (.wordEnd ascii)
  | "start-half" => some (.wordStartHalf ascii)
  | "end-half" => some (.wordEndHalf ascii)
  | _ => none

/-- The name of a word boundary, up to its closing brace. -/
def boundaryName (flags : Flags) (name : List Char) : List Char → Option (String × List Char)
  | [] => none
  | c :: rest =>
    if c.isAlpha || c = '-' then boundaryName flags (c :: name) rest
    else if flags.extended && Unicode.isWhiteSpace c then boundaryName flags name rest
    else if c = '\x7d' then some (String.ofList name.reverse, rest)
    else none

/-- A word boundary, the `b` having been read. A brace with a letter or a dash in it names a kind;
any other brace is left to be a repetition. -/
def boundary (flags : Flags) : Reading Look := fun text =>
  let ascii := !flags.unicode
  match text with
  | '\x7b' :: rest =>
    match skip flags rest with
    | [] => none
    | c :: inner =>
      if c.isAlpha || c = '-' then do
        let (name, rest) ← boundaryName flags [] (c :: inner)
        some (← namedBoundary? ascii name, rest)
      else some (.wordBoundary ascii, text)
  | _ => some (.wordBoundary ascii, text)

/-- What stands behind a backslash. -/
def escape (flags : Flags) : Reading Atom
  | [] => none
  | c :: rest =>
    let ascii := !flags.unicode
    match c with
    | 'x' => (hexEscape flags 2 rest).map fun (c, rest) => (.literal c, rest)
    | 'u' => (hexEscape flags 4 rest).map fun (c, rest) => (.literal c, rest)
    | 'U' => (hexEscape flags 8 rest).map fun (c, rest) => (.literal c, rest)
    | 'p' => (propertyEscape flags false rest).map fun (set, rest) => (.set set, rest)
    | 'P' => (propertyEscape flags true rest).map fun (set, rest) => (.set set, rest)
    | 'd' | 's' | 'w' | 'D' | 'S' | 'W' => (letterClass? flags c).map fun set => (.set set, rest)
    | 'a' => some (.literal '\x07', rest)
    | 'f' => some (.literal '\x0c', rest)
    | 't' => some (.literal '\t', rest)
    | 'n' => some (.literal '\n', rest)
    | 'r' => some (.literal '\r', rest)
    | 'v' => some (.literal '\x0b', rest)
    | 'A' => some (.look .textStart, rest)
    | 'z' => some (.look .textEnd, rest)
    | 'b' => (boundary flags rest).map fun (assertion, rest) => (.look assertion, rest)
    | 'B' => some (.look (.notWordBoundary ascii), rest)
    | '<' => some (.look (.wordStart ascii), rest)
    | '>' => some (.look (.wordEnd ascii), rest)
    | c => if isEscapable c then some (.literal c, rest) else none

/-! ## Classes in brackets -/

/-- The classes of ASCII characters that have a name of their own. -/
def asciiClass? (name : String) : Option CharClass :=
  let upper := CharClass.range 'A' 'Z'
  let lower := CharClass.range 'a' 'z'
  match name with
  | "alnum" => some (.union asciiDigit (.union upper lower))
  | "alpha" => some (.union upper lower)
  | "ascii" => some (.range '\x00' '\x7f')
  | "blank" => some (.union (.one '\t') (.one ' '))
  | "cntrl" => some (.union (.range '\x00' '\x1f') (.one '\x7f'))
  | "digit" => some asciiDigit
  | "graph" => some (.range '!' '~')
  | "lower" => some lower
  | "print" => some (.range ' ' '~')
  | "punct" =>
    some (.union (.union (.range '!' '/') (.range ':' '@'))
      (.union (.range '[' (Char.ofNat 96)) (.range '\x7b' '~')))
  | "space" => some asciiSpace
  | "upper" => some upper
  | "word" => some asciiWord
  | "xdigit" => some (.union asciiDigit (.union (.range 'A' 'F') (.range 'a' 'f')))
  | _ => none

/-- A named class such as `[:alpha:]` behind its opening bracket; what only looks like one is
left to be a class in brackets. -/
def namedClass? (text : List Char) : Option (Bool × CharClass × List Char) := do
  let (negated, text) ← match text with
    | ':' :: '^' :: rest => some (true, rest)
    | ':' :: rest => some (false, rest)
    | _ => none
  match text.dropWhile (· ≠ ':') with
  | ':' :: ']' :: rest =>
    some (negated, ← asciiClass? (String.ofList (text.takeWhile (· ≠ ':'))), rest)
  | _ => none

/-- The operations on classes. -/
inductive SetOperation where
  | intersection
  | difference
  | symmetricDifference
deriving DecidableEq, Repr

/-- The result of an operation. -/
def SetOperation.apply : SetOperation → CharClass → CharClass → CharClass
  | intersection, a, b => .intersection a b
  | difference, a, b => .difference a b
  | symmetricDifference, a, b => .symmetricDifference a b

/-- What has been read between brackets: the left side of an operation that waits for its right
one, the items since, and how deep brackets are nested among them. -/
structure Bracket where
  pending : Option (SetOperation × CharClass) := none
  items : CharClass := .none
  depth : Nat := 0

namespace Bracket

/-- One more item. -/
def add (b : Bracket) (item : CharClass) : Bracket := { b with items := .union b.items item }

/-- The class read so far. The sides of an operation lose their case before it. -/
def result (flags : Flags) (b : Bracket) : CharClass :=
  match b.pending with
  | none => b.items
  | some (operation, left) =>
    let side (set : CharClass) : CharClass := (finishClass flags false set).getD set
    operation.apply (side left) (side b.items)

/-- The bracket after an operator. -/
def operate (flags : Flags) (b : Bracket) (operation : SetOperation) : Bracket :=
  { b with pending := some (operation, b.result flags), items := .none }

end Bracket

/-- A character that stands for itself, as far as the flags allow it. -/
def literal? (flags : Flags) (c : Char) : Option Char :=
  if flags.unicode || c.toNat < 128 then some c else none

/-- A character or an escape between brackets. -/
def classAtom (flags : Flags) : Reading Atom
  | [] => none
  | '\\' :: rest => escape flags rest
  | c :: rest => some (.literal c, rest)

/-- An atom as an item of a class; an assertion is none. -/
def Atom.item? (flags : Flags) : Atom → Option CharClass
  | .literal c => (literal? flags c).map CharClass.one
  | .set chars => some chars
  | .look _ => none

/-- A range or a single item. A dash before a closing bracket or another dash makes no range. -/
def classItem (flags : Flags) : Reading CharClass := fun text => do
  let (first, rest) ← classAtom flags text
  let rest := skip flags rest
  let single : Option (CharClass × List Char) := (first.item? flags).map (·, rest)
  match rest with
  | [] => none
  | '-' :: behind =>
    match skip flags behind with
    | [] => none
    | ']' :: _ | '-' :: _ => single
    | behind =>
      let (last, rest) ← classAtom flags behind
      match first, last with
      | .literal a, .literal b =>
        let a ← literal? flags a
        let b ← literal? flags b
        if a ≤ b then some (.range a b, rest) else none
      | _, _ => none
  | _ => single

/-- Dashes at the start of a class, which stand for themselves. -/
def leadingDashes (flags : Flags) (b : Bracket) : Nat → List Char → Bracket × List Char
  | 0, text => (b, text)
  | steps + 1, text =>
    match text with
    | '-' :: rest => leadingDashes flags (b.add (.one '-')) steps (skip flags rest)
    | _ => (b, text)

mutual

/-- A class behind its opening bracket, and how deep brackets are nested in it. -/
def bracket (flags : Flags) : Nat → Reading (CharClass × Nat)
  | 0, _ => none
  | steps + 1, text => do
    let text := skip flags text
    let (negated, text) := match text with
      | '^' :: rest => (true, skip flags rest)
      | _ => (false, text)
    let (start, text) := match leadingDashes flags {} text.length text with
      | (b, rest) =>
        match text, rest with
        | '-' :: _, _ => (b, rest)
        | _, ']' :: rest => (b.add (.one ']'), skip flags rest)
        | _, _ => (b, rest)
    let (closed, rest) ← bracketItems flags start steps text
    some ((← finishClass flags negated (closed.result flags), closed.depth + 1), rest)

/-- The items of a class up to its closing bracket. -/
def bracketItems (flags : Flags) (b : Bracket) : Nat → Reading Bracket
  | 0, _ => none
  | steps + 1, text =>
    match skip flags text with
    | [] => none
    | ']' :: rest => some (b, rest)
    | '&' :: '&' :: rest => bracketItems flags (b.operate flags .intersection) steps rest
    | '-' :: '-' :: rest => bracketItems flags (b.operate flags .difference) steps rest
    | '~' :: '~' :: rest => bracketItems flags (b.operate flags .symmetricDifference) steps rest
    | '[' :: rest =>
      match namedClass? rest with
      | some (negated, set, rest) => do
        bracketItems flags (b.add (← finishClass flags negated set)) steps rest
      | none => do
        let ((set, depth), rest) ← bracket flags steps rest
        bracketItems flags { b.add set with depth := max b.depth depth } steps rest
    | text => do
      let (item, rest) ← classItem flags text
      bracketItems flags (b.add item) steps rest

end

/-! ## Repetitions -/

/-- The digits that a text starts with, between which blanks may be passed over. -/
def digitRow (flags : Flags) : Nat → List Char → List Char × List Char
  | 0, text => ([], text)
  | steps + 1, text =>
    match text with
    | c :: rest =>
      if c.isDigit then
        let (digits, rest) := digitRow flags steps (skip flags rest)
        (c :: digits, rest)
      else ([], text)
    | [] => ([], [])

/-- A number of at most 32 bits, with blanks around it. -/
def count (flags : Flags) : Reading Nat := fun text =>
  let text := text.dropWhile Unicode.isWhiteSpace
  let (digits, rest) := digitRow flags text.length text
  let value := rowValue 10 digits
  if digits ≠ [] ∧ value < 1 <<< 32 then
    some (value, skip flags (rest.dropWhile Unicode.isWhiteSpace))
  else none

/-- The bounds of a counted repetition behind its opening brace. -/
def bounds (flags : Flags) : Reading (Nat × Option Nat) := fun text => do
  let (least, rest) ← count flags (skip flags text)
  match rest with
  | '\x7d' :: rest => some ((least, some least), rest)
  | ',' :: rest =>
    match skip flags rest with
    | '\x7d' :: rest => some ((least, none), rest)
    | rest =>
      let (most, rest) ← count flags rest
      match rest with
      | '\x7d' :: rest => if least ≤ most then some ((least, some most), rest) else none
      | _ => none
  | _ => none

/-- A text without the mark that makes a repetition reluctant. -/
def dropReluctant : List Char → List Char
  | '?' :: rest => rest
  | rest => rest

/-! ## Groups and flags -/

/-- Flags between a question mark and a colon or closing parenthesis. Each may stand once; those
behind a dash are taken away. The last character tells which of the two ended them. -/
def flagList (flags : Flags) (seen : List Char) : Reading (Flags × List Char × Char)
  | [] => none
  | c :: rest =>
    let off := seen.contains '-'
    let go (flags : Flags) : Option ((Flags × List Char × Char) × List Char) :=
      if seen.contains c then none else flagList flags (c :: seen) rest
    match c with
    | ':' | ')' => if seen.head? = some '-' then none else some ((flags, seen, c), rest)
    | '-' => go flags
    | 'i' => go { flags with ignoreCase := !off }
    | 'm' => go { flags with multiLine := !off }
    | 's' => go { flags with dotAll := !off }
    | 'R' => go { flags with crlf := !off }
    | 'u' => go { flags with unicode := !off }
    | 'x' => go { flags with extended := !off }
    | 'U' => go flags
    | _ => none

/-- Whether a character may stand in the name of a group. -/
def isNameChar (first : Bool) (c : Char) : Bool :=
  if first then c == '_' || Unicode.isAlphabetic c
  else c == '_' || c == '.' || c == '[' || c == ']' || Unicode.isAlphanumeric c

/-- The name of a group up to its closing angle. -/
def groupName : Reading (List Char) := fun text =>
  let name := text.takeWhile (· ≠ '>')
  match name, text.drop name.length with
  | first :: others, '>' :: rest =>
    if isNameChar true first && others.all (isNameChar false) then some (name, rest) else none
  | _, _ => none

/-- What an opening parenthesis starts. -/
inductive Opening where
  /-- Flags for the rest of the group around. -/
  | flags (flags : Flags)
  /-- A group under these flags, with a name if it has one. -/
  | group (flags : Flags) (name : Option (List Char))

/-- What stands behind an opening parenthesis. -/
def opening (flags : Flags) : Reading Opening := fun text =>
  match skip flags text with
  | '?' :: '=' :: _ | '?' :: '!' :: _ => none
  | '?' :: '<' :: '=' :: _ | '?' :: '<' :: '!' :: _ => none
  | '?' :: 'P' :: '<' :: rest =>
    (groupName rest).map fun (name, rest) => (.group flags (some name), rest)
  | '?' :: '<' :: rest =>
    (groupName rest).map fun (name, rest) => (.group flags (some name), rest)
  | '?' :: rest => do
    let ((inner, seen, last), rest) ← flagList flags [] rest
    if last = ')' then if seen = [] then none else some (.flags inner, rest)
    else some (.group inner none, rest)
  | rest => some (.group flags none, rest)

/-! ## Whole patterns -/

/-- A pattern that has been read, with the depth of its nesting. -/
structure Part where
  pattern : Pattern
  depth : Nat := 0
  /-- Flags and nothing at all cannot be repeated. -/
  repeatable : Bool := true

/-- The parts of a sequence, the last one first. -/
def sequence : List Part → Part
  | [] => { pattern := .empty, repeatable := false }
  | [part] => part
  | parts =>
    { pattern := parts.foldl (fun behind part => .seq part.pattern behind) .empty
      depth := (parts.map Part.depth).foldl max 0 + 1 }

/-- The branches of an alternative, the last one first. -/
def alternative : List Part → Part
  | [] => { pattern := .empty, repeatable := false }
  | [part] => part
  | last :: others =>
    { pattern := others.foldl (fun behind part => .alt part.pattern behind) last.pattern
      depth := ((last :: others).map Part.depth).foldl max 0 + 1 }

/-- What a point stands for. -/
def point? (flags : Flags) : Option Pattern :=
  if !flags.unicode then none
  else if flags.dotAll then some (.char (.negation .none))
  else if flags.crlf then some (.char (.negation (.union (.one '\n') (.one '\r'))))
  else some (.char (.negation (.one '\n')))

/-- The assertion behind `^`. -/
def lineStart (flags : Flags) : Look :=
  if flags.multiLine then if flags.crlf then .crlfLineStart else .lineStart else .textStart

/-- The assertion behind `$`. -/
def lineEnd (flags : Flags) : Look :=
  if flags.multiLine then if flags.crlf then .crlfLineEnd else .lineEnd else .textEnd

/-- An atom outside brackets. -/
def Atom.pattern? (flags : Flags) : Atom → Option Pattern
  | .literal c => do
    some (.char (← finishClass flags false (.one (← literal? flags c))))
  | .set chars => some (.char chars)
  | .look assertion => some (.look assertion)

/-- What has been read of a pattern since the last opening parenthesis: the parts of the current
branch and the earlier branches, last ones first, and all names of groups. -/
structure Body where
  parts : List Part := []
  branches : List Part := []
  names : List (List Char) := []

namespace Body

/-- One more part. -/
def add (b : Body) (part : Part) : Body := { b with parts := part :: b.parts }

/-- The current branch is finished. -/
def branch (b : Body) : Body :=
  { b with parts := [], branches := sequence b.parts :: b.branches }

/-- All branches together. -/
def result (b : Body) : Part := alternative (sequence b.parts :: b.branches)

/-- Repeats the last part, if there is one that can be repeated. -/
def repeatLast (b : Body) (least : Nat) (most : Option Nat) : Option Body :=
  match b.parts with
  | part :: others =>
    if part.repeatable then
      let repeated : Part := { pattern := .repeated part.pattern least most, depth := part.depth + 1 }
      some { b with parts := repeated :: others }
    else none
  | [] => none

end Body

/-- A pattern up to a closing parenthesis or the end of the text, which are left. -/
def body : Nat → Flags → Body → Reading Body
  | 0, _, _, _ => none
  | steps + 1, flags, b, text =>
    match skip flags text with
    | [] => some (b, [])
    | ')' :: rest => some (b, ')' :: rest)
    | '|' :: rest => body steps flags b.branch rest
    | '(' :: rest => do
      match ← opening flags rest with
      | (.flags inner, rest) =>
        body steps inner (b.add { pattern := .empty, repeatable := false }) rest
      | (.group inner name, rest) =>
        let names := match name with
          | some name => name :: b.names
          | none => b.names
        if (name.map fun name => b.names.contains name) = some true then none
        let (group, rest) ← body steps inner { names } rest
        match rest with
        | ')' :: rest =>
          let part := group.result
          body steps flags
            { b.add { pattern := part.pattern, depth := part.depth + 1 } with
              names := group.names } rest
        | _ => none
    | '[' :: rest => do
      let ((set, depth), rest) ← bracket flags (2 * rest.length + 2) rest
      body steps flags (b.add { pattern := .char set, depth }) rest
    | '?' :: rest => do body steps flags (← b.repeatLast 0 (some 1)) (dropReluctant rest)
    | '*' :: rest => do body steps flags (← b.repeatLast 0 none) (dropReluctant rest)
    | '+' :: rest => do body steps flags (← b.repeatLast 1 none) (dropReluctant rest)
    | '\x7b' :: rest => do
      let ((least, most), rest) ← bounds flags rest
      body steps flags (← b.repeatLast least most) (dropReluctant (skip flags rest))
    | '\\' :: rest => do
      let (atom, rest) ← escape flags rest
      body steps flags (b.add { pattern := ← atom.pattern? flags }) rest
    | '.' :: rest => do body steps flags (b.add { pattern := ← point? flags }) rest
    | '^' :: rest => body steps flags (b.add { pattern := .look (lineStart flags) }) rest
    | '$' :: rest => body steps flags (b.add { pattern := .look (lineEnd flags) }) rest
    | c :: rest => do
      body steps flags (b.add { pattern := ← (Atom.literal c).pattern? flags }) rest

/-! ## Sizes -/

/-- About how many bytes the program for a class takes: a state for each byte of an encoded
character, and far more for the wide properties. -/
def CharClass.cost : CharClass → Nat
  | .none => 32
  | .range first last =>
    if first = last then 32 * first.utf8Size else 32 * last.utf8Size * last.utf8Size
  | .property .whiteSpace => 400
  | .property (.categories cs) => if cs.contains .lo then 45000 else 8000
  | .property (.predicate _) | .property .word => 45000
  | .property _ => 8000
  | .union a b | .intersection a b | .difference a b | .symmetricDifference a b => a.cost + b.cost
  | .negation a => a.cost + 320
  | .caseless a | .asciiCaseless a => 2 * a.cost

/-- About how many bytes the program for a pattern takes; a repetition takes its body as often
as it may have to. -/
def cost : Pattern → Nat
  | .empty => 0
  | .char set => set.cost
  | .look _ => 32
  | .seq first second => cost first + cost second
  | .alt left right => cost left + cost right + 40
  | .repeated body least most => match most with
    | some most => least * cost body + (most - least) * (cost body + 40)
    | none => max 1 least * cost body + 80

/-- How deep a pattern may be nested. -/
def maxDepth : Nat := 250

/-- How many bytes the program for a pattern may take. -/
def maxCost : Nat := 10 <<< 20

/-- The pattern that a text writes. -/
def read? (text : String) : Option Pattern :=
  let chars := text.toList
  match body (chars.length + 1) {} {} chars with
  | some (b, []) =>
    let part := b.result
    if part.depth ≤ maxDepth ∧ cost part.pattern ≤ maxCost then some part.pattern else none
  | _ => none

end Sift.Pattern
