import Sift.Check
import Sift.Pattern.Reader

/-!
# Searching

A text of `n` characters has `n + 1` places, and a set of places is a number whose bit `i` stands
for place `i`. A pattern takes the places where a match may start to those where it may end:
a class moves the places before its characters on by one, an assertion keeps the places where it
holds, and a repetition goes on until no new place is reached. A text holds a match when the
places reached from all places are not empty.

What a class or an assertion says about a text is worked out once, before anything is repeated.
-/

namespace Sift.Pattern

/-! ## Patterns on a text -/

/-- The places before the characters of a text that satisfy a predicate. -/
def placesBefore (p : Char → Bool) : List Char → Nat
  | [] => 0
  | c :: rest => 2 * placesBefore p rest + (p c).toNat

/-- The places of a text where an assertion holds, given the character before it. -/
def placesWhere (assertion : Look) (before : Option Char) : List Char → Nat
  | [] => (assertion.holds before none).toNat
  | c :: rest =>
    2 * placesWhere assertion (some c) rest + (assertion.holds before (some c)).toNat

/-- A pattern applied to one text: classes and assertions have become sets of places. -/
inductive Track where
  | stay
  /-- One character on, from the given places. -/
  | step (places : Nat)
  /-- Only the given places. -/
  | keep (places : Nat)
  | seq (first second : Track)
  | alt (left right : Track)
  | repeated (body : Track) (least : Nat) (most : Option Nat)

/-- The track of a pattern on a text. -/
def track (text : List Char) : Pattern → Track
  | .empty => .stay
  | .char set => .step (placesBefore set.contains text)
  | .look assertion => .keep (placesWhere assertion none text)
  | .seq first second => .seq (track text first) (track text second)
  | .alt left right => .alt (track text left) (track text right)
  | .repeated body least most => .repeated (track text body) least most

/-! ## Reaching -/

/-- Takes a step a number of times, or fewer if it changes nothing any more. -/
def times (step : Nat → Nat) : Nat → Nat → Nat
  | 0, places => places
  | count + 1, places =>
    let next := step places
    if next = places then places else times step count next

/-- Adds what a step reaches, a number of times, or fewer if it adds nothing any more. -/
def spread (step : Nat → Nat) : Nat → Nat → Nat
  | 0, places => places
  | count + 1, places =>
    let next := places ||| step places
    if next = places then places else spread step count next

/-- The places that a track reaches from a set of places in a text of a given length. Beyond the
least number of repetitions, each further one adds a place or is the last. -/
def Track.reach (length : Nat) : Track → Nat → Nat
  | .stay, places => places
  | .step starts, places => (places &&& starts) <<< 1
  | .keep kept, places => places &&& kept
  | .seq first second, places => second.reach length (first.reach length places)
  | .alt left right, places => left.reach length places ||| right.reach length places
  | .repeated body least most, places =>
    let further := match most with
      | some most => min (most - least) (length + 1)
      | none => length + 1
    spread (body.reach length) further (times (body.reach length) least places)

/-- Whether a text holds a match of a pattern. -/
def isMatch (pattern : Pattern) (text : String) : Bool :=
  let chars := text.toList
  (track chars pattern).reach chars.length (1 <<< (chars.length + 1) - 1) != 0

/-- The engine of these patterns. -/
def engine : PatternEngine := ⟨fun text => (read? text).map isMatch⟩

end Sift.Pattern
