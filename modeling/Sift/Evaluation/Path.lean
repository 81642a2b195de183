import Sift.Datum.Basic
import Sift.Selector
import Sift.Text.Digits
import Sift.Traced

/-!
# Following paths into data

A path leads from a datum through maps by key, through lists by position, and through records by
exposed name. A judge ends it: it takes the segments that are left. After every segment a hook, if
there is one, sees the datum found and may put another one in its place or declare it absent; the
data it saw are the notes of the walk. The datum that a path starts from is never shown.
-/

namespace Sift

/-! ## Hooks -/

/-- What a hook makes of a datum. -/
inductive HookVerdict where
  | keep
  | replace (datum : Datum)
  | absent

/-- Judges every datum that is found on a path. -/
abbrev Hook := Datum → HookVerdict

/-! ## Errors -/

/-- Why a segment leads nowhere. -/
inductive PathFault where
  | keyNotFound (key : String)
  | fieldNotFound (name : String)
  | fieldIgnored (name : String)
  | indexOutOfRange (index length : Nat)
  | invalidIndex (segment : String)
  /-- An absent value has no parts. -/
  | absent
  | invalidKind (kind : Kind)
  | hookAbsent
deriving DecidableEq, Repr

namespace PathFault

/-- The wording of the fault. -/
def message : PathFault → String
  | keyNotFound key => "couldn't find key " ++ Text.quoted key
  | fieldNotFound name => "couldn't find key: struct field with name " ++ Text.quoted name
  | fieldIgnored name => "struct field " ++ Text.quoted name ++ " is ignored and cannot be used"
  | indexOutOfRange index length => s!"index {index} out of range for list of length {length}"
  | invalidIndex segment => "invalid list index " ++ Text.quoted segment
  | absent => "value is nil"
  | invalidKind kind => "invalid value kind: " ++ kind.name
  | hookAbsent => "value transformation hook returned nil"

/-- A key, a position or an optional value that is simply not there. -/
def isMissing : PathFault → Bool
  | keyNotFound _ | indexOutOfRange .. | absent => true
  | _ => false

/-- Whether there is nothing at the path, unknown fields included. -/
def isNotFound : PathFault → Bool
  | fieldNotFound _ => true
  | fault => fault.isMissing

end PathFault

/-- A fault at a segment of a path, counted from zero. -/
structure PathError where
  path : List String
  part : Nat
  fault : PathFault
deriving DecidableEq, Repr

/-- The wording of the error. -/
def PathError.message (e : PathError) : String :=
  s!"{Pointer.encode e.path} at part {e.part}: {e.fault.message}"

/-! ## One segment -/

namespace Datum

/-- The segment that stands for a key of any kind: the plain text of a scalar. -/
def keyText? : Datum → Option String
  | bool b => some (Literal.bool b).text
  | int n => some (Literal.int n).text
  | uint n => some (Literal.uint n).text
  | float32 x => some (Literal.float32 x).text
  | float64 x => some (Literal.float64 x).text
  | string s => some s
  | _ => none

/-- The field of a record that a segment leads to: the first one that claims the name. An excluded
field blocks its own name. -/
def field? (tag segment : String) : List (Member × Datum) → Except PathFault Datum
  | [] => .error (.fieldNotFound segment)
  | (member, value) :: rest =>
    match member.exposure tag with
    | .hidden => field? tag segment rest
    | .ignored =>
      if member.name = segment then .error (.fieldIgnored segment) else field? tag segment rest
    | .names names => if names.contains segment then .ok value else field? tag segment rest

/-- The part of a datum that a segment leads to. -/
def part? (tag segment : String) : Datum → Except PathFault Datum
  | map entries =>
    match entries.lookup segment with
    | some value => .ok value
    | none => .error (.keyNotFound segment)
  | pairs entries =>
    match entries.find? fun (key, _) => key.keyText? == some segment with
    | some (_, value) => .ok value
    | none => .error (.keyNotFound segment)
  | list items =>
    match natural64? segment with
    | none => .error (.invalidIndex segment)
    | some index =>
      match items[index]? with
      | some item => .ok item
      | none => .error (.indexOutOfRange index items.length)
  | record _ fields => field? tag segment fields
  | null => .error .absent
  | other => .error (.invalidKind other.kind)

end Datum

/-! ## Whole paths -/

/-- What a path leads to. -/
inductive Reached where
  | datum (d : Datum)
  /-- A judge, and the number of the first segment that is left to it. -/
  | judge (j : Judge) (rest : Nat)

/-- Shows a datum to a hook; the outcome is the datum to go on with. -/
def Hook.show (hook : Option Hook) (found : Datum) : Traced Datum PathFault Datum :=
  match hook with
  | none => pure found
  | some hook =>
    match hook found with
    | .keep => ⟨[found], .ok found⟩
    | .replace other => ⟨[found], .ok other⟩
    | .absent => ⟨[found], .error .hookAbsent⟩

/-- Follows segments from a datum, the first of them having the number `part`. -/
def Datum.follow (tag : String) (hook : Option Hook) (part : Nat) :
    Datum → List String → Traced Datum (Nat × PathFault) Reached
  | .judge j, _ => pure (.judge j part)
  | d, [] => pure (.datum d)
  | d, segment :: rest => do
    let found ← (Traced.ofExcept (d.part? tag segment)).mapError (part, ·)
    let next ← (Hook.show hook found).mapError (part, ·)
    next.follow tag hook (part + 1) rest
termination_by structural _ segments => segments

/-- Follows a path from its segment `start` on, the datum standing for the segments before. -/
def Datum.resolve (tag : String) (hook : Option Hook) (path : List String) (start : Nat)
    (d : Datum) : Traced Datum PathError Reached :=
  (d.follow tag hook (min start path.length) (path.drop start)).mapError
    fun (part, fault) => ⟨path, part, fault⟩

end Sift
