import Sift.Text.Quoted

/-!
# Events

What the library reports of its work, for a log. An event is data; its text and its level are
fixed here.
-/

namespace Sift

/-- A step of work that is worth reporting. -/
inductive Event where
  /-- A text was read as an expression with so many tests. -/
  | read (text : String) (tests : Nat)
  /-- A selector passes through lists. -/
  | expanded (selector : String)
  /-- A text was compiled, with a schema or without. -/
  | compiled (text : String) (tests : Nat) (hasSchema : Bool)
  /-- A schema is derived from a type. -/
  | derived (typeName tag : String)
  /-- A filter kept so many elements of so many. -/
  | kept (count total : Nat)
deriving DecidableEq, Repr

namespace Event

/-- The level of an event. -/
def level : Event → String
  | read .. | expanded _ => "TRACE"
  | _ => "DEBUG"

/-- The text of an event. -/
def text : Event → String
  | read text tests => s!"parsed {Text.quoted text} into {tests} match expressions"
  | expanded selector => s!"expanding {selector} into an implicit any"
  | compiled text tests hasSchema =>
    s!"compiled {Text.quoted text} ({tests} match expressions, schema: {hasSchema})"
  | derived typeName tag =>
    s!"generating field configurations for {typeName} (tag {Text.quoted tag})"
  | kept count total => s!"filter kept {count} of {total} elements"

end Event

end Sift
