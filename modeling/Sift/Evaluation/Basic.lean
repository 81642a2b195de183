import Sift.Evaluation.Test

/-!
# Evaluation

A checked expression is evaluated in an environment: the datum at the root and the names that
quantifiers around the expression bind. `and`, `or` and the quantifiers look at their parts from
left to right and stop as soon as the answer is known; the first error is the outcome. The notes of
an evaluation are the data shown to the hook, in order.
-/

namespace Sift

/-! ## Environments -/

/-- The names that one element of a collection is bound to: at most two. -/
abbrev Frame := List (String × Datum)

/-- What selectors are resolved against. -/
structure Env where
  root : Datum
  /-- One frame per quantifier around, innermost first. -/
  frames : List Frame := []

namespace Env

/-- The datum bound to a name by the innermost frame that binds it. -/
def lookup (env : Env) (name : String) : Option Datum := env.frames.flatten.lookup name

/-- The environment inside one more frame. -/
def push (env : Env) (frame : Frame) : Env := { env with frames := frame :: env.frames }

/-- The number of frames, the root counted as one. -/
def depth (env : Env) : Nat := env.frames.length + 1

end Env

/-- The names of a binding for one element; a map (`keyed`) binds its keys where a list binds its
elements. -/
def Binding.frame (binding : Binding) (keyed : Bool) (place element : Datum) : Frame :=
  match binding with
  | each name => [(name, if keyed then place else element)]
  | index name => [(name, place)]
  | value name => [(name, element)]
  | both i v => [(i, place), (v, element)]

/-- The frames for the elements of a collection, in order. -/
def Binding.frames? (binding : Binding) : Datum → Option (List Frame)
  | .list items =>
    some (items.zipIdx.map fun (item, i) => binding.frame false (.int (Int64.ofNat i)) item)
  | .map entries => some (entries.map fun (k, v) => binding.frame true (.string k) v)
  | .pairs entries => some (entries.map fun (k, v) => binding.frame true k v)
  | _ => none

/-! ## Selectors -/

/-- What becomes of a selector that leads to nothing. -/
inductive AbsencePolicy where
  /-- The operator or quantifier decides. -/
  | byOperator
  /-- A datum takes its place. -/
  | substitute (datum : Datum)
  /-- It is an error. -/
  | refuse

/-- What an evaluation depends on besides expression and environment. -/
structure Settings where
  patterns : PatternEngine
  tag : String
  hook : Option Hook := none
  policy : AbsencePolicy := .byOperator

/-- What is found where nothing is, given the error that this would be. -/
def AbsencePolicy.settle (policy : AbsencePolicy) (error : EvalError) :
    Except EvalError (Option Reached) :=
  match policy with
  | byOperator => .ok none
  | substitute datum => .ok (some (.datum datum))
  | refuse => .error error

namespace Settings

/-- Resolves a selector: from the datum bound to its first segment, if there is one, and from the
root otherwise. -/
def resolve (s : Settings) (selector : Selector) (env : Env) : Traced Datum EvalError Reached :=
  let follow (start : Nat) (d : Datum) : Traced Datum EvalError Reached :=
    (d.resolve s.tag s.hook selector.path start).mapError .unresolved
  match selector.path with
  | [] => follow 0 env.root
  | first :: rest =>
    match env.lookup first with
    | none => follow 0 env.root
    | some bound =>
      if rest ≠ [] ∧ bound.isScalar then .fail (.boundScalar first bound.kind selector.path)
      else follow 1 bound

/-- What a selector leads to under the policy for absent data; nothing means that the operator
decides. -/
def target (s : Settings) (selector : Selector) (env : Env) :
    Traced Datum EvalError (Option Reached) :=
  let found := s.resolve selector env
  let settled := match found.outcome with
    | .ok (.datum .null) => s.policy.settle (.missing selector)
    | .ok reached => .ok (some reached)
    | .error (.unresolved error) =>
      if error.fault.isNotFound then s.policy.settle (.unresolved error)
      else .error (.unresolved error)
    | .error error => .error error
  ⟨found.notes, settled⟩

/-- The answer of a test. A judge decides on itself, given the literal as converted or as text. -/
def test (s : Settings) (t : Test) (env : Env) : Traced Datum EvalError Bool := do
  match ← s.target t.selector env with
  | none => return t.operator.ifAbsent
  | some (.datum d) => .ofExcept (t.run s.patterns d)
  | some (.judge j rest) =>
    let literal := t.literal.map fun l => l.converted.getD (.string l.raw)
    .ofExcept ((j.decide (t.selector.path.drop rest) t.operator literal).mapError
      (.judgeFailed t.selector))

/-! ## Expressions -/

/-- Visits frames in order until one of them decides: for `any` one that is true, for `all` one
that is false. -/
def quantify (quantifier : Quantifier) (visit : Frame → Traced Datum EvalError Bool) :
    List Frame → Traced Datum EvalError Bool
  | [] => return quantifier.ifNone
  | frame :: rest => do
    let answer ← visit frame
    if answer = quantifier.ifNone then quantify quantifier visit rest else return answer

/-- The answer of an expression. -/
def evaluate (s : Settings) : CheckedExpr → Env → Traced Datum EvalError Bool
  | .test selector operator literal, env => s.test ⟨selector, operator, literal⟩ env
  | .not operand, env => return !(← s.evaluate operand env)
  | .and left right, env => do
    if ← s.evaluate left env then s.evaluate right env else return false
  | .or left right, env => do
    if ← s.evaluate left env then return true else s.evaluate right env
  | .quantified quantifier selector binding body, env => do
    match ← s.target selector env with
    | none => return quantifier.ifNone
    | some (.judge ..) => .fail (.judgeNotIterable selector)
    | some (.datum d) =>
      match binding.frames? d with
      | none => .fail (.notCollection selector)
      | some frames =>
        quantify quantifier (fun frame => s.evaluate body (env.push frame)) frames

end Settings

end Sift
