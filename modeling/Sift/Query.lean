import Sift.Catalog
import Sift.Evaluation.Basic
import Sift.Expr.Reader

/-!
# Queries

A query is an expression that was compiled: read from its text, checked under a schema if there is
one, and bound to what decides about absent data. It can be evaluated any number of times. A query
compiled for a host type takes values of that type only.
-/

namespace Sift

/-! ## Options -/

/-- What a query is compiled with. -/
structure Options where
  patterns : PatternEngine
  limits : Limits := {}
  /-- The tag that directives of record fields are looked up under. -/
  tag : String := Schema.defaultTag
  /-- Stands in for what is not found. -/
  unknown : Option Datum := none
  /-- Makes it an error that something is not found. -/
  refuseMissing : Bool := false
  hook : Option Hook := none

/-- Why a query does not compile. -/
inductive CompileError where
  | schema (error : SchemaError)
  /-- Absent data cannot be replaced and refused at once. -/
  | conflictingPolicies
  | read (error : ReadError)
  | check (error : CheckError)

namespace CompileError

/-- The wording of the error. -/
def message : CompileError → String
  | schema error => error.message
  | conflictingPolicies =>
    "invalid options: unknown value and error on missing cannot both be set"
  | read error => error.message
  | check error => error.message

end CompileError

namespace Options

/-- The policy for absent data. -/
def policy (options : Options) : Except CompileError AbsencePolicy :=
  match options.unknown, options.refuseMissing with
  | some _, true => .error .conflictingPolicies
  | some datum, false => .ok (.substitute datum)
  | none, true => .ok .refuse
  | none, false => .ok .byOperator

end Options

/-! ## Compiling -/

/-- The expression that a text writes, with a report of it. -/
def Expr.readNoted (limit : Nat) (source : String) : Traced Event ReadError (Expr String) := do
  let (expression, tests) ← .ofExcept (Expr.readCounted limit source)
  .note (.read source tests)
  return expression

/-- A compiled expression. -/
structure Query where
  source : String
  /-- The expression as it was read. -/
  parsed : Expr String
  /-- The expression as it is evaluated. -/
  checked : CheckedExpr
  /-- The number of tests that the check has counted. -/
  testCount : Nat
  schema : Option Schema
  /-- The name of the type that values have to be of. -/
  typeName : Option String
  limits : Limits
  settings : Settings

namespace Query

/-- Compiles a text. -/
def compile (options : Options) (schema : Option Schema) (typeName : Option String)
    (source : String) : Traced Event CompileError Query := do
  let policy ← .ofExcept options.policy
  let parsed ← (Expr.readNoted options.limits.maxTests source).mapError .read
  let (checked, testCount) ←
    (check options.patterns options.limits schema parsed).mapError .check
  .note (.compiled source testCount schema.isSome)
  let settings : Settings := ⟨options.patterns, options.tag, options.hook, policy⟩
  return { source, parsed, checked, testCount, schema, typeName, settings
           limits := options.limits }

/-- Compiles a text for a host type, whose schema comes from a catalog; the catalog afterwards is
given back. A type of data of any shape has no schema. -/
def compileFor (options : Options) (type : HostType) (catalog : Catalog) (source : String) :
    Traced Event CompileError Query × Catalog :=
  match type.shape.required with
  | .any => (compile options none (some type.name) source, catalog)
  | _ =>
    let supply := catalog.request type options.tag
    let query := do
      let schema ← supply.reported.mapError .schema
      compile options (some schema) (some type.name) source
    (query, supply.catalog)

/-- Checks the expression of the query under another schema. -/
def checkAgainst (q : Query) (schema : Schema) : Traced Event CheckError (CheckedExpr × Nat) :=
  check q.settings.patterns q.limits (some schema) q.parsed

/-! ## Evaluating -/

/-- The answer of the query in an environment. -/
def evaluateIn (q : Query) (env : Env) : Traced Datum EvalError Bool :=
  q.settings.evaluate q.checked env

/-- The answer of the query for a datum. -/
def evaluateDatum (q : Query) (d : Datum) : Traced Datum EvalError Bool := q.evaluateIn ⟨d, []⟩

/-- The answer of the query for a value, which has to be of the type compiled for. -/
def evaluate {α : Type} [Host α] (q : Query) (a : α) : Traced Datum EvalError Bool :=
  let actual := (Host.hostType α).name
  match q.typeName with
  | none => q.evaluateDatum (Host.toDatum a)
  | some expected =>
    if expected = actual then q.evaluateDatum (Host.toDatum a)
    else .fail (.otherType expected actual)

end Query

end Sift
