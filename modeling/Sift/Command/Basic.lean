import Sift.Expr.Outline
import Sift.Filter
import Sift.Json.Reader
import Sift.Query.Standard

/-!
# Commands

Three commands work on texts: one shows the outline of an expression, one evaluates an expression
for a JSON document, and one filters the elements of a document. The expression is compiled before
the document is looked at.
-/

namespace Sift

/-! ## Errors -/

/-- Why a command has no output. -/
inductive CommandError where
  | read (error : ReadError)
  /-- The expression was read but does not compile. -/
  | compile (error : CompileError)
  | evaluate (error : EvalError)
  /-- The input is no document. -/
  | malformedInput
  /-- The input is no text. -/
  | unreadableInput
  | noInput

namespace CommandError

/-- Errors of reading an expression are a case of their own. -/
def ofCompile : CompileError → CommandError
  | .read error => .read error
  | error => .compile error

/-- The wording of the error. -/
def message : CommandError → String
  | read error => "Parse error: " ++ error.message
  | compile error => "Invalid expression: " ++ error.message
  | evaluate error => "Evaluation error: " ++ error.message
  | malformedInput => "Invalid JSON"
  | unreadableInput => "IO error: stream did not contain valid UTF-8"
  | noInput => "No input provided. Use --input or pipe JSON to stdin."

end CommandError

/-! ## Runs -/

/-- An expression with its input and its settings, all as they were written. -/
structure Run where
  expression : String
  /-- The text of the document. -/
  input : Option String := none
  limits : Limits := {}
  /-- Stands in for what is not found: the text of a document, or else itself. -/
  unknown : Option String := none
  /-- Makes it an error that something is not found. -/
  refuseMissing : Bool := false

/-- What a command reports while it runs, and its output. -/
abbrev Execution (α : Type) := Traced Event CommandError α

namespace Run

/-- The datum that a text stands for: that of the document which it writes, or the text itself. -/
def unknownDatum (text : String) : Datum :=
  match Json.read? text with
  | some document => .ofJson document
  | none => .string text

/-- What the expression is compiled with. -/
def options (run : Run) : Options :=
  { Options.standard with
    limits := run.limits, unknown := run.unknown.map unknownDatum
    refuseMissing := run.refuseMissing }

/-- The query of the run. -/
def query (run : Run) : Execution Query :=
  (Query.compile run.options none none run.expression).mapError .ofCompile

/-- The datum of the input. -/
def datum (run : Run) : Except CommandError Datum :=
  match run.input with
  | none => .error .noInput
  | some text =>
    match Json.read? text with
    | some document => .ok (.ofJson document)
    | none => .error .malformedInput

/-- Goes on from the query and the datum of a run to the outcome of an evaluation. -/
def complete {α : Type} (run : Run) (next : Query → Datum → Traced Datum EvalError α) :
    Execution α := do
  let query ← run.query
  let datum ← .ofExcept run.datum
  .ofExcept ((next query datum).outcome.mapError .evaluate)

/-- Whether the document satisfies the expression. -/
def evaluate (run : Run) : Execution Bool := run.complete Query.evaluateDatum

/-- The elements of the document that satisfy the expression. -/
def filter (run : Run) : Execution Json :=
  return (← run.complete Query.filterDatum).toJson

end Run

/-- The outline of an expression with a limit on its tests. -/
def outlineOf (maxTests : Nat) (expression : String) : Execution String := do
  let expression ← (Expr.readNoted maxTests expression).mapError .read
  return expression.outline id Expr.usualIndent 0

end Sift
