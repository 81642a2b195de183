import Sift.Command.Arguments
import Sift.Command.Basic

/-!
# Invocations

The arguments of a call name a command and what it works on. A completed call has an exit code and
what it writes to both outputs: 0 with the output of the command, 1 with the error of the command,
2 for arguments that are not accepted.
-/

namespace Sift

/-- A call of the program. -/
inductive Invocation where
  | outline (expression : String) (maxTests : Nat)
  | evaluate (run : Run)
  | filter (run : Run) (isPretty : Bool)
  | version

/-- What a call leaves behind. -/
structure Completion where
  exitCode : UInt32
  output : String := ""
  errors : String := ""
deriving DecidableEq, Repr

/-! ## Accepted arguments -/

/-- The option that limits the number of tests. -/
def maxTestsRule : OptionRule := { name := "max-expressions", value := .natural }

/-- The options of the commands that evaluate. -/
def runRules : List OptionRule :=
  [{ name := "input", short := some 'i', value := .text }, maxTestsRule,
   { name := "max-value-length", value := .natural }, { name := "unknown", value := .text },
   { name := "error-on-missing" }]

/-- The run that arguments describe. What stands in for absent data cannot be given when absent
data are refused. -/
def Run.ofArguments? (a : Arguments) : Option Run :=
  match a.operands with
  | [expression] =>
    if a.has "unknown" ∧ a.has "error-on-missing" then none
    else some
      { expression, input := a.value? "input"
        limits := ⟨a.natural "max-expressions", a.natural "max-value-length"⟩
        unknown := a.value? "unknown", refuseMissing := a.has "error-on-missing" }
  | _ => none

namespace Invocation

/-- What a command name and the arguments behind it say. -/
def ofCommand (command : String) (arguments : List String) : Except ArgumentStop Invocation := do
  let settle (invocation : Option Invocation) : Except ArgumentStop Invocation :=
    invocation.elim (.error .misused) .ok
  match command with
  | "eval" =>
    let a ← ArgumentRules.read ⟨runRules, 1⟩ arguments
    settle ((Run.ofArguments? a).map .evaluate)
  | "filter" =>
    let pretty : OptionRule := { name := "pretty", short := some 'p' }
    let a ← ArgumentRules.read ⟨runRules ++ [pretty], 1⟩ arguments
    settle ((Run.ofArguments? a).map fun run => .filter run (a.has pretty.name))
  | "parse" =>
    let a ← ArgumentRules.read ⟨[maxTestsRule], 1⟩ arguments
    match a.operands with
    | [expression] => return .outline expression (a.natural maxTestsRule.name)
    | _ => throw .misused
  | "help" => throw .help
  | _ => throw .misused

/-- The call that all arguments together describe. -/
def ofArguments : List String → Except ArgumentStop Invocation
  | [] => .error .misused
  | first :: rest =>
    if first = "--version" ∨ first.startsWith "-V" then .ok .version
    else if first = "--help" ∨ first.startsWith "-h" then .error .help
    else ofCommand first rest

/-- Whether the call takes its document from the standard input. -/
def readsInput : Invocation → Bool
  | evaluate run | filter run _ => run.input.isNone
  | _ => false

/-- The call with a document for what takes it from the standard input. -/
def withInput (input : Option String) : Invocation → Invocation
  | evaluate run => evaluate { run with input := run.input.or input }
  | filter run isPretty => filter { run with input := run.input.or input } isPretty
  | other => other

/-- What the command puts out. -/
def output : Invocation → Except CommandError String
  | outline expression maxTests => (outlineOf maxTests expression).outcome
  | evaluate run => run.evaluate.outcome.map fun answer => toString answer ++ "\n"
  | filter run isPretty => run.filter.outcome.map fun document =>
    (if isPretty then document.pretty "" else document.compact) ++ "\n"
  | version => .ok "bexpr 0.1.0\n"

end Invocation

/-! ## Completed calls -/

namespace Completion

/-- How the program is called. -/
def usage : String :=
  "Usage: bexpr parse <EXPRESSION> [--max-expressions <N>]\n" ++
  "       bexpr eval <EXPRESSION> [OPTIONS]\n" ++
  "       bexpr filter <EXPRESSION> [OPTIONS] [--pretty]\n" ++
  "Options: [--input <JSON>] [--max-expressions <N>] [--max-value-length <N>]\n" ++
  "         [--unknown <VALUE> | --error-on-missing]\n"

/-- The completion of what is not a call. -/
def ofStop : ArgumentStop → Completion
  | .help => { exitCode := 0, output := usage }
  | .misused => { exitCode := 2, errors := usage }

/-- The completion of a command by what it puts out. -/
def ofOutput : Except CommandError String → Completion
  | .ok output => { exitCode := 0, output }
  | .error error => { exitCode := 1, errors := error.message ++ "\n" }

/-- The completion of a call with arguments and a text on the standard input, if it has any. -/
def ofCall (arguments : List String) (input : Option String) : Completion :=
  match Invocation.ofArguments arguments with
  | .error stop => ofStop stop
  | .ok invocation => ofOutput (invocation.withInput input).output

end Completion

end Sift
