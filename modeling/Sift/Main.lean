import Sift.Command.Invocation

/-!
# The program

Reads the arguments and, where a call needs it, the standard input, and writes what the call
leaves behind. A terminal is not read.
-/

namespace Sift

/-- The text on the standard input; there is none on a terminal. -/
def readInput : IO (Except CommandError (Option String)) := do
  let stdin ← IO.getStdin
  if ← stdin.isTty then return .ok none
  let bytes ← stdin.readBinToEnd
  return match String.fromUTF8? bytes with
    | some text => .ok (some text)
    | none => .error .unreadableInput

/-- What a call with these arguments leaves behind. -/
def complete (arguments : List String) : IO Completion := do
  match Invocation.ofArguments arguments with
  | .error stop => return .ofStop stop
  | .ok invocation =>
    if !invocation.readsInput then return .ofOutput invocation.output
    match ← readInput with
    | .error error => return .ofOutput (.error error)
    | .ok input => return .ofOutput (invocation.withInput input).output

end Sift

open Sift in
/-- Completes a call and writes what it leaves behind. -/
def main (arguments : List String) : IO UInt32 := do
  let completion ← complete arguments
  (← IO.getStdout).putStr completion.output
  (← IO.getStderr).putStr completion.errors
  return completion.exitCode
