import Sift.Text.Digits

/-!
# Arguments

Arguments are operands and options. An option is written `--name`, or `-n` where it has a short
name; short names may share one dash. A value follows its option as the next argument, after `=`,
or behind the short name; as an argument of its own it does not start with a dash. Every option is
given at most once, and after `--` there are operands only.
-/

namespace Sift

/-! ## Rules -/

/-- What follows an option. -/
inductive OptionValue where
  | absent
  | text
  /-- Digits after an optional plus, within 64 bits. -/
  | natural
deriving DecidableEq, Repr

/-- An option that a command takes. -/
structure OptionRule where
  name : String
  short : Option Char := none
  value : OptionValue := .absent
deriving DecidableEq, Repr

/-- What a command takes. -/
structure ArgumentRules where
  options : List OptionRule
  /-- The largest number of operands. -/
  maxOperands : Nat
deriving DecidableEq, Repr

/-- Why arguments are not accepted. -/
inductive ArgumentStop where
  /-- Help was asked for. -/
  | help
  /-- The arguments do not follow the rules. -/
  | misused
deriving DecidableEq, Repr

/-! ## Reading -/

/-- What arguments say. -/
structure Arguments where
  operands : List String := []
  /-- The options given with their values; the value of a plain one is empty. -/
  options : List (String × String) := []
deriving DecidableEq, Repr

namespace Arguments

/-- Whether an option is given. -/
def has (a : Arguments) (name : String) : Bool := (a.options.lookup name).isSome

/-- The value of an option. -/
def value? (a : Arguments) (name : String) : Option String := a.options.lookup name

/-- The number that is the value of an option, zero if it is not given. -/
def natural (a : Arguments) (name : String) : Nat := ((a.value? name).bind natural64?).getD 0

/-- Adds an option that is not given yet. -/
def addOption (a : Arguments) (rule : OptionRule) (value : String) :
    Except ArgumentStop Arguments :=
  if a.has rule.name ∨ (rule.value = .natural ∧ natural64? value = none) then .error .misused
  else .ok { a with options := a.options ++ [(rule.name, value)] }

/-- Adds operands as far as they are allowed. -/
def addOperands (a : Arguments) (rules : ArgumentRules) (more : List String) :
    Except ArgumentStop Arguments :=
  let operands := a.operands ++ more
  if rules.maxOperands < operands.length then .error .misused else .ok { a with operands }

end Arguments

namespace ArgumentRules

/-- An option under its long name. -/
def long? (rules : ArgumentRules) (name : String) : Option OptionRule :=
  rules.options.find? (·.name == name)

/-- An option under its short name. -/
def short? (rules : ArgumentRules) (name : Char) : Option OptionRule :=
  rules.options.find? (·.short == some name)

/-- Reads a cluster of short names. The option whose value has to follow is given as well, if the
cluster ends with one. -/
def readCluster (rules : ArgumentRules) (seen : Arguments) :
    List Char → Except ArgumentStop (Arguments × Option OptionRule)
  | [] => .ok (seen, none)
  | c :: rest =>
    match rules.short? c with
    | none => .error (if c = 'h' then .help else .misused)
    | some rule =>
      if rule.value = .absent then do
        let seen ← seen.addOption rule ""
        rules.readCluster seen rest
      else
        match rest with
        | [] => .ok (seen, some rule)
        | '=' :: value => return (← seen.addOption rule (String.ofList value), none)
        | value => return (← seen.addOption rule (String.ofList value), none)

/-- Reads an option under its long name, with the value behind `=` if there is one. -/
def readLong (rules : ArgumentRules) (seen : Arguments) (name : String) (value : Option String) :
    Except ArgumentStop (Arguments × Option OptionRule) :=
  match rules.long? name with
  | none => .error (if name = "help" ∧ value = none then .help else .misused)
  | some rule =>
    match decide (rule.value = .absent), value with
    | true, none => return (← seen.addOption rule "", none)
    | true, some _ => .error .misused
    | false, none => .ok (seen, some rule)
    | false, some value => return (← seen.addOption rule value, none)

/-- What an argument that starts with a dash says. -/
def readOption (rules : ArgumentRules) (seen : Arguments) (argument : List Char) :
    Except ArgumentStop (Arguments × Option OptionRule) :=
  match argument with
  | '-' :: '-' :: rest =>
    let name := String.ofList (rest.takeWhile (· != '='))
    match rest.dropWhile (· != '=') with
    | '=' :: value => rules.readLong seen name (some (String.ofList value))
    | _ => rules.readLong seen name none
  | cluster => rules.readCluster seen (cluster.drop 1)

/-- Whether an argument is written as an option. -/
def looksLikeOption (argument : String) : Bool :=
  argument.startsWith "-" && argument != "-"

/-- Reads arguments from left to right; `pending` is an option that waits for its value. -/
def readFrom (rules : ArgumentRules) (seen : Arguments) (pending : Option OptionRule) :
    List String → Except ArgumentStop Arguments
  | [] => if pending.isSome then .error .misused else .ok seen
  | argument :: rest =>
    if looksLikeOption argument then
      if pending.isSome then .error .misused
      else if argument = "--" then seen.addOperands rules rest
      else do
        let (seen, pending) ← rules.readOption seen argument.toList
        rules.readFrom seen pending rest
    else
      match pending with
      | some rule => do
        let seen ← seen.addOption rule argument
        rules.readFrom seen none rest
      | none => do
        let seen ← seen.addOperands rules [argument]
        rules.readFrom seen none rest

/-- Reads all arguments of a command. -/
def read (rules : ArgumentRules) (arguments : List String) : Except ArgumentStop Arguments :=
  rules.readFrom {} none arguments

end ArgumentRules

end Sift
