/-!
# Telemetry.CommandLine.Options

**Scanning arguments into options and positionals.** A scope says which long options it
knows, how many positionals it takes and which single letters it answers at once.
Arguments are taken from left to right and the first fault or answer ends the scan.

An argument that starts with a dash is an option, except a lone dash and whatever follows
`--`. The value of an option follows `=` in the same argument, or is the next argument
unless that is an option itself.
-/

namespace Telemetry.CommandLine

/-- A long option. -/
structure OptionSpec where
  name : String
  /-- Whether the option has a value. -/
  takesValue : Bool
  /-- Whether the option may stand more than once. -/
  repeatable : Bool
  /-- Whether a value can be read. -/
  accepts : String → Bool

/-- An option without a value. -/
def OptionSpec.flag (name : String) : OptionSpec := ⟨name, false, false, fun _ => true⟩

/-- An option with one value. -/
def OptionSpec.valued (name : String) (accepts : String → Bool) : OptionSpec :=
  ⟨name, true, false, accepts⟩

/-- An option whose values are gathered from all places where it stands. -/
def OptionSpec.gathered (name : String) (accepts : String → Bool) : OptionSpec :=
  ⟨name, true, true, accepts⟩

/-- Why a scan ended before the last argument. -/
inductive Interruption
  /-- The arguments are not a call of the program. -/
  | usage
  | help
  | version
  deriving DecidableEq

/-- What a scope understands. -/
structure Scope where
  options : List OptionSpec
  /-- How many positionals there may be. -/
  positionals : Nat
  /-- Whether the first positional ends the scan, as the name of a subcommand does. -/
  stopsAtPositional : Bool
  /-- Whether the version can be asked for. -/
  answersVersion : Bool

/-- What a scan has found: options with their values in the order they stood, `""` for a
flag, and positionals. -/
structure Found where
  options : List (String × String) := []
  positionals : List String := []

namespace Found

def values (f : Found) (name : String) : List String :=
  (f.options.filter fun o => o.1 == name).map Prod.snd

def value? (f : Found) (name : String) : Option String := (f.values name).getLast?

def has (f : Found) (name : String) : Bool := !(f.values name).isEmpty

end Found

/-- How an argument looks. -/
inductive Shape
  | endOfOptions
  | long (name : String) (value : Option String)
  | short (letter : Char)
  | plain
  deriving DecidableEq

def shapeOf (arg : String) : Shape :=
  match arg.toList with
  | ['-', '-'] => .endOfOptions
  | '-' :: '-' :: rest =>
    let name := String.ofList (rest.takeWhile (· ≠ '='))
    match rest.dropWhile (· ≠ '=') with
    | '=' :: value => .long name (some (String.ofList value))
    | _ => .long name none
  | '-' :: letter :: _ => .short letter
  | _ => .plain

namespace Scope

/-- Takes one more option, unless its value is refused or it may not be repeated. -/
def addOption (found : Found) (o : OptionSpec) (value : String) : Except Interruption Found :=
  if o.accepts value && (o.repeatable || !found.has o.name) then
    .ok { found with options := found.options ++ [(o.name, value)] }
  else .error .usage

def addPositional (s : Scope) (found : Found) (arg : String) : Except Interruption Found :=
  if found.positionals.length < s.positionals then
    .ok { found with positionals := found.positionals ++ [arg] }
  else .error .usage

/-- Takes positionals only, as after `--`. -/
def scanRest (s : Scope) (found : Found) : List String → Except Interruption Found
  | [] => .ok found
  | arg :: rest =>
    match s.addPositional found arg with
    | .ok found => s.scanRest found rest
    | .error e => .error e

/-- Scans the arguments. The answer is what was found and, in a scope that stops at a
positional, the arguments from it on. -/
def scan (s : Scope) (found : Found) : List String → Except Interruption (Found × List String)
  | [] => .ok (found, [])
  | arg :: rest =>
    match shapeOf arg with
    | .endOfOptions =>
      if s.stopsAtPositional then .error .usage
      else (s.scanRest found rest).map fun found => (found, [])
    | .short 'h' => .error .help
    | .short letter => .error (if letter = 'V' ∧ s.answersVersion then .version else .usage)
    | .long "help" none => .error .help
    | .long name value =>
      if name = "version" ∧ value = none ∧ s.answersVersion then .error .version
      else
        match s.options.find? fun o => o.name == name with
        | none => .error .usage
        | some o =>
          match o.takesValue, value, rest with
          | false, none, rest =>
            match addOption found o "" with
            | .ok found => s.scan found rest
            | .error e => .error e
          | true, some value, rest =>
            match addOption found o value with
            | .ok found => s.scan found rest
            | .error e => .error e
          -- an argument that looks like an option is never taken as a value
          | true, none, value :: rest =>
            if shapeOf value = .plain then
              match addOption found o value with
              | .ok found => s.scan found rest
              | .error e => .error e
            else .error .usage
          | _, _, _ => .error .usage
    | .plain =>
      if s.stopsAtPositional then .ok (found, arg :: rest)
      else
        match s.addPositional found arg with
        | .ok found => s.scan found rest
        | .error e => .error e

end Scope

end Telemetry.CommandLine
