import Chip8.Config
import Chip8.Text.Decimal

/-!
# The command line

`<program> [--speed HZ] [--strict] [--verbose]`, in any order; a later speed replaces an earlier one.

* **`Arguments`**, `UsageError` with `UsageError.message`;
* `Arguments.Draft`: what has been read so far, and `Draft.read`;
* **`Arguments.parse`**.
-/

namespace Chip8

/-- **A command line that is understood.** -/
@[ext]
structure Arguments where
  /-- The path of the program. -/
  program : String
  config : Config
  /-- The log shows more. -/
  verbose : Bool
  deriving DecidableEq, Repr

/-- Why a command line is not understood. -/
inductive UsageError where
  /-- The last argument asks for a speed that is not there. -/
  | missingSpeed
  /-- The speed is no 32 bit number. -/
  | invalidSpeed (text : String)
  | unknownOption (text : String)
  /-- There is a program already. -/
  | unexpectedArgument (text : String)
  | invalidConfig (error : ConfigError)
  | missingProgram
  deriving DecidableEq, Repr

namespace UsageError

/-- What is wrong. -/
def reason : UsageError → String
  | missingSpeed => "--speed expects a value"
  | invalidSpeed text => "invalid speed " ++ text
  | unknownOption text => "unknown option " ++ text
  | unexpectedArgument text => "unexpected argument " ++ text
  | invalidConfig error => error.message
  | missingProgram => "Expecting path to the program to load as command line argument."

/-- What the user is told: the usage, and what is wrong. -/
def message (e : UsageError) : String :=
  "Usage: emulator_text_ui <program> [--speed HZ] [--strict] [--verbose]\n" ++ e.reason

end UsageError

namespace Arguments

/-- What has been read of a command line. -/
@[ext]
structure Draft where
  program : Option String := none
  config : Config := {}
  verbose : Bool := false
  deriving DecidableEq, Repr

/-- A text that looks like an option. -/
def isOption (text : String) : Bool := ['-', '-'].isPrefixOf text.toList

/-- Reads the rest of a command line, from left to right. -/
def Draft.read (d : Draft) : List String → Except UsageError Draft
  | [] => .ok d
  | arg :: rest =>
    if arg = "--speed" then
      match rest with
      | [] => .error .missingSpeed
      | value :: rest =>
        match Text.readUInt32 value with
        | none => .error (.invalidSpeed value)
        | some rate => read { d with config := { d.config with cyclesPerSecond := rate } } rest
    else if arg = "--strict" then read { d with config := { d.config with strict := true } } rest
    else if arg = "--verbose" then read { d with verbose := true } rest
    else if isOption arg then .error (.unknownOption arg)
    else
      match d.program with
      | none => read { d with program := some arg } rest
      | some _ => .error (.unexpectedArgument arg)

/-- The arguments, once everything has been read: the rates are checked before the program. -/
def Draft.finish (d : Draft) : Except UsageError Arguments :=
  match d.config.validate with
  | .error error => .error (.invalidConfig error)
  | .ok () =>
    match d.program with
    | none => .error .missingProgram
    | some program => .ok ⟨program, d.config, d.verbose⟩

/-- **Reads a command line.** -/
def parse (args : List String) : Except UsageError Arguments :=
  match Draft.read {} args with
  | .error error => .error error
  | .ok draft => draft.finish

end Arguments

end Chip8
