import Chip8.CommandLine
import Chip8.Emulator

/-!
# Launching

* `LaunchError`, with its `message`, `causes`, `report` and `exitCode`;
* **`Arguments.launch`**: an emulator that runs the program of a command line;
* `launch`: the same from the arguments themselves.
-/

namespace Chip8

/-- Why nothing runs. -/
inductive LaunchError where
  /-- The command line is not understood. -/
  | usage (error : UsageError)
  /-- The emulator refuses the configuration. -/
  | config (error : ConfigError)
  /-- The program is not loaded. -/
  | program (error : LoadError)
  deriving DecidableEq, Repr

namespace LaunchError

/-- What the user is told. -/
def message : LaunchError → String
  | usage error => error.message
  | config error => error.message
  | program error => error.message

/-- What lies behind the error. -/
def causes : LaunchError → List String
  | program error => error.causes
  | _ => []

/-- The lines that tell the user what happened: the message, and each cause. -/
def report (e : LaunchError) : List String := e.message :: e.causes.map ("  caused by: " ++ ·)

/-- The exit code of a program that ends with the error. -/
def exitCode : LaunchError → UInt32
  | usage _ => 2
  | _ => 1

end LaunchError

/-- **An emulator that runs the program of a command line**, around a machine with the given random
source. -/
def Arguments.launch (args : Arguments) (random : RandomSource) (files : FileSystem) :
    Except LaunchError Emulator :=
  match Emulator.create (.fresh random) args.config .queue with
  | .error error => .error (.config error)
  | .ok emulator =>
    match emulator.loadFile files args.program with
    | (.error error, _) => .error (.program error)
    | (.ok size, emulator) => .ok (emulator.note [.loadedFile args.program size])

/-- Reads a command line and runs its program. -/
def launch (args : List String) (random : RandomSource) (files : FileSystem) :
    Except LaunchError Emulator :=
  match Arguments.parse args with
  | .error error => .error (.usage error)
  | .ok arguments => arguments.launch random files

end Chip8
