import Chip8.Files
import Chip8.Vm

/-!
# Resets and loading

* `Vm.softReset`: back to the start of the program in memory;
* `Vm.hardReset`: the program is removed, and the machine halted;
* `LoadError`, with `LoadError.message` and `LoadError.causes`;
* **`Vm.load`**, `Vm.loadFile`: a program replaces the one in memory and starts to run.
-/

namespace Chip8

/-- Why a program is not loaded. -/
inductive LoadError where
  | couldNotOpen (path : String) (cause : FileError)
  | couldNotRead (path : String) (cause : FileError)
  /-- The program does not fit between its start and the end of memory. -/
  | programTooLarge (size : Nat)
  /-- The program could not be copied. -/
  | memory (fault : Fault)
  deriving DecidableEq, Repr

namespace LoadError

/-- What the user is told. -/
def message : LoadError → String
  | couldNotOpen path _ => "could not open file " ++ path
  | couldNotRead path _ => "could not read file " ++ path
  | programTooLarge size => s!"program too large: {size} bytes"
  | memory _ => "could not copy program into memory"

/-- What lies behind the error. -/
def causes : LoadError → List String
  | couldNotOpen _ cause | couldNotRead _ cause => [cause.message]
  | programTooLarge _ => []
  | memory fault => [fault.message]

/-- The error that a failure of the file at a path becomes. -/
def ofFile (path : String) : FileFailure → LoadError
  | .opening cause => couldNotOpen path cause
  | .reading cause => couldNotRead path cause

end LoadError

namespace Vm

/-- Clears the display, the registers, the stack and the timers, and goes back to the start of the
program. Memory, keypad and run state stay. -/
def softReset (vm : Vm) : Vm :=
  { vm with
    display := .blank
    redraw := true
    pc := programStart
    stack := .empty
    i := 0
    v := zeroRegs
    delay := 0
    sound := 0 }

/-- Removes the program, restores the font, and halts. -/
def hardReset (vm : Vm) : Vm :=
  { vm with
    memory := (vm.memory.clearRange programStart.toNat memorySize).installFont
    runState := .halted }.softReset

/-- Copies a program into memory that is cleared for it, and runs it. -/
def copyProgram (vm : Vm) (program : List UInt8) : Except LoadError Nat × Vm :=
  let cleared := vm.memory.clearRange programStart.toNat (programEnd.toNat + 1)
  match cleared.writeBlock program programStart with
  | .error fault => (.error (.memory fault), { vm with memory := cleared })
  | .ok memory =>
    (.ok program.length, { vm with memory := memory, runState := .running, redraw := true })

/-- **Loads a program**, after a hard reset, and runs it. One that is too large changes nothing. The
answer is the size of the program. -/
def load (vm : Vm) (program : List UInt8) : Except LoadError Nat × Vm :=
  if maxProgramSize < program.length then (.error (.programTooLarge program.length), vm)
  else vm.hardReset.copyProgram program

/-- **Loads the program in a file.** A file without content to read changes nothing. -/
def loadFile (vm : Vm) (files : FileSystem) (path : String) : Except LoadError Nat × Vm :=
  match files path with
  | .ok program => vm.load program
  | .error failure => (.error (.ofFile path failure), vm)

theorem load_of_too_large (vm : Vm) {program : List UInt8} (h : maxProgramSize < program.length) :
    vm.load program = (.error (.programTooLarge program.length), vm) := if_pos h

theorem load_of_fits (vm : Vm) {program : List UInt8} (h : program.length ≤ maxProgramSize) :
    vm.load program = vm.hardReset.copyProgram program := if_neg (Nat.not_lt.mpr h)

end Vm

end Chip8
