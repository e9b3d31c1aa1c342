import Chip8.Log
import Chip8.Vm.Cycle
import Chip8.Vm.Load

/-!
# What the machine logs

The entries of an operation depend only on the state before it, so they are kept apart from the
operation and no operation depends on them.

* `Vm.instructionLog`: what an instruction logs besides itself;
* **`Vm.cycleLog`**, `Vm.tickLog`, `Vm.loadLog`: what each operation logs.
-/

namespace Chip8

namespace Vm

/-- What an instruction logs while it is executed. -/
def instructionLog (i : Instruction) (vm : Vm) : List LogEntry :=
  match i with
  | .waitForKey _ => (vm.keypad.firstPressed.map LogEntry.consumedKey).toList
  | .largeFontSprite x => [.ignoredLargeSprite x]
  | _ => []

/-- What fetching and executing logs, a fault apart. -/
def stepLog (vm : Vm) : List LogEntry :=
  match vm.fetch with
  | .error _ => []
  | .ok word =>
    match Instruction.decode word with
    | some i => .executing word i :: vm.advance.instructionLog i
    | none => if vm.strict then [] else [.skippedWord word vm.advance.rewind.pc]

/-- **What a cycle logs**: the instruction before it is executed, and a fault last. -/
def cycleLog (vm : Vm) : List LogEntry :=
  match vm.runState with
  | .halted => []
  | .running =>
    match vm.step with
    | .ok _ _ => vm.stepLog
    | .error fault _ => vm.stepLog ++ [.haltedAt vm.pc fault]

/-- What a number of cycles log, as far as `runFor` carries them out. -/
def runLog (vm : Vm) : Nat → List LogEntry
  | 0 => []
  | n + 1 =>
    match vm.cycle with
    | (.ok .executed, vm') => vm.cycleLog ++ vm'.runLog n
    | _ => vm.cycleLog

/-- What a tick logs. -/
def tickLog (vm : Vm) : List LogEntry := if vm.tick.1 then [.beep] else []

/-- What a number of ticks log. -/
def ticksLog (vm : Vm) : Nat → List LogEntry
  | 0 => []
  | n + 1 => vm.tickLog ++ vm.tick.2.ticksLog n

/-- What the answer of a load logs: an accepted program resets the machine. -/
def loadLog : Except LoadError Nat → List LogEntry
  | .ok size => [.reset, .loadedProgram size]
  | .error (.memory _) => [.reset]
  | .error _ => []

end Vm

end Chip8
