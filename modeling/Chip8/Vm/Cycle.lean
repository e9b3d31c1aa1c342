import Chip8.Instruction.Decode
import Chip8.Vm.Execute

/-!
# Cycles and ticks

* `Vm.fetch`, `Vm.step`: the instruction at the program counter, and its execution;
* **`Vm.cycle`**: one cycle; a fault halts the machine at the instruction that raised it;
* **`Vm.tick`**: one tick of both timers, which may beep;
* `Vm.runFor`, `Vm.ticks`: several of them.
-/

namespace Chip8

namespace Vm

/-- The word at the program counter. -/
def fetch (vm : Vm) : Except Fault UInt16 :=
  (Memory.checkBlock vm.pc 2).map fun _ =>
    wordOfBytes (vm.memory.byte vm.pc.toNat) (vm.memory.byte (vm.pc.toNat + 1))

/-- Fetches the word at the program counter, moves past it and executes the instruction it denotes.
A word that denotes none is a fault or is skipped. -/
def step (vm : Vm) : Result :=
  match vm.fetch with
  | .error fault => .error fault vm
  | .ok word =>
    match Instruction.decode word with
    | some i => vm.advance.execute i
    | none =>
      if vm.strict then .error (.unknownOpcode word) vm.advance
      else .ok (.unknownOpcode word) vm.advance

/-- Halts at an address. -/
def haltAt (vm : Vm) (address : UInt16) : Vm := { vm with pc := address, runState := .halted }

/-- **One cycle.** A halted machine does nothing. After a fault the program counter is back at the
instruction that raised it, and the machine is halted. -/
def cycle (vm : Vm) : Except Fault Outcome × Vm :=
  match vm.runState with
  | .halted => (.ok .halted, vm)
  | .running =>
    let address := vm.pc
    match vm.step with
    | .ok outcome vm' => (.ok outcome, vm')
    | .error fault vm' => (.error fault, vm'.haltAt address)

/-- **One tick of the timers.** A halted machine does nothing. The tick beeps if it takes the sound
timer from one to zero. -/
def tick (vm : Vm) : Bool × Vm :=
  match vm.runState with
  | .halted => (false, vm)
  | .running =>
    (vm.sound == 1,
      { vm with
        delay := if 0 < vm.delay then vm.delay - 1 else 0
        sound := if 0 < vm.sound then vm.sound - 1 else 0 })

/-- At most the given number of cycles, up to and including the first that does not execute an
instruction: how many, and what the last one did. Where none is asked for, nothing stops the machine,
and the outcome is `executed`. -/
def runFor (vm : Vm) : Nat → Nat × Except Fault Outcome × Vm
  | 0 => (0, .ok .executed, vm)
  | n + 1 =>
    match vm.cycle with
    | (.ok .executed, vm') =>
      let (k, last, vm'') := vm'.runFor n
      (k + 1, last, vm'')
    | (last, vm') => (1, last, vm')

/-- The given number of ticks: how many of them beeped. -/
def ticks (vm : Vm) : Nat → Nat × Vm
  | 0 => (0, vm)
  | n + 1 =>
    let (beep, vm') := vm.tick
    let (beeps, vm'') := vm'.ticks n
    (beeps + beep.toNat, vm'')

theorem cycle_of_halted {vm : Vm} (h : vm.runState = .halted) : vm.cycle = (.ok .halted, vm) := by
  simp [cycle, h]

theorem tick_of_halted {vm : Vm} (h : vm.runState = .halted) : vm.tick = (false, vm) := by
  simp [tick, h]

end Vm

end Chip8
