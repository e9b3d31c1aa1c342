import Chip8.CallStack
import Chip8.Display
import Chip8.Instruction
import Chip8.Keypad
import Chip8.Memory
import Chip8.Random.Source

/-!
# The virtual machine

* **`Vm`**: the complete state, and `Vm.fresh`, the state before any program is loaded;
* `RunState`, `Outcome`: whether a machine runs, and what a cycle did;
* registers: `reg`, `setReg`, `setFlag`, `setRegs`, with `reg_setReg`, `reg_setRegs`;
* `setKey`, `releaseKeys`, `takeFrame` and other operations of the surroundings.
-/

namespace Chip8

/-- Whether cycles and timer ticks have an effect. -/
inductive RunState where
  /-- Before a program is loaded, after it is unloaded and after a fault. -/
  | halted
  | running
  deriving DecidableEq, Repr

/-- What a cycle without a fault did. -/
inductive Outcome where
  /-- An instruction was executed. -/
  | executed
  /-- An instruction that waits for a key found none; it is executed again. -/
  | waitingForKey
  /-- A word that is no instruction was skipped. -/
  | unknownOpcode (word : UInt16)
  /-- Nothing, since the machine is halted. -/
  | halted
  deriving DecidableEq, Repr

/-- **The state of the machine.** -/
@[ext]
structure Vm where
  memory : Memory
  /-- The registers. -/
  v : Vector UInt8 registerCount
  /-- The index, through which instructions access memory. -/
  i : UInt16
  /-- The address of the next instruction. -/
  pc : UInt16
  display : Display
  /-- Counts down to zero. -/
  delay : UInt8
  /-- Counts down to zero, and beeps when it gets there. -/
  sound : UInt8
  keypad : Keypad
  stack : CallStack
  /-- The display may have changed since its pixels were last taken. -/
  redraw : Bool
  runState : RunState
  /-- A word that is no instruction is a fault instead of being skipped. -/
  strict : Bool
  random : RandomSource
  deriving DecidableEq

namespace Vm

/-- The registers of a machine that has not executed anything. -/
def zeroRegs : Vector UInt8 registerCount := Vector.replicate registerCount 0

/-- **A machine without a program.** -/
def fresh (random : RandomSource) : Vm where
  memory := .initial
  v := zeroRegs
  i := 0
  pc := programStart
  display := .blank
  delay := 0
  sound := 0
  keypad := .released
  stack := .empty
  redraw := false
  runState := .halted
  strict := false
  random := random

/-- The machine accepts cycles and ticks. -/
def isRunning (vm : Vm) : Bool := vm.runState == .running

/-! ## Registers -/

/-- The value of a register. -/
def reg (vm : Vm) (x : Register) : UInt8 := vm.v.get x

/-- Writes a register. -/
def setReg (vm : Vm) (x : Register) (b : UInt8) : Vm := { vm with v := vm.v.put x b }

/-- Writes one or zero into the flag register. -/
def setFlag (vm : Vm) (flag : Bool) : Vm := vm.setReg flagRegister flag.toUInt8

/-- Writes bytes into the first registers; the others keep their values. -/
def setRegs (vm : Vm) (bytes : List UInt8) : Vm :=
  { vm with v := vm.v.mapFinIdx fun k b _ => bytes[k]?.getD b }

/-- The values of the registers up to a given one. -/
def regsUpTo (vm : Vm) (x : Register) : List UInt8 := vm.v.toList.take (x.val + 1)

theorem reg_setReg (vm : Vm) (x y : Register) (b : UInt8) :
    (vm.setReg x b).reg y = if x = y then b else vm.reg y := by
  exact Vector.get_put ..

theorem reg_setFlag (vm : Vm) (flag : Bool) : (vm.setFlag flag).reg flagRegister = flag.toUInt8 := by
  rw [setFlag, reg_setReg, if_pos rfl]

theorem reg_setRegs (vm : Vm) (bytes : List UInt8) (y : Register) :
    (vm.setRegs bytes).reg y = bytes[y.val]?.getD (vm.reg y) := by
  simp [reg, setRegs, Vector.get_eq]

theorem length_regsUpTo (vm : Vm) (x : Register) : (vm.regsUpTo x).length = x.val + 1 := by
  rw [regsUpTo, List.length_take, Vector.length_toList]
  omega

/-! ## Operations of the surroundings -/

/-- Presses or releases the key named by a byte. -/
def setKey (vm : Vm) (key : UInt8) (down : Bool) : Except Fault Unit × Vm :=
  match vm.keypad.setPressed key down with
  | .ok keypad => (.ok (), { vm with keypad := keypad })
  | .error fault => (.error fault, vm)

/-- Releases all keys. -/
def releaseKeys (vm : Vm) : Vm := { vm with keypad := .released }

/-- Sets or clears the mark that the display may have changed. -/
def setRedraw (vm : Vm) (on : Bool) : Vm := { vm with redraw := on }

/-- Makes words that are no instruction a fault, or lets them be skipped. -/
def setStrict (vm : Vm) (on : Bool) : Vm := { vm with strict := on }

/-- The pixels of the display in row-major order, if they may have changed since they were last
taken. -/
def takeFrame (vm : Vm) : Option (Vector Bool pixelCount) × Vm :=
  if vm.redraw then (some vm.display.pixels, vm.setRedraw false) else (none, vm)

end Vm

end Chip8
