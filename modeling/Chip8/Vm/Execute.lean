import Chip8.Vm

/-!
# Executing instructions

An instruction is executed after the program counter has moved past it. The result of a fault keeps
the state that the instruction leaves behind.

* `Vm.Result`: an outcome or a fault, with the state after it;
* **`Vm.execute`**: the effect of each instruction.
-/

namespace Chip8

namespace Vm

/-- An outcome or a fault, and the state after it. -/
abbrev Result := EStateM.Result Fault Vm Outcome

/-- The instruction has been executed. -/
def done (vm : Vm) : Result := .ok .executed vm

/-- Goes on with the answer of a component; its fault leaves the machine as it is. -/
def attempt {α : Type} (vm : Vm) (answer : Except Fault α) (next : α → Vm) : Result :=
  match answer with
  | .ok a => done (next a)
  | .error fault => .error fault vm

@[simp]
theorem done_eq_ok {vm vm' : Vm} {o : Outcome} :
    done vm = .ok o vm' ↔ o = .executed ∧ vm' = vm := by
  simp [done, eq_comm]

@[simp]
theorem done_ne_error {vm vm' : Vm} {f : Fault} : done vm ≠ .error f vm' := nofun

theorem attempt_eq_ok {α : Type} {vm vm' : Vm} {answer : Except Fault α} {next : α → Vm}
    {o : Outcome} : vm.attempt answer next = .ok o vm' ↔
      o = .executed ∧ ∃ a, answer = .ok a ∧ vm' = next a := by
  cases answer <;> simp [attempt]

theorem attempt_eq_error {α : Type} {vm vm' : Vm} {answer : Except Fault α} {next : α → Vm}
    {f : Fault} : vm.attempt answer next = .error f vm' ↔ answer = .error f ∧ vm' = vm := by
  cases answer <;> simp [attempt, eq_comm]

/-- Moves past the next instruction. -/
def advance (vm : Vm) : Vm := { vm with pc := vm.pc + instructionSize }

/-- Moves back onto the instruction that is being executed. -/
def rewind (vm : Vm) : Vm := { vm with pc := vm.pc - instructionSize }

/-- Skips the next instruction if a condition holds. -/
def skipIf (vm : Vm) (condition : Bool) : Vm := if condition then vm.advance else vm

/-- The hundreds, tens and ones of a byte. -/
def decimalDigits (b : UInt8) : List UInt8 := [b / 100, b / 10 % 10, b % 10]

/-- The address of the glyph of a number; only the first sixteen have one. -/
def glyphAddress (b : UInt8) : UInt16 := UInt16.ofNat (fontStart + glyphHeight * b.toNat)

/-- The key that a register names is down; only its low digit counts. -/
def keyDown (vm : Vm) (x : Register) : Bool := vm.keypad.isPressed (vm.reg x &&& 0xF)

/-- Adds a register to another; the carry is written last. -/
def addRegisters (vm : Vm) (x y : Register) : Vm :=
  (vm.setReg x (vm.reg x + vm.reg y)).setFlag (256 ≤ (vm.reg x).toNat + (vm.reg y).toNat)

/-- Subtracts a register from another. The flag is written first, and the difference is that of the
registers after it. -/
def sub (vm : Vm) (x y : Register) : Vm :=
  let vm := vm.setFlag (vm.reg y < vm.reg x)
  vm.setReg x (vm.reg x - vm.reg y)

/-- Shifts a register to the right. The flag is written first. -/
def shiftRight (vm : Vm) (x : Register) : Vm :=
  let vm := vm.setFlag (vm.reg x &&& 1 != 0)
  vm.setReg x (vm.reg x >>> 1)

/-- Subtracts the other way round. The flag is written first. -/
def subReversed (vm : Vm) (x y : Register) : Vm :=
  let vm := vm.setFlag (vm.reg x < vm.reg y)
  vm.setReg x (vm.reg y - vm.reg x)

/-- Shifts a register to the left. The flag is written first. -/
def shiftLeft (vm : Vm) (x : Register) : Vm :=
  let vm := vm.setFlag (vm.reg x &&& 0x80 != 0)
  vm.setReg x (vm.reg x <<< 1)

/-- Loads a random byte under a mask. -/
def drawRandom (vm : Vm) (x : Register) (mask : UInt8) : Vm :=
  let (b, random) := vm.random.nextByte
  { vm with random := random }.setReg x (b &&& mask)

/-- Draws a sprite at the place two registers name; the flag is the collision. -/
def drawSprite (vm : Vm) (x y : Register) (rows : List UInt8) : Vm :=
  let (collision, display) := vm.display.drawSprite (vm.reg x).toNat (vm.reg y).toNat rows
  { vm with display := display, redraw := true }.setFlag collision

/-- Takes the lowest key that is down and releases it; without one the instruction is executed
again. -/
def waitForKey (vm : Vm) (x : Register) : Result :=
  match vm.keypad.firstPressed with
  | some key =>
    let vm := vm.setReg x (UInt8.ofNat key.val)
    vm.attempt (vm.keypad.setPressed (UInt8.ofNat key.val) false) fun keypad =>
      { vm with keypad := keypad }
  | none => .ok .waitingForKey vm.rewind

/-- **The effect of an instruction.** -/
def execute (i : Instruction) (vm : Vm) : Result :=
  match i with
  | .clearScreen => done { vm with display := .blank, redraw := true }
  | .ret =>
    vm.attempt vm.stack.pop fun (address, stack) =>
      { vm with pc := address, stack := stack, redraw := true }
  | .jump a => done { vm with pc := a.toWord }
  | .call a => vm.attempt (vm.stack.push vm.pc) fun stack => { vm with pc := a.toWord, stack := stack }
  | .skipIfEqual x nn => done (vm.skipIf (vm.reg x == nn))
  | .skipIfNotEqual x nn => done (vm.skipIf (vm.reg x != nn))
  | .skipIfRegistersEqual x y => done (vm.skipIf (vm.reg x == vm.reg y))
  | .load x nn => done (vm.setReg x nn)
  | .add x nn => done (vm.setReg x (vm.reg x + nn))
  | .copy x y => done (vm.setReg x (vm.reg y))
  | .or x y => done (vm.setReg x (vm.reg x ||| vm.reg y))
  | .and x y => done (vm.setReg x (vm.reg x &&& vm.reg y))
  | .xor x y => done (vm.setReg x (vm.reg x ^^^ vm.reg y))
  | .addRegisters x y => done (vm.addRegisters x y)
  | .sub x y => done (vm.sub x y)
  | .shiftRight x => done (vm.shiftRight x)
  | .subReversed x y => done (vm.subReversed x y)
  | .shiftLeft x => done (vm.shiftLeft x)
  | .skipIfRegistersNotEqual x y => done (vm.skipIf (vm.reg x != vm.reg y))
  | .loadIndex a => done { vm with i := a.toWord }
  | .jumpOffset a => done { vm with pc := a.toWord + (vm.reg offsetRegister).toUInt16 }
  | .random x nn => done (vm.drawRandom x nn)
  | .draw x y n => vm.attempt (vm.memory.readBlock vm.i n.val) (vm.drawSprite x y)
  | .skipIfKeyPressed x => done (vm.skipIf (vm.keyDown x))
  | .skipIfKeyNotPressed x => done (vm.skipIf (!vm.keyDown x))
  | .readDelay x => done (vm.setReg x vm.delay)
  | .waitForKey x => vm.waitForKey x
  | .setDelay x => done { vm with delay := vm.reg x }
  | .setSound x => done { vm with sound := vm.reg x }
  | .addIndex x => done { vm with i := vm.i + (vm.reg x).toUInt16 }
  | .fontSprite x => done { vm with i := glyphAddress (vm.reg x), redraw := true }
  | .largeFontSprite _ => done vm
  | .storeBcd x =>
    vm.attempt (vm.memory.writeBlock (decimalDigits (vm.reg x)) vm.i) fun m => { vm with memory := m }
  | .storeRegisters x =>
    vm.attempt (vm.memory.writeBlock (vm.regsUpTo x) vm.i) fun m => { vm with memory := m }
  | .loadRegisters x => vm.attempt (vm.memory.readBlock vm.i (x.val + 1)) vm.setRegs

end Vm

end Chip8
