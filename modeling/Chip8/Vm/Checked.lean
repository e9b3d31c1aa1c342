import Chip8.Checked
import Chip8.Vm.Operation

/-!
# The machine in its arrays

The machine as it is laid out. Registers are named by 64 bit numbers cut out of the instruction word,
so every access to them is an access to an array; the components do theirs on their own arrays. Where
arithmetic wraps it is written with the operators of words and bytes, and elsewhere it is checked.

* `Operands`: the fields of a word as places and numbers;
* **`Vm.Checked`**: the state, with the call stack in its array;
* registers: `reg`, `setReg`, `setFlag`, `regsUpTo`, `setRegsUpTo`;
* `execute`, `step`, `cycle`, `tick`, `load`, and **`perform`**, `performAll`: the operations of a
  machine, each of which may abort;
* `create`: the machine without a program.
-/

namespace Chip8

/-- The operands of an instruction word. -/
structure Operands where
  x : UInt64
  y : UInt64
  n : UInt64
  nn : UInt8
  nnn : UInt16

namespace Operands

def ofWord (w : UInt16) : Operands where
  x := (w >>> 8 &&& 0xF).toUInt64
  y := (w >>> 4 &&& 0xF).toUInt64
  n := (w &&& 0xF).toUInt8.toUInt64
  nn := (w &&& 0xFF).toUInt8
  nnn := w &&& 0xFFF

end Operands

namespace Vm

/-- **The machine in its arrays.** -/
structure Checked where
  memory : Memory
  v : Vector UInt8 registerCount
  i : UInt16
  pc : UInt16
  display : Display
  delay : UInt8
  sound : UInt8
  keypad : Keypad
  stack : CallStack.Checked
  redraw : Bool
  runState : RunState
  strict : Bool
  random : RandomSource

namespace Checked

/-- A machine without a program, whose memory has only the font. -/
def create (random : RandomSource) : Except Abort Checked := do
  let memory ← Memory.Checked.installFont .zeroed
  return {
    memory := memory
    v := zeroRegs
    i := 0
    pc := programStart
    display := .blank
    delay := 0
    sound := 0
    keypad := .released
    stack := .empty
    redraw := false
    runState := .halted
    strict := false
    random := random }

/-! ## Registers -/

def reg (s : Checked) (x : UInt64) : Except Abort UInt8 := Cells.index s.v x

def setReg (s : Checked) (x : UInt64) (b : UInt8) : Except Abort Checked := do
  let v ← Cells.assign s.v x b
  return { s with v := v }

def setFlag (s : Checked) (flag : Bool) : Except Abort Checked := s.setReg 0xF flag.toUInt8

/-- The slice of the registers that ends with a given one. -/
def regsUpTo (s : Checked) (x : UInt64) : Except Abort (List UInt8) := do
  let stop ← checkedAdd x 1
  Cells.slice s.v 0 stop

/-- Copies as many bytes into that slice. -/
def setRegsUpTo (s : Checked) (x : UInt64) (values : List UInt8) : Except Abort Checked := do
  let stop ← checkedAdd x 1
  let v ← Cells.copyInto s.v 0 stop values
  return { s with v := v }

/-! ## Instructions -/

/-- An outcome or a fault, and the state after it. -/
abbrev Result := EStateM.Result Fault Checked Outcome

def done (s : Checked) : Except Abort Result := return .ok .executed s

/-- Goes on with the answer of a component; its fault leaves the machine as it is. -/
def attempt {α : Type} (s : Checked) (answer : Except Fault α) (next : α → Except Abort Checked) :
    Except Abort Result :=
  match answer with
  | .ok a => do
    let s' ← next a
    done s'
  | .error fault => return .error fault s

def advance (s : Checked) : Checked := { s with pc := s.pc + instructionSize }

def rewind (s : Checked) : Checked := { s with pc := s.pc - instructionSize }

def skipIf (s : Checked) (condition : Bool) : Checked := if condition then s.advance else s

/-- Computes a register from its value. -/
def change (s : Checked) (x : UInt64) (f : UInt8 → UInt8) : Except Abort Checked := do
  let a ← s.reg x
  s.setReg x (f a)

/-- Computes a register from its value and that of another. -/
def combine (s : Checked) (x y : UInt64) (f : UInt8 → UInt8 → UInt8) : Except Abort Checked := do
  let a ← s.reg x
  let b ← s.reg y
  s.setReg x (f a b)

/-- Writes the flag, and then computes a register from the registers after that. -/
def combineAfterFlag (s : Checked) (x y : UInt64) (flag : UInt8 → UInt8 → Bool)
    (f : UInt8 → UInt8 → UInt8) : Except Abort Checked := do
  let a ← s.reg x
  let b ← s.reg y
  let s ← s.setFlag (flag a b)
  s.combine x y f

def addRegisters (s : Checked) (x y : UInt64) : Except Abort Checked := do
  let a ← s.reg x
  let b ← s.reg y
  let s ← s.setReg x (a + b)
  s.setFlag (256 ≤ a.toNat + b.toNat)

def drawRandom (s : Checked) (x : UInt64) (mask : UInt8) : Except Abort Checked :=
  let (b, random) := s.random.nextByte
  { s with random := random }.setReg x (b &&& mask)

def drawSprite (s : Checked) (x y : UInt64) (rows : List UInt8) : Except Abort Checked := do
  let column ← s.reg x
  let line ← s.reg y
  let (collision, display) ← Display.Checked.drawSprite s.display column.toUInt64 line.toUInt64 0 rows
  let s ← { s with display := display }.setFlag collision
  return { s with redraw := true }

def keyDown (s : Checked) (x : UInt64) : Except Abort Bool := do
  let b ← s.reg x
  return Keypad.Checked.isPressed s.keypad (b &&& 0xF)

def waitForKey (s : Checked) (x : UInt64) : Except Abort Result :=
  match Keypad.Checked.firstPressed s.keypad with
  | some key => do
    let s ← s.setReg x key
    s.attempt (Keypad.Checked.setPressed s.keypad key false) fun keypad =>
      return { s with keypad := keypad }
  | none => return .ok .waitingForKey s.rewind

/-- The address of the glyph of a number, computed in words. -/
def glyphAddress (b : UInt8) : Except Abort UInt16 := do
  let offset ← checkedMul16 b.toUInt16 (UInt16.ofNat glyphHeight)
  checkedAdd16 (UInt16.ofNat fontStart) offset

/-- Stores bytes at the index. -/
def store (s : Checked) (bytes : List UInt8) : Except Abort Result := do
  let answer ← Memory.Checked.writeBlock s.memory (.ofList bytes) s.i
  s.attempt answer fun m => return { s with memory := m }

def ret (s : Checked) : Except Abort Result := do
  let answer ← s.stack.pop
  s.attempt answer fun (address, stack) =>
    return { s with pc := address, stack := stack, redraw := true }

def call (s : Checked) (address : UInt16) : Except Abort Result := do
  let answer ← s.stack.push s.pc
  s.attempt answer fun stack => return { s with pc := address, stack := stack }

/-- **The effect of an instruction**, with the operands of its word. -/
def execute (w : Operands) (i : Instruction) (s : Checked) : Except Abort Result := do
  match i with
  | .clearScreen => done { s with display := .blank, redraw := true }
  | .ret => s.ret
  | .jump _ => done { s with pc := w.nnn }
  | .call _ => s.call w.nnn
  | .skipIfEqual .. => done (s.skipIf ((← s.reg w.x) == w.nn))
  | .skipIfNotEqual .. => done (s.skipIf ((← s.reg w.x) != w.nn))
  | .skipIfRegistersEqual .. => done (s.skipIf ((← s.reg w.x) == (← s.reg w.y)))
  | .load .. => done (← s.setReg w.x w.nn)
  | .add .. => done (← s.change w.x (· + w.nn))
  | .copy .. => done (← s.setReg w.x (← s.reg w.y))
  | .or .. => done (← s.combine w.x w.y (· ||| ·))
  | .and .. => done (← s.combine w.x w.y (· &&& ·))
  | .xor .. => done (← s.combine w.x w.y (· ^^^ ·))
  | .addRegisters .. => done (← s.addRegisters w.x w.y)
  | .sub .. => done (← s.combineAfterFlag w.x w.y (fun a b => b < a) (fun a b => a - b))
  | .shiftRight _ => done (← s.combineAfterFlag w.x w.x (fun a _ => a &&& 1 != 0) (fun a _ => a >>> 1))
  | .subReversed .. => done (← s.combineAfterFlag w.x w.y (fun a b => a < b) (fun a b => b - a))
  | .shiftLeft _ => done (← s.combineAfterFlag w.x w.x (fun a _ => a &&& 0x80 != 0) (fun a _ => a <<< 1))
  | .skipIfRegistersNotEqual .. => done (s.skipIf ((← s.reg w.x) != (← s.reg w.y)))
  | .loadIndex _ => done { s with i := w.nnn }
  | .jumpOffset _ => done { s with pc := w.nnn + (← s.reg 0).toUInt16 }
  | .random .. => done (← s.drawRandom w.x w.nn)
  | .draw .. => s.attempt (← Memory.Checked.readBlock s.memory s.i w.n) (s.drawSprite w.x w.y)
  | .skipIfKeyPressed _ => done (s.skipIf (← s.keyDown w.x))
  | .skipIfKeyNotPressed _ => done (s.skipIf (!(← s.keyDown w.x)))
  | .readDelay _ => done (← s.setReg w.x s.delay)
  | .waitForKey _ => s.waitForKey w.x
  | .setDelay _ => done { s with delay := (← s.reg w.x) }
  | .setSound _ => done { s with sound := (← s.reg w.x) }
  | .addIndex _ => done { s with i := s.i + (← s.reg w.x).toUInt16 }
  | .fontSprite _ => done { s with i := (← glyphAddress (← s.reg w.x)), redraw := true }
  | .largeFontSprite _ => done s
  | .storeBcd _ => s.store (decimalDigits (← s.reg w.x))
  | .storeRegisters _ => s.store (← s.regsUpTo w.x)
  | .loadRegisters _ =>
    let len ← checkedAdd w.x 1
    s.attempt (← Memory.Checked.readBlock s.memory s.i len) (s.setRegsUpTo w.x)

/-! ## Cycles and ticks -/

/-- The word at the program counter. -/
def fetch (s : Checked) : Except Abort (Except Fault UInt16) := do
  match ← Memory.Checked.readBlock s.memory s.pc instructionSize.toUInt64 with
  | .error fault => return .error fault
  | .ok bytes =>
    let high ← Cells.element bytes 0
    let low ← Cells.element bytes 1
    return .ok (wordOfBytes high low)

def step (s : Checked) : Except Abort Result := do
  match ← s.fetch with
  | .error fault => return .error fault s
  | .ok word =>
    match Instruction.decode word with
    | some i => s.advance.execute (.ofWord word) i
    | none =>
      if s.strict then return .error (.unknownOpcode word) s.advance
      else return .ok (.unknownOpcode word) s.advance

def haltAt (s : Checked) (address : UInt16) : Checked := { s with pc := address, runState := .halted }

/-- **One cycle.** -/
def cycle (s : Checked) : Except Abort (Except Fault Outcome × Checked) :=
  match s.runState with
  | .halted => return (.ok .halted, s)
  | .running => do
    match ← s.step with
    | .ok outcome s' => return (.ok outcome, s')
    | .error fault s' => return (.error fault, s'.haltAt s.pc)

/-- Takes one from a timer that has not run out. -/
def countDown (b : UInt8) : Except Abort UInt8 := if 0 < b then checkedSub8 b 1 else return b

/-- **One tick of the timers.** -/
def tick (s : Checked) : Except Abort (Bool × Checked) :=
  match s.runState with
  | .halted => return (false, s)
  | .running => do
    let delay ← countDown s.delay
    let sound ← countDown s.sound
    return (s.sound == 1, { s with delay := delay, sound := sound })

/-! ## Resets and loading -/

def softReset (s : Checked) : Checked :=
  { s with
    display := .blank
    redraw := true
    pc := programStart
    stack := .empty
    i := 0
    v := zeroRegs
    delay := 0
    sound := 0 }

def hardReset (s : Checked) : Except Abort Checked := do
  let cleared ← Memory.Checked.clearRange s.memory programStart.toUInt64 (UInt64.ofNat memorySize)
  let memory ← Memory.Checked.installFont cleared
  return { s with memory := memory, runState := .halted }.softReset

/-- Copies a program into memory that is cleared for it, and runs it. -/
def copyProgram (s : Checked) (program : List UInt8) :
    Except Abort (Except LoadError Nat × Checked) := do
  let stop ← checkedAdd programEnd.toUInt64 1
  let cleared ← Memory.Checked.clearRange s.memory programStart.toUInt64 stop
  match ← Memory.Checked.writeBlock cleared (.ofList program) programStart with
  | .error fault => return (.error (.memory fault), { s with memory := cleared })
  | .ok memory =>
    return (.ok program.length, { s with memory := memory, runState := .running, redraw := true })

/-- **Loads a program.** -/
def load (s : Checked) (program : List UInt8) : Except Abort (Except LoadError Nat × Checked) :=
  if maxProgramSize < program.length then return (.error (.programTooLarge program.length), s)
  else do
    let s ← s.hardReset
    s.copyProgram program

def loadFile (s : Checked) (files : FileSystem) (path : String) :
    Except Abort (Except LoadError Nat × Checked) :=
  match files path with
  | .ok program => s.load program
  | .error failure => return (.error (.ofFile path failure), s)

def setKey (s : Checked) (key : UInt8) (down : Bool) : Except Fault Unit × Checked :=
  match Keypad.Checked.setPressed s.keypad key down with
  | .ok keypad => (.ok (), { s with keypad := keypad })
  | .error fault => (.error fault, s)

/-! ## Operations -/

/-- **The answer of an operation, and the machine after it.** -/
def perform (s : Checked) : Operation → Except Abort (Answer × Checked)
  | .load program => return (← s.load program).map .loaded id
  | .loadFile files path => return (← s.loadFile files path).map .loaded id
  | .cycle => return (← s.cycle).map .cycled id
  | .tick => return (← s.tick).map .ticked id
  | .softReset => return (.done, s.softReset)
  | .hardReset => return (.done, ← s.hardReset)
  | .setKey key down => return (s.setKey key down).map .keySet id
  | .releaseKeys => return (.done, { s with keypad := .released })
  | .setRedraw on => return (.done, { s with redraw := on })
  | .setStrict on => return (.done, { s with strict := on })

def performAll (s : Checked) : List Operation → Except Abort (List Answer × Checked)
  | [] => return ([], s)
  | op :: ops => do
    let (answer, s') ← s.perform op
    let (answers, s'') ← s'.performAll ops
    return (answer :: answers, s'')

end Checked

end Vm

end Chip8
