import Chip8.CallStack
import Chip8.Cells
import Chip8.Display
import Chip8.Keypad
import Chip8.Memory

/-!
# Components in their arrays

Each component as it is laid out: an array, or an array and a pointer into it, whose places are computed
by arithmetic of 64 bit numbers. An operation raises a fault, or aborts where the arithmetic or a place
leaves its bounds.

* `Memory.Checked`: `read`, `readBlock`, `write`, `writeBlock`, `clearRange`, `installFont`;
* `Display.Checked`: `get`, `toggle`, `drawRow`, `drawSprite`;
* `Keypad.Checked`: `isPressed`, `setPressed`, `firstPressed`;
* `CallStack.Operation`, **`CallStack.Checked`**: what is done to a call stack, and the stack itself with
  what earlier calls have left behind in it.
-/

namespace Chip8

namespace Memory.Checked

def read (m : Memory) (a : UInt16) : Except Fault UInt8 :=
  match Cells.lookup m.bytes a.toUInt64 with
  | some b => .ok b
  | none => .error (.addressOutOfRange a.toNat)

def write (m : Memory) (a : UInt16) (b : UInt8) : Except Fault Memory :=
  match Cells.update m.bytes a.toUInt64 b with
  | some bytes => .ok ⟨bytes⟩
  | none => .error (.addressOutOfRange a.toNat)

/-- The range of a block. -/
def range (start : UInt16) (len : UInt64) : Except Abort (Except Fault (UInt64 × UInt64)) := do
  let stop ← blockEnd start len
  if memorySize < stop.toNat then return .error (.addressOutOfRange (max memorySize start.toNat))
  else return .ok (start.toUInt64, stop)

def readBlock (m : Memory) (start : UInt16) (len : UInt64) :
    Except Abort (Except Fault (List UInt8)) := do
  match ← range start len with
  | .error fault => return .error fault
  | .ok (start, stop) =>
    let bytes ← Cells.slice m.bytes start stop
    return .ok bytes

def writeBlock (m : Memory) (values : ByteBlock) (start : UInt16) :
    Except Abort (Except Fault Memory) := do
  match ← range start values.length with
  | .error fault => return .error fault
  | .ok (start, stop) =>
    let bytes ← Cells.copyInto m.bytes start stop values.bytes
    return .ok ⟨bytes⟩

def clearRange (m : Memory) (start stop : UInt64) : Except Abort Memory := do
  -- The end is clipped to memory; a range that is empty after that may start anywhere.
  let stop := min stop (UInt64.ofNat memorySize)
  if start < stop then
    let bytes ← Cells.fill m.bytes start stop 0
    return ⟨bytes⟩
  else return m

def installFont (m : Memory) : Except Abort Memory := do
  let start := UInt64.ofNat fontStart
  let stop ← checkedAdd start (UInt64.ofNat fontBytes.length)
  let bytes ← Cells.copyInto m.bytes start stop fontBytes
  return ⟨bytes⟩

end Memory.Checked

namespace Display.Checked

/-- The place of a pixel when rows are laid end to end. -/
def place (x y : UInt64) : Except Abort UInt64 := do
  let offset ← checkedMul 64 y
  checkedAdd x offset

def position (x y : UInt64) : Except Abort (Except Fault UInt64) :=
  if 64 ≤ x ∨ 32 ≤ y then return .error (.pixelOutOfRange x.toNat y.toNat)
  else do
    let i ← place x y
    return .ok i

def get (d : Display) (x y : UInt64) : Except Abort (Except Fault Bool) := do
  match ← position x y with
  | .error fault => return .error fault
  | .ok i =>
    let on ← Cells.index d.pixels i
    return .ok on

/-- Flips the pixel at a place, and tells whether it was on. -/
def flip (d : Display) (i : UInt64) : Except Abort (Bool × Display) := do
  let on ← Cells.index d.pixels i
  let pixels ← Cells.assign d.pixels i (!on)
  return (on, ⟨pixels⟩)

def toggle (d : Display) (x y : UInt64) : Except Abort (Except Fault Display) := do
  match ← position x y with
  | .error fault => return .error fault
  | .ok i =>
    let (_, after) ← flip d i
    return .ok after

/-- Draws one bit of a sprite row, after others that may have turned a pixel off. -/
def drawBit (x y : UInt64) (row : UInt8) (drawn : Bool × Display) (bit : Nat) :
    Except Abort (Bool × Display) :=
  if row &&& (0x80 >>> UInt8.ofNat bit) = 0 then return drawn
  else do
    -- The sum is taken before it wraps around the edge.
    let column ← checkedAdd x (UInt64.ofNat bit)
    let i ← place (column % 64) y
    let (on, after) ← flip drawn.2 i
    return (drawn.1 || on, after)

/-- **Draws a sprite row**, and tells whether it turned a pixel off. -/
def drawRow (d : Display) (x y : UInt64) (row : UInt8) : Except Abort (Bool × Display) :=
  (List.range 8).foldlM (drawBit x (y % 32) row) (false, d)

/-- Draws the rows of a sprite, of which some have been counted, each below the one before. -/
def drawSprite (d : Display) (x y count : UInt64) : List UInt8 → Except Abort (Bool × Display)
  | [] => return (false, d)
  | row :: rows => do
    let line ← checkedAdd y count
    let (hit, d') ← drawRow d x line row
    let count ← checkedAdd count 1
    let (hits, d'') ← drawSprite d' x y count rows
    return (hit || hits, d'')

end Display.Checked

namespace Keypad.Checked

def isPressed (k : Keypad) (key : UInt8) : Bool := (Cells.lookup k.keys key.toUInt64).getD false

def setPressed (k : Keypad) (key : UInt8) (down : Bool) : Except Fault Keypad :=
  match Cells.update k.keys key.toUInt64 down with
  | some keys => .ok ⟨keys⟩
  | none => .error (.keyOutOfRange key)

/-- The byte that names the lowest key that is down. -/
def firstPressed (k : Keypad) : Option UInt8 := (k.keys.toList.findIdx? id).map UInt8.ofNat

end Keypad.Checked

namespace CallStack

/-- **What is done to a call stack.** -/
inductive Operation where
  | push (address : UInt16)
  | pop
  | clear

/-- The answer of an operation, with the return address that it takes off, and the stack after it. -/
def perform (s : CallStack) : Operation → Except Fault (Option UInt16) × CallStack
  | .push address =>
    match s.push address with
    | .ok after => (.ok none, after)
    | .error fault => (.error fault, s)
  | .pop =>
    match s.pop with
    | .ok (address, after) => (.ok (some address), after)
    | .error fault => (.error fault, s)
  | .clear => (.ok none, .empty)

/-- The answers of operations one after the other, and the stack after them. -/
def performAll (s : CallStack) : List Operation → List (Except Fault (Option UInt16)) × CallStack
  | [] => ([], s)
  | op :: ops =>
    let (answer, s') := s.perform op
    let (answers, s'') := s'.performAll ops
    (answer :: answers, s'')

/-- **A call stack in its array**, with a pointer to the next free frame. The frames behind it are what
earlier calls have left. -/
structure Checked where
  frames : Vector UInt16 stackSize
  pointer : UInt64
  deriving DecidableEq

namespace Checked

def empty : Checked := ⟨Vector.replicate stackSize 0, 0⟩

def push (s : Checked) (address : UInt16) : Except Abort (Except Fault Checked) :=
  match Cells.update s.frames s.pointer address with
  | none => return .error .stackOverflow
  | some frames => do
    let pointer ← checkedAdd s.pointer 1
    return .ok ⟨frames, pointer⟩

def pop (s : Checked) : Except Abort (Except Fault (UInt16 × Checked)) :=
  if s.pointer = 0 then return .error .stackUnderflow
  else do
    let pointer ← checkedSub s.pointer 1
    let address ← Cells.index s.frames pointer
    return .ok (address, ⟨s.frames, pointer⟩)

def perform (s : Checked) : Operation → Except Abort (Except Fault (Option UInt16) × Checked)
  | .push address => do
    match ← s.push address with
    | .ok after => return (.ok none, after)
    | .error fault => return (.error fault, s)
  | .pop => do
    match ← s.pop with
    | .ok (address, after) => return (.ok (some address), after)
    | .error fault => return (.error fault, s)
  | .clear => return (.ok none, empty)

def performAll (s : Checked) :
    List Operation → Except Abort (List (Except Fault (Option UInt16)) × Checked)
  | [] => return ([], s)
  | op :: ops => do
    let (answer, s') ← s.perform op
    let (answers, s'') ← s'.performAll ops
    return (answer :: answers, s'')

end Checked

end CallStack

end Chip8
