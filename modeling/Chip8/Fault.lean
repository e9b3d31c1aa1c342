import Chip8.Text.Hex
import Chip8.Text.Record

/-!
# Faults

A component that is asked for something outside its range answers with a fault; a fault raised by an
instruction halts the machine.

* **`Fault`**: the causes;
* `Fault.message`: the text shown to the user;
* `Fault.shown`: the fault in record notation;
* **`Abort`**: what has no answer at all, so the program ends;
* `checkedAdd`, `checkedSub`, `checkedMul`: arithmetic of 64 bit numbers; `checkedAdd16`,
  `checkedMul16`, `checkedSub8`: of words and bytes, where it does not wrap.
-/

namespace Chip8

/-- **The causes of a fault.** -/
inductive Fault where
  /-- No byte of memory has this address. -/
  | addressOutOfRange (address : Nat)
  /-- The display has no such pixel. -/
  | pixelOutOfRange (x y : Nat)
  /-- The keypad has no such key. -/
  | keyOutOfRange (key : UInt8)
  /-- A call while the call stack is full. -/
  | stackOverflow
  /-- A return while the call stack is empty. -/
  | stackUnderflow
  /-- A word that is no instruction. -/
  | unknownOpcode (word : UInt16)
  deriving DecidableEq, Repr

/-- What the user is told. -/
def Fault.message : Fault → String
  | addressOutOfRange a => "memory address " ++ Text.prefixed 4 a ++ " is out of range"
  | pixelOutOfRange x y => s!"pixel ({x}, {y}) is outside of the display"
  | keyOutOfRange k => "key " ++ Text.prefixed 1 k.toNat ++ " does not exist"
  | stackOverflow => "call stack overflow"
  | stackUnderflow => "return from subroutine with an empty call stack"
  | unknownOpcode w => "unknown opcode " ++ Text.prefixed 4 w.toNat

/-- A fault in record notation. -/
def Fault.shown : Fault → String
  | addressOutOfRange a => Text.record "AddressOutOfRange" [("address", toString a)]
  | pixelOutOfRange x y => Text.record "PixelOutOfRange" [("x", toString x), ("y", toString y)]
  | keyOutOfRange k => Text.tuple "KeyOutOfRange" [toString k.toNat]
  | stackOverflow => Text.tuple "StackOverflow" []
  | stackUnderflow => Text.tuple "StackUnderflow" []
  | unknownOpcode w => Text.tuple "UnknownOpcode" [toString w.toNat]

/-- **Operations without an answer.** Lengths, places and coordinates are 64 bit numbers. Arithmetic that
leaves the numbers of its operands, like a division by zero or a place outside an array, ends the program
instead of raising a fault. -/
inductive Abort where
  /-- A sum that needs more bits than its operands have. -/
  | additionOverflow
  /-- A difference that is negative. -/
  | subtractionOverflow
  /-- A product that needs more bits than its operands have. -/
  | multiplicationOverflow
  /-- A duration divided by zero. -/
  | durationByZero
  /-- An array has no such place. -/
  | indexOutOfRange (index size : Nat)
  /-- A range that ends before it starts. -/
  | rangeReversed (start stop : Nat)
  /-- A range that ends behind the end of an array. -/
  | rangeOutOfRange (stop size : Nat)
  /-- Values that are copied to a range of another length. -/
  | lengthMismatch (source target : Nat)
  deriving DecidableEq, Repr

/-- The last words of an aborted program. -/
def Abort.message : Abort → String
  | additionOverflow => "attempt to add with overflow"
  | subtractionOverflow => "attempt to subtract with overflow"
  | multiplicationOverflow => "attempt to multiply with overflow"
  | durationByZero => "divide by zero error when dividing duration by scalar"
  | indexOutOfRange index size =>
    s!"index out of bounds: the len is {size} but the index is {index}"
  | rangeReversed start stop => s!"slice index starts at {start} but ends at {stop}"
  | rangeOutOfRange stop size =>
    s!"range end index {stop} out of range for slice of length {size}"
  | lengthMismatch source target =>
    s!"copy_from_slice: source slice length ({source}) does not match destination slice length ({target})"

section Arithmetic

variable {a b : UInt64}

/-- The sum of two 64 bit numbers, if it is one. -/
def checkedAdd (a b : UInt64) : Except Abort UInt64 :=
  if a.toNat + b.toNat < UInt64.size then .ok (a + b) else .error .additionOverflow

/-- The difference of two 64 bit numbers, if it is one. -/
def checkedSub (a b : UInt64) : Except Abort UInt64 :=
  if b ≤ a then .ok (a - b) else .error .subtractionOverflow

/-- The product of two 64 bit numbers, if it is one. -/
def checkedMul (a b : UInt64) : Except Abort UInt64 :=
  if a.toNat * b.toNat < UInt64.size then .ok (a * b) else .error .multiplicationOverflow

theorem checkedAdd_eq_ok (h : a.toNat + b.toNat < UInt64.size) : checkedAdd a b = .ok (a + b) := if_pos h

theorem checkedAdd_eq_error (h : UInt64.size ≤ a.toNat + b.toNat) :
    checkedAdd a b = .error .additionOverflow := if_neg (Nat.not_lt.mpr h)

theorem checkedSub_eq_ok (h : b ≤ a) : checkedSub a b = .ok (a - b) := if_pos h

theorem checkedMul_eq_ok (h : a.toNat * b.toNat < UInt64.size) : checkedMul a b = .ok (a * b) := if_pos h

end Arithmetic

section Narrow

def checkedAdd16 (a b : UInt16) : Except Abort UInt16 :=
  if a.toNat + b.toNat < UInt16.size then .ok (a + b) else .error .additionOverflow

def checkedMul16 (a b : UInt16) : Except Abort UInt16 :=
  if a.toNat * b.toNat < UInt16.size then .ok (a * b) else .error .multiplicationOverflow

def checkedSub8 (a b : UInt8) : Except Abort UInt8 :=
  if b ≤ a then .ok (a - b) else .error .subtractionOverflow

theorem checkedAdd16_eq_ok {a b : UInt16} (h : a.toNat + b.toNat < UInt16.size) :
    checkedAdd16 a b = .ok (a + b) := if_pos h

theorem checkedMul16_eq_ok {a b : UInt16} (h : a.toNat * b.toNat < UInt16.size) :
    checkedMul16 a b = .ok (a * b) := if_pos h

theorem checkedSub8_eq_ok {a b : UInt8} (h : b ≤ a) : checkedSub8 a b = .ok (a - b) := if_pos h

end Narrow

end Chip8
