import Chip8.Instruction

/-!
# Decoding

* **`Instruction.decode`**: the instruction that a word denotes, if any;
* `wordOfBytes`: a word from its bytes, high byte first.
-/

namespace Chip8

/-- A word from its bytes, the high byte first. -/
def wordOfBytes (high low : UInt8) : UInt16 := UInt16.ofNat (high.toNat * 0x100 + low.toNat)

theorem toNat_wordOfBytes (high low : UInt8) :
    (wordOfBytes high low).toNat = high.toNat * 0x100 + low.toNat := by
  have h := high.toNat_lt
  have l := low.toNat_lt
  simp only [wordOfBytes, UInt16.toNat_ofNat']
  omega

namespace Instruction

/-- The instructions whose first digit is 8; the last digit selects one. -/
def decodeArithmetic (x y : Register) : Nat → Option Instruction
  | 0x0 => some (copy x y)
  | 0x1 => some (or x y)
  | 0x2 => some (and x y)
  | 0x3 => some (xor x y)
  | 0x4 => some (addRegisters x y)
  | 0x5 => some (sub x y)
  | 0x6 => some (shiftRight x)
  | 0x7 => some (subReversed x y)
  | 0xE => some (shiftLeft x)
  | _ => none

/-- The instructions whose first digit is F; the last two digits select one. -/
def decodeMisc (x : Register) : Nat → Option Instruction
  | 0x07 => some (readDelay x)
  | 0x0A => some (waitForKey x)
  | 0x15 => some (setDelay x)
  | 0x18 => some (setSound x)
  | 0x1E => some (addIndex x)
  | 0x29 => some (fontSprite x)
  | 0x30 => some (largeFontSprite x)
  | 0x33 => some (storeBcd x)
  | 0x55 => some (storeRegisters x)
  | 0x65 => some (loadRegisters x)
  | _ => none

/-- **The instruction that a word denotes**, if any. -/
def decode (w : UInt16) : Option Instruction :=
  let x := fieldX w
  let y := fieldY w
  let n := fieldN w
  let nn := fieldNN w
  let nnn := fieldNNN w
  match opcodeClass w with
  | 0x0 => if nnn.val = 0x0E0 then some clearScreen else if nnn.val = 0x0EE then some ret else none
  | 0x1 => some (jump nnn)
  | 0x2 => some (call nnn)
  | 0x3 => some (skipIfEqual x nn)
  | 0x4 => some (skipIfNotEqual x nn)
  | 0x5 => if n.val = 0 then some (skipIfRegistersEqual x y) else none
  | 0x6 => some (load x nn)
  | 0x7 => some (add x nn)
  | 0x8 => decodeArithmetic x y n
  | 0x9 => if n.val = 0 then some (skipIfRegistersNotEqual x y) else none
  | 0xA => some (loadIndex nnn)
  | 0xB => some (jumpOffset nnn)
  | 0xC => some (random x nn)
  | 0xD => some (draw x y n)
  | 0xE =>
    if nn = 0x9E then some (skipIfKeyPressed x)
    else if nn = 0xA1 then some (skipIfKeyNotPressed x) else none
  | _ => decodeMisc x nn.toNat

example : decode 0x00EE = some ret := by decide
example : decode 0x1CAF = some (jump 0xCAF) := by decide
example : decode 0x8A2E = some (shiftLeft 0xA) := by decide
example : decode 0xD345 = some (draw 3 4 5) := by decide
example : decode 0x5121 = none := by decide

end Instruction

end Chip8
