/-!
# Instructions

* operands: `Register`, `Address`, and the fields of an instruction word: `fieldX`, `fieldY`,
  `fieldN`, `fieldNN`, `fieldNNN`, `opcodeClass`;
* **`Instruction`**: the instructions with their operands;
* `Instruction.Family`, `Instruction.family`: the part of the machine an instruction works on.
-/

namespace Chip8

/-- The number of registers. -/
abbrev registerCount : Nat := 16

/-- The number of bytes of an instruction. -/
abbrev instructionSize : UInt16 := 2

/-- The name of a register. -/
abbrev Register := Fin registerCount

/-- The bound as a number, for arithmetic. -/
theorem Register.val_lt (x : Register) : x.val < 16 := x.isLt

/-- The register that instructions write a carry, a borrow, a bit shifted out or a collision to. -/
abbrev flagRegister : Register := 0xF

/-- The register that is added to the address of an offset jump. -/
abbrev offsetRegister : Register := 0

/-- A 12 bit address: every one lies in memory. -/
abbrev Address := Fin 4096

/-- An address as a word. -/
def Address.toWord (a : Address) : UInt16 := UInt16.ofNat a.val

theorem Address.toNat_toWord (a : Address) : (Address.toWord a).toNat = a.val := by
  simp [Address.toWord, UInt16.toNat_ofNat']
  omega

/-- **Instructions.** The patterns are those of the word: `x` and `y` name registers, `n`, `nn` and
`nnn` are the last one, two and three digits. -/
inductive Instruction where
  /-- `00E0` turns all pixels off. -/
  | clearScreen
  /-- `00EE` returns from a subroutine. -/
  | ret
  /-- `1nnn` continues at an address. -/
  | jump (a : Address)
  /-- `2nnn` calls a subroutine. -/
  | call (a : Address)
  /-- `3xnn` skips the next instruction if the register holds the byte. -/
  | skipIfEqual (x : Register) (nn : UInt8)
  /-- `4xnn` skips the next instruction if the register holds another byte. -/
  | skipIfNotEqual (x : Register) (nn : UInt8)
  /-- `5xy0` skips the next instruction if the registers agree. -/
  | skipIfRegistersEqual (x y : Register)
  /-- `6xnn` loads a byte. -/
  | load (x : Register) (nn : UInt8)
  /-- `7xnn` adds a byte and leaves the flag alone. -/
  | add (x : Register) (nn : UInt8)
  /-- `8xy0` copies a register. -/
  | copy (x y : Register)
  /-- `8xy1` -/
  | or (x y : Register)
  /-- `8xy2` -/
  | and (x y : Register)
  /-- `8xy3` -/
  | xor (x y : Register)
  /-- `8xy4` adds; the flag is the carry. -/
  | addRegisters (x y : Register)
  /-- `8xy5` subtracts `y` from `x`; the flag tells that `x` is larger. -/
  | sub (x y : Register)
  /-- `8xy6` shifts to the right; the flag is the bit shifted out. -/
  | shiftRight (x : Register)
  /-- `8xy7` puts `y` less `x` into `x`; the flag tells that `y` is larger. -/
  | subReversed (x y : Register)
  /-- `8xyE` shifts to the left; the flag is the bit shifted out. -/
  | shiftLeft (x : Register)
  /-- `9xy0` skips the next instruction if the registers differ. -/
  | skipIfRegistersNotEqual (x y : Register)
  /-- `Annn` loads the index. -/
  | loadIndex (a : Address)
  /-- `Bnnn` continues at an address plus the first register. -/
  | jumpOffset (a : Address)
  /-- `Cxnn` loads a random byte under a mask. -/
  | random (x : Register) (nn : UInt8)
  /-- `Dxyn` draws a sprite of `n` rows. -/
  | draw (x y : Register) (n : Fin 16)
  /-- `Ex9E` skips the next instruction if a key is down. -/
  | skipIfKeyPressed (x : Register)
  /-- `ExA1` skips the next instruction if a key is up. -/
  | skipIfKeyNotPressed (x : Register)
  /-- `Fx07` reads the delay timer. -/
  | readDelay (x : Register)
  /-- `Fx0A` waits for a key and releases it. -/
  | waitForKey (x : Register)
  /-- `Fx15` sets the delay timer. -/
  | setDelay (x : Register)
  /-- `Fx18` sets the sound timer. -/
  | setSound (x : Register)
  /-- `Fx1E` adds to the index. -/
  | addIndex (x : Register)
  /-- `Fx29` points the index to a glyph. -/
  | fontSprite (x : Register)
  /-- `Fx30` is reserved for larger glyphs and does nothing. -/
  | largeFontSprite (x : Register)
  /-- `Fx33` stores the decimal digits of a register. -/
  | storeBcd (x : Register)
  /-- `Fx55` stores the registers up to `x`. -/
  | storeRegisters (x : Register)
  /-- `Fx65` loads the registers up to `x`. -/
  | loadRegisters (x : Register)
  deriving DecidableEq, Repr

namespace Instruction

/-- The part of the machine that an instruction works on. -/
inductive Family where
  /-- Display, timers and font. -/
  | system
  /-- Where execution continues. -/
  | flow
  /-- Registers, index and the memory behind it. -/
  | alu
  deriving DecidableEq, Repr

/-- The family of an instruction. -/
def family : Instruction → Family
  | clearScreen | draw .. | readDelay _ | setDelay _ | setSound _ | fontSprite _
  | largeFontSprite _ => .system
  | ret | jump _ | call _ | jumpOffset _ | skipIfEqual .. | skipIfNotEqual ..
  | skipIfRegistersEqual .. | skipIfRegistersNotEqual .. | skipIfKeyPressed _
  | skipIfKeyNotPressed _ | waitForKey _ => .flow
  | load .. | add .. | copy .. | or .. | and .. | xor .. | addRegisters .. | sub .. | shiftRight _
  | subReversed .. | shiftLeft _ | loadIndex _ | addIndex _ | random .. | storeBcd _
  | storeRegisters _ | loadRegisters _ => .alu

end Instruction

/-! ## Fields of a word -/

/-- The first digit of a word. -/
def opcodeClass (w : UInt16) : Nat := w.toNat / 0x1000

/-- The second digit, which names a register. -/
def fieldX (w : UInt16) : Register := ⟨w.toNat / 0x100 % 16, Nat.mod_lt _ (by decide)⟩

/-- The third digit, which names a register. -/
def fieldY (w : UInt16) : Register := ⟨w.toNat / 0x10 % 16, Nat.mod_lt _ (by decide)⟩

/-- The last digit. -/
def fieldN (w : UInt16) : Fin 16 := ⟨w.toNat % 16, Nat.mod_lt _ (by decide)⟩

/-- The last two digits. -/
def fieldNN (w : UInt16) : UInt8 := UInt8.ofNat (w.toNat % 0x100)

/-- The last three digits. -/
def fieldNNN (w : UInt16) : Address := ⟨w.toNat % 0x1000, Nat.mod_lt _ (by decide)⟩

theorem opcodeClass_lt (w : UInt16) : opcodeClass w < 16 := by
  have := w.toNat_lt
  unfold opcodeClass
  omega

end Chip8
