import Chip8.Instruction
import Chip8.Text.Record

/-!
# Printing instructions

* **`Instruction.shown`**: an instruction in record notation, inside its family;
* `Instruction.body`: the same without the family.
-/

namespace Chip8

namespace Instruction

/-- A register operand, by its number. -/
def xField (x : Register) : String × String := ("x", toString x.val)

/-- A second register operand. -/
def yField (y : Register) : String × String := ("y", toString y.val)

/-- A byte operand. -/
def nnField (nn : UInt8) : String × String := ("nn", toString nn.toNat)

/-- An instruction in record notation; operands are decimal. -/
def body : Instruction → String
  | clearScreen => Text.tuple "ClearScreen" []
  | ret => Text.tuple "Return" []
  | jump a => Text.tuple "Jump" [toString a.val]
  | call a => Text.tuple "Call" [toString a.val]
  | skipIfEqual x nn => Text.record "SkipIfEqual" [xField x, nnField nn]
  | skipIfNotEqual x nn => Text.record "SkipIfNotEqual" [xField x, nnField nn]
  | skipIfRegistersEqual x y => Text.record "SkipIfRegistersEqual" [xField x, yField y]
  | load x nn => Text.record "Load" [xField x, nnField nn]
  | add x nn => Text.record "Add" [xField x, nnField nn]
  | copy x y => Text.record "Copy" [xField x, yField y]
  | or x y => Text.record "Or" [xField x, yField y]
  | and x y => Text.record "And" [xField x, yField y]
  | xor x y => Text.record "Xor" [xField x, yField y]
  | addRegisters x y => Text.record "AddRegisters" [xField x, yField y]
  | sub x y => Text.record "Sub" [xField x, yField y]
  | shiftRight x => Text.record "ShiftRight" [xField x]
  | subReversed x y => Text.record "SubReversed" [xField x, yField y]
  | shiftLeft x => Text.record "ShiftLeft" [xField x]
  | skipIfRegistersNotEqual x y => Text.record "SkipIfRegistersNotEqual" [xField x, yField y]
  | loadIndex a => Text.tuple "LoadIndex" [toString a.val]
  | jumpOffset a => Text.tuple "JumpOffset" [toString a.val]
  | random x nn => Text.record "Random" [xField x, nnField nn]
  | draw x y n => Text.record "Draw" [xField x, yField y, ("n", toString n.val)]
  | skipIfKeyPressed x => Text.record "SkipIfKeyPressed" [xField x]
  | skipIfKeyNotPressed x => Text.record "SkipIfKeyNotPressed" [xField x]
  | readDelay x => Text.record "ReadDelay" [xField x]
  | waitForKey x => Text.record "WaitForKey" [xField x]
  | setDelay x => Text.record "SetDelay" [xField x]
  | setSound x => Text.record "SetSound" [xField x]
  | addIndex x => Text.record "AddIndex" [xField x]
  | fontSprite x => Text.record "FontSprite" [xField x]
  | largeFontSprite x => Text.record "LargeFontSprite" [xField x]
  | storeBcd x => Text.record "StoreBcd" [xField x]
  | storeRegisters x => Text.record "StoreRegisters" [xField x]
  | loadRegisters x => Text.record "LoadRegisters" [xField x]

/-- The name of a family. -/
def Family.name : Family → String
  | system => "System"
  | flow => "Flow"
  | alu => "Alu"

/-- **An instruction inside its family.** -/
def shown (i : Instruction) : String := Text.tuple i.family.name [i.body]

end Instruction

end Chip8
