/-!
# The font

Sixteen glyphs of five bytes each, one glyph for each hexadecimal digit. A byte is a row of eight
pixels of which the font uses the left four.

* `glyphs`, `glyph`: the rows of each digit;
* **`fontBytes`**: all glyphs, in the order of the digits.
-/

namespace Chip8

/-- The number of rows of a glyph. -/
abbrev glyphHeight : Nat := 5

/-- The address of the first glyph. -/
abbrev fontStart : Nat := 0

/-- The number of bytes of the font. -/
abbrev fontSize : Nat := 80

/-- The glyphs of the digits 0 to F, each as its rows from top to bottom. -/
def glyphs : Vector (List UInt8) 16 :=
  #v[[0xF0, 0x90, 0x90, 0x90, 0xF0],
    [0x20, 0x60, 0x20, 0x20, 0x70],
    [0xF0, 0x10, 0xF0, 0x80, 0xF0],
    [0xF0, 0x10, 0xF0, 0x10, 0xF0],
    [0x90, 0x90, 0xF0, 0x10, 0x10],
    [0xF0, 0x80, 0xF0, 0x10, 0xF0],
    [0xF0, 0x80, 0xF0, 0x90, 0xF0],
    [0xF0, 0x10, 0x20, 0x40, 0x40],
    [0xF0, 0x90, 0xF0, 0x90, 0xF0],
    [0xF0, 0x90, 0xF0, 0x10, 0xF0],
    [0xF0, 0x90, 0xF0, 0x90, 0x90],
    [0xE0, 0x90, 0xE0, 0x90, 0xE0],
    [0xF0, 0x80, 0x80, 0x80, 0xF0],
    [0xE0, 0x90, 0x90, 0x90, 0xE0],
    [0xF0, 0x80, 0xF0, 0x80, 0xF0],
    [0xF0, 0x80, 0xF0, 0x80, 0x80]]

/-- The rows of the glyph of a digit. -/
def glyph (d : Fin 16) : List UInt8 := glyphs.get d

/-- **The font**, glyph after glyph. -/
def fontBytes : List UInt8 := glyphs.toList.flatten

theorem length_fontBytes : fontBytes.length = fontSize := by decide

end Chip8
