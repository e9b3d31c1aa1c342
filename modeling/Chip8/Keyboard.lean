import Chip8.Session

/-!
# The keyboard

* **`Keyboard.event`**: what a character typed by the user asks for. The sixteen keys lie in a block
  of four by four at the left of the keyboard.
-/

namespace Chip8.Keyboard

/-- The characters of the keys, each with its key. -/
def keys : List (Char × UInt8) :=
  [('1', 0x1), ('2', 0x2), ('3', 0x3), ('4', 0xC),
    ('q', 0x4), ('w', 0x5), ('e', 0x6), ('r', 0xD),
    ('a', 0x7), ('s', 0x8), ('d', 0x9), ('f', 0xE),
    ('z', 0xA), ('x', 0x0), ('c', 0xB), ('v', 0xF)]

/-- The characters of the other events. -/
def controls : List (Char × UserEvent) :=
  [(' ', .releaseKeys), ('+', .speedUp), ('-', .slowDown), ('5', .reset), ('6', .stop),
    ('\x1b', .quit)]

/-- **The event of a character**, if it has one. -/
def event (c : Char) : Option UserEvent :=
  match keys.lookup c with
  | some key => some (.key key)
  | none => controls.lookup c

end Chip8.Keyboard
