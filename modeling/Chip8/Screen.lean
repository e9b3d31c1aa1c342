import Chip8.Display
import Chip8.Log

/-!
# The screen

The view of the display in the terminal, one cell for each pixel.

* **`Screen`**, `Screen.blank`;
* `Screen.display`: puts a frame on the screen, if it is of the size of the screen;
* `Cell`, `Screen.cells`: what is printed, a coloured blank for each pixel that is on.
-/

namespace Chip8

/-- Pixels in row-major order, as many as there are. -/
abbrev Frame := Array Bool

/-- The colours that cells are printed in. -/
inductive Colour where
  | darkBlack
  | lightGreen
  deriving DecidableEq, Repr

/-- A cell of the terminal that is printed: where, what, and in which colours. -/
structure Cell where
  place : Pixel
  text : String
  foreground : Colour
  background : Colour
  deriving DecidableEq, Repr

/-- **The screen.** -/
@[ext]
structure Screen where
  pixels : Vector Bool pixelCount
  deriving DecidableEq

namespace Screen

/-- What the screen is called in the interface. -/
abbrev name : String := "chip8-screen"

/-- A screen before any frame. -/
def blank : Screen := ⟨Vector.replicate pixelCount false⟩

/-- The number of columns and of rows that the screen takes up. -/
def requiredSize : Nat × Nat := (displayWidth, displayHeight)

/-- **Puts a frame on the screen.** One of another size is dropped. -/
def display (s : Screen) (frame : Frame) : Screen :=
  if h : frame.size = pixelCount then ⟨⟨frame, h⟩⟩ else s

/-- What putting a frame on the screen logs. -/
def displayLog (frame : Frame) : List LogEntry :=
  if frame.size = pixelCount then [] else [.droppedFrame frame.size]

/-- The pixels in row-major order. -/
def places : List Pixel :=
  (List.finRange displayHeight).flatMap fun y => (List.finRange displayWidth).map fun x => ⟨x, y⟩

/-- The cell printed for a pixel. -/
def cell (p : Pixel) : Cell := ⟨p, " ", .darkBlack, .lightGreen⟩

/-- **The cells that are printed**, row by row. -/
def cells (s : Screen) : List Cell :=
  (places.filter fun p => s.pixels.get p.index).map cell

theorem pixels_display {s : Screen} {frame : Frame} (h : frame.size = pixelCount) :
    (s.display frame).pixels.toArray = frame := by
  simp [display, h]

end Screen

end Chip8
