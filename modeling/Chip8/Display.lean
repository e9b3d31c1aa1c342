import Chip8.Fault
import Chip8.Table

/-!
# The display

64 columns and 32 rows of pixels that are on or off. Sprites are exclusive-ored onto it one row of
eight pixels at a time and wrap around its edges; a collision is a pixel that a sprite turns off.

* `Pixel`, with its place in row-major order `Pixel.index`;
* **`Display`**, its view `Display.lit` and the one change of it, `Display.flip`;
* `get`, `toggle`: single pixels, whose coordinates do not wrap;
* `rowPixels`, `drawRow`, `drawSprite`: the pixels of a sprite row, and drawing;
* `rowFits`: rows at coordinates that are 64 bit numbers;
* what a flip does to the view: `lit_flip`; displays that look the same are equal: `ext_lit`.
-/

namespace Chip8

/-- The number of columns. -/
abbrev displayWidth : Nat := 64

/-- The number of rows. -/
abbrev displayHeight : Nat := 32

/-- The number of pixels. -/
abbrev pixelCount : Nat := 2048

/-- A pixel, by its column and its row. -/
@[ext]
structure Pixel where
  x : Fin displayWidth
  y : Fin displayHeight
  deriving DecidableEq, Repr

namespace Pixel

-- The bounds as numbers, for arithmetic.

theorem x_lt (p : Pixel) : p.x.val < 64 := p.x.isLt

theorem y_lt (p : Pixel) : p.y.val < 32 := p.y.isLt

theorem index_lt (p : Pixel) : p.x.val + displayWidth * p.y.val < pixelCount := by
  have hx := p.x_lt
  have hy := p.y_lt
  show p.x.val + 64 * p.y.val < 2048
  omega

/-- The place of a pixel when rows are laid end to end. -/
def index (p : Pixel) : Fin pixelCount := ⟨p.x.val + displayWidth * p.y.val, p.index_lt⟩

/-- The pixel at coordinates that wrap around the edges. -/
def wrap (x y : Nat) : Pixel :=
  ⟨⟨x % displayWidth, Nat.mod_lt _ (by decide)⟩, ⟨y % displayHeight, Nat.mod_lt _ (by decide)⟩⟩

/-- The pixel at coordinates that do not wrap. -/
def ofCoordinates (x y : Nat) : Except Fault Pixel :=
  if h : x < displayWidth ∧ y < displayHeight then .ok ⟨⟨x, h.1⟩, ⟨y, h.2⟩⟩
  else .error (.pixelOutOfRange x y)

theorem index_injective {p q : Pixel} (h : p.index = q.index) : p = q := by
  have h' : p.x.val + 64 * p.y.val = q.x.val + 64 * q.y.val := congrArg Fin.val h
  have hx := p.x_lt
  have hx' := q.x_lt
  apply Pixel.ext <;> apply Fin.ext <;> omega

@[simp]
theorem index_inj {p q : Pixel} : p.index = q.index ↔ p = q :=
  ⟨index_injective, fun h => h ▸ rfl⟩

end Pixel

/-- **The display.** -/
@[ext]
structure Display where
  pixels : Vector Bool pixelCount
  deriving DecidableEq

namespace Display

/-- A display whose pixels are all off. -/
def blank : Display := ⟨Vector.replicate pixelCount false⟩

/-- A pixel is on. -/
def lit (d : Display) (p : Pixel) : Bool := d.pixels.get p.index

/-- Turns one pixel on if it is off and off if it is on. -/
def flip (d : Display) (p : Pixel) : Display :=
  ⟨d.pixels.put p.index (!d.lit p)⟩

/-- Whether the pixel at the coordinates is on. -/
def get (d : Display) (x y : Nat) : Except Fault Bool := (Pixel.ofCoordinates x y).map d.lit

/-- Flips the pixel at the coordinates. -/
def toggle (d : Display) (x y : Nat) : Except Fault Display := (Pixel.ofCoordinates x y).map d.flip

/-! ## Sprites -/

/-- The columns of a sprite row whose bit is set, the most significant bit first. -/
def rowOffsets (row : UInt8) : List Nat := (List.range 8).filter fun b => row.toNat.testBit (7 - b)

/-- The pixels that a sprite row covers. -/
def rowPixels (x y : Nat) (row : UInt8) : List Pixel :=
  (rowOffsets row).map fun b => Pixel.wrap (x + b) y

/-- Flips pixels one after the other, and tells whether one of them was on when its turn came. -/
def flipAll (d : Display) : List Pixel → Bool × Display
  | [] => (false, d)
  | p :: ps =>
    let hit := d.lit p
    let (hits, d') := (d.flip p).flipAll ps
    (hit || hits, d')

/-- **Draws a sprite row** with its most significant bit at the coordinates, and tells whether it
turned a pixel off. -/
def drawRow (d : Display) (x y : Nat) (row : UInt8) : Bool × Display :=
  d.flipAll (rowPixels x y row)

/-- **Draws the rows of a sprite** below each other, and tells whether one of them turned a pixel
off. -/
def drawSprite (d : Display) (x y : Nat) : List UInt8 → Bool × Display
  | [] => (false, d)
  | row :: rows =>
    let (hit, d') := d.drawRow x y row
    let (hits, d'') := d'.drawSprite x (y + 1) rows
    (hit || hits, d'')

/-- The column of every covered pixel is a 64 bit number before it wraps. -/
def rowFits (x : UInt64) (row : UInt8) : Bool :=
  (rowOffsets row).all fun b => x.toNat + b < UInt64.size

/-! ## The view of a flip -/

@[simp]
theorem lit_blank (p : Pixel) : blank.lit p = false := by
  simp [blank, lit]

theorem lit_flip (d : Display) (p q : Pixel) :
    (d.flip p).lit q = if p = q then !d.lit q else d.lit q := by
  by_cases h : p = q
  · subst h
    simp [flip, lit]
  · rw [if_neg h]
    exact Vector.get_put_of_ne _ (fun e => h (Pixel.index_injective e)) _

theorem ext_lit {d d' : Display} (h : ∀ p, d.lit p = d'.lit p) : d = d' := by
  apply Display.ext
  apply Vector.ext_get
  intro k
  have hlt : k.val < 2048 := k.isLt
  have hy : k.val / 64 < 32 := by omega
  let p : Pixel := ⟨⟨k.val % 64, Nat.mod_lt _ (by decide)⟩, ⟨k.val / 64, hy⟩⟩
  have hp : p.index = k := Fin.ext (Nat.mod_add_div k.val 64)
  have hk := h p
  rwa [lit, lit, hp] at hk

theorem flipAll_nil (d : Display) : d.flipAll [] = (false, d) := rfl

end Display

end Chip8
