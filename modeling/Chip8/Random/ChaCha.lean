/-!
# The ChaCha block function

A key of eight words and a block counter give sixteen pseudorandom words. The words lie in four rows
of four; a round mixes the rows, column by column.

* `Row`, `Rows`, and the operations on rows: `Row.add`, `Row.xor`, `Row.rotate`, `Row.turn`;
* `columnRound`, `doubleRound`: the mixing steps;
* **`block`**: the words of one block, after a given number of double rounds.
-/

namespace Chip8.ChaCha

/-- Four words. -/
abbrev Row := Vector UInt32 4

namespace Row

/-- The sums of the words of two rows. -/
def add (r s : Row) : Row := Vector.zipWith (· + ·) r s

/-- The exclusive or of the words of two rows. -/
def xor (r s : Row) : Row := Vector.zipWith (· ^^^ ·) r s

/-- The words of a row, each rotated to the left by less than 32 places. -/
def rotate (r : Row) (places : UInt32) : Row :=
  r.map fun w => (w <<< places) ||| (w >>> (32 - places))

/-- The words of a row moved to the left, those that fall out put back at the right. -/
def turn (r : Row) (k : Fin 4) : Row := Vector.ofFn fun i => r.get (i + k)

end Row

/-- Sixteen words in four rows. -/
@[ext]
structure Rows where
  a : Row
  b : Row
  c : Row
  d : Row
  deriving DecidableEq

/-- Adds one row to another, and rotates the exclusive or of a third with the sum: the first two
lines of a quarter round with one pair of places, the last two with another. -/
def halfRound (s : Rows) (left right : UInt32) : Rows :=
  let a := s.a.add s.b
  let d := (s.d.xor a).rotate left
  let c := s.c.add d
  let b := (s.b.xor c).rotate right
  ⟨a, b, c, d⟩

/-- Mixes the columns. -/
def columnRound (s : Rows) : Rows := halfRound (halfRound s 16 12) 8 7

/-- Moves the diagonals into the columns. -/
def toColumns (s : Rows) : Rows := ⟨s.a, s.b.turn 1, s.c.turn 2, s.d.turn 3⟩

/-- Moves the columns back into the diagonals. -/
def toDiagonals (s : Rows) : Rows := ⟨s.a, s.b.turn 3, s.c.turn 2, s.d.turn 1⟩

/-- Mixes the columns, then the diagonals. -/
def doubleRound (s : Rows) : Rows := toDiagonals (columnRound (toColumns (columnRound s)))

/-- The words before mixing: four constants, the key, the block counter with its low half first, and
a nonce of zeros. -/
def start (key : Vector UInt32 8) (counter : UInt64) : Rows where
  a := #v[0x61707865, 0x3320646e, 0x79622d32, 0x6b206574]
  b := key.take 4
  c := key.drop 4
  d := #v[counter.toUInt32, (counter >>> 32).toUInt32, 0, 0]

/-- **The words of a block**: the mixed words plus the words before mixing. -/
def block (doubleRounds : Nat) (key : Vector UInt32 8) (counter : UInt64) : Vector UInt32 16 :=
  let before := start key counter
  let mixed := Nat.repeat doubleRound doubleRounds before
  mixed.a.add before.a ++ mixed.b.add before.b ++ mixed.c.add before.c ++ mixed.d.add before.d

end Chip8.ChaCha
