import Chip8.Random.ChaCha

/-!
# The random source

An endless stream of 32 bit words that depends only on a key, and a position in it. Words are taken
one by one and never again.

* **`RandomSource`**, its stream `RandomSource.word`;
* `ofSeed`: the source of a 64 bit seed;
* `nextByte`: takes a word and keeps its low byte.
-/

namespace Chip8

/-- **A random source.** -/
@[ext]
structure RandomSource where
  /-- What the stream depends on. -/
  key : Vector UInt32 8
  /-- The number of words taken so far. -/
  position : Nat
  deriving DecidableEq

namespace RandomSource

/-- The number of double rounds behind each block of the stream. -/
abbrev doubleRounds : Nat := 6

/-- The word at a place of the stream: blocks of sixteen words follow each other, and the counter of
blocks wraps after 64 bits. -/
def word (key : Vector UInt32 8) (n : Nat) : UInt32 :=
  (ChaCha.block doubleRounds key (UInt64.ofNat (n / 16)))[n % 16]

/-- Takes the next word. -/
def next (r : RandomSource) : UInt32 × RandomSource :=
  (word r.key r.position, { r with position := r.position + 1 })

/-- Takes the next word and keeps its low byte. -/
def nextByte (r : RandomSource) : UInt8 × RandomSource :=
  let (w, r) := r.next
  (w.toUInt8, r)

/-! ## Seeds -/

/-- One step of the linear congruential generator that spreads a seed over a key. -/
def seedStep (s : UInt64) : UInt64 := s * 6364136223846793005 + 11634580027462260723

/-- The key word read off a state of that generator: some of its high bits, rotated to the right by
the highest ones. -/
def seedWord (s : UInt64) : UInt32 :=
  let x := (((s >>> 18) ^^^ s) >>> 27).toUInt32
  let places := (s >>> 59).toUInt32
  (x >>> places) ||| (x <<< ((32 - places) % 32))

/-- The key of a seed. -/
def keyOfSeed (seed : UInt64) : Vector UInt32 8 :=
  Vector.ofFn fun i => seedWord (Nat.repeat seedStep (i.val + 1) seed)

/-- The source of a seed, no word of which is taken. -/
def ofSeed (seed : UInt64) : RandomSource := ⟨keyOfSeed seed, 0⟩

end RandomSource

end Chip8
