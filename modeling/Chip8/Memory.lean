import Chip8.Fault
import Chip8.Font

/-!
# The address space

4096 bytes. Addresses are 16 bit words, so they can lie outside; every access is checked and a block
that does not fit is refused as a whole.

* **`Memory`**, its view `Memory.byte` and the unchecked stores `store`, `storeAll`, `clearRange`;
* checked access: `read`, `write`, `readBlock`, `writeBlock`;
* `blockEnd`: the end of a block whose length is any 64 bit number;
* what a store does to the view: `byte_store`, `byte_storeAll`, `byte_storeAll_of_lt`,
  `byte_storeAll_of_ge`, `byte_storeAll_add`, `byte_clearRange`, `byte_installFont`;
* when a block is refused: `readBlock_eq_ok`, `readBlock_eq_error`, and the same for `writeBlock`.
-/

namespace Chip8

/-- The number of bytes of memory. -/
abbrev memorySize : Nat := 0x1000

/-- The address at which programs are loaded and execution starts. -/
abbrev programStart : UInt16 := 0x200

/-- The last address of the region that is cleared once more before a program is copied. -/
abbrev programEnd : UInt16 := 0xEFF

/-- The size of the largest program. -/
abbrev maxProgramSize : Nat := memorySize - programStart.toNat

/-- **Memory.** -/
@[ext]
structure Memory where
  bytes : Vector UInt8 memorySize
  deriving DecidableEq

namespace Memory

/-- The byte at an address, zero outside. -/
def byte (m : Memory) (a : Nat) : UInt8 := m.bytes[a]?.getD 0

/-- Replaces the byte at an address; outside there is nothing to replace. -/
def store (m : Memory) (a : Nat) (b : UInt8) : Memory :=
  if h : a < memorySize then ⟨m.bytes.set a b h⟩ else m

/-- Replaces the bytes from an address on. -/
def storeAll (m : Memory) (start : Nat) : List UInt8 → Memory
  | [] => m
  | b :: bs => (m.store start b).storeAll (start + 1) bs

/-- Zeroes the bytes from `start` up to, not including, `stop`. The range is clipped to memory. -/
def clearRange (m : Memory) (start stop : Nat) : Memory :=
  ⟨m.bytes.mapFinIdx fun a b _ => if start ≤ a ∧ a < stop then 0 else b⟩

/-- Zeroes all bytes, also those of the font. -/
def clearAll (m : Memory) : Memory := m.clearRange 0 memorySize

/-- Puts the font in its place, over whatever a program stored there. -/
def installFont (m : Memory) : Memory := m.storeAll fontStart fontBytes

/-- Zeroed memory. -/
def zeroed : Memory := ⟨Vector.replicate memorySize 0⟩

/-- Memory before any program is loaded: the font and zeros. -/
def initial : Memory := zeroed.installFont

/-! ## Checked access -/

/-- The byte at an address. -/
def read (m : Memory) (a : UInt16) : Except Fault UInt8 :=
  if a.toNat < memorySize then .ok (m.byte a.toNat) else .error (.addressOutOfRange a.toNat)

/-- Replaces the byte at an address. -/
def write (m : Memory) (a : UInt16) (b : UInt8) : Except Fault Memory :=
  if a.toNat < memorySize then .ok (m.store a.toNat b) else .error (.addressOutOfRange a.toNat)

/-- A block lies in memory if its end does. The fault names the first address that lies outside. -/
def checkBlock (start : UInt16) (len : Nat) : Except Fault Unit :=
  if start.toNat + len ≤ memorySize then .ok ()
  else .error (.addressOutOfRange (max memorySize start.toNat))

/-- The bytes of a block. -/
def readBlock (m : Memory) (start : UInt16) (len : Nat) : Except Fault (List UInt8) :=
  (checkBlock start len).map fun _ => (List.range len).map fun k => m.byte (start.toNat + k)

/-- Replaces the bytes of a block. -/
def writeBlock (m : Memory) (bytes : List UInt8) (start : UInt16) : Except Fault Memory :=
  (checkBlock start bytes.length).map fun _ => m.storeAll start.toNat bytes

/-- The end of a block whose length is any 64 bit number. A sum that needs more bits is no fault but an
abort. -/
def blockEnd (start : UInt16) (len : UInt64) : Except Abort UInt64 :=
  checkedAdd start.toUInt64 len

/-! ## The view of a store -/

theorem ext_byte {m m' : Memory} (h : ∀ a < memorySize, m.byte a = m'.byte a) : m = m' := by
  apply Memory.ext
  apply Vector.ext
  intro a ha
  simpa [byte, ha] using h a ha

theorem byte_of_ge (m : Memory) {a : Nat} (h : memorySize ≤ a) : m.byte a = 0 := by
  simp [byte, Vector.getElem?_eq_none h]

@[simp]
theorem byte_zeroed (a : Nat) : zeroed.byte a = 0 := by
  by_cases h : a < memorySize
  · simp [byte, zeroed, h]
  · exact byte_of_ge _ (Nat.le_of_not_lt h)

theorem byte_store (m : Memory) (a q : Nat) (b : UInt8) :
    (m.store a b).byte q = if a = q ∧ q < memorySize then b else m.byte q := by
  unfold store
  split
  · by_cases hq : q < memorySize
    · simp only [byte, Vector.getElem?_eq_getElem hq, Vector.getElem_set, Option.getD_some, hq,
        and_true]
    · simp [byte_of_ge _ (Nat.le_of_not_lt hq), hq]
  · rw [if_neg]
    omega

theorem byte_storeAll_of_lt (m : Memory) {start q : Nat} (bs : List UInt8) (h : q < start) :
    (m.storeAll start bs).byte q = m.byte q := by
  induction bs generalizing m start with
  | nil => rfl
  | cons b bs ih =>
    rw [storeAll, ih _ (by omega), byte_store, if_neg (by omega)]

theorem byte_storeAll_of_ge (m : Memory) {start q : Nat} (bs : List UInt8)
    (h : start + bs.length ≤ q) : (m.storeAll start bs).byte q = m.byte q := by
  induction bs generalizing m start with
  | nil => rfl
  | cons b bs ih =>
    rw [List.length_cons] at h
    rw [storeAll, ih _ (by omega), byte_store, if_neg (by omega)]

theorem byte_storeAll_add (m : Memory) {start k : Nat} (bs : List UInt8) (hk : k < bs.length)
    (h : start + bs.length ≤ memorySize) : (m.storeAll start bs).byte (start + k) = bs[k] := by
  induction bs generalizing m start k with
  | nil => simp at hk
  | cons b bs ih =>
    rw [List.length_cons] at h hk
    cases k with
    | zero =>
      change ((m.store start b).storeAll (start + 1) bs).byte start = b
      rw [byte_storeAll_of_lt _ _ (Nat.lt_succ_self start), byte_store, if_pos (by omega)]
    | succ k =>
      rw [storeAll, show start + (k + 1) = start + 1 + k by omega, List.getElem_cons_succ]
      exact ih _ (by omega) (by omega)

theorem byte_storeAll (m : Memory) {start : Nat} (bs : List UInt8)
    (h : start + bs.length ≤ memorySize) (q : Nat) :
    (m.storeAll start bs).byte q =
      if q < start then m.byte q else bs[q - start]?.getD (m.byte q) := by
  by_cases hq : q < start
  · rw [if_pos hq, byte_storeAll_of_lt _ _ hq]
  · rw [if_neg hq]
    by_cases hlen : q - start < bs.length
    · have hb := byte_storeAll_add m bs hlen h
      rw [Nat.add_sub_cancel' (Nat.le_of_not_lt hq)] at hb
      rw [hb, List.getElem?_eq_getElem hlen, Option.getD_some]
    · rw [byte_storeAll_of_ge _ _ (by omega), List.getElem?_eq_none (by omega), Option.getD_none]

theorem byte_clearRange (m : Memory) (start stop q : Nat) :
    (m.clearRange start stop).byte q = if start ≤ q ∧ q < stop then 0 else m.byte q := by
  by_cases hq : q < memorySize
  · simp [byte, clearRange, hq]
  · simp [byte_of_ge _ (Nat.le_of_not_lt hq)]

theorem byte_installFont (m : Memory) (q : Nat) :
    m.installFont.byte q = fontBytes[q]?.getD (m.byte q) := by
  have hfont : fontStart + fontBytes.length ≤ memorySize := by decide
  have hstore := byte_storeAll m fontBytes hfont q
  rwa [if_neg (Nat.not_lt_zero q), Nat.sub_zero] at hstore

theorem byte_initial (q : Nat) : initial.byte q = fontBytes[q]?.getD 0 := by
  rw [initial, byte_installFont, byte_zeroed]

/-! ## Blocks that fit and blocks that do not -/

section Blocks

variable {m m' : Memory} {start : UInt16} {len : Nat} {bytes : List UInt8} {f : Fault}

theorem readBlock_eq_ok :
    m.readBlock start len = .ok bytes ↔ start.toNat + len ≤ memorySize ∧
      bytes = (List.range len).map fun k => m.byte (start.toNat + k) := by
  unfold readBlock checkBlock
  split <;> simp [Except.map, *, eq_comm]

theorem readBlock_eq_error :
    m.readBlock start len = .error f ↔ memorySize < start.toNat + len ∧
      f = .addressOutOfRange (max memorySize start.toNat) := by
  unfold readBlock checkBlock
  split
  · simp [Except.map]
    omega
  · simp [Except.map, eq_comm]
    omega

theorem writeBlock_eq_ok :
    m.writeBlock bytes start = .ok m' ↔ start.toNat + bytes.length ≤ memorySize ∧
      m' = m.storeAll start.toNat bytes := by
  unfold writeBlock checkBlock
  split <;> simp [Except.map, *, eq_comm]

theorem writeBlock_eq_error :
    m.writeBlock bytes start = .error f ↔ memorySize < start.toNat + bytes.length ∧
      f = .addressOutOfRange (max memorySize start.toNat) := by
  unfold writeBlock checkBlock
  split
  · simp [Except.map]
    omega
  · simp [Except.map, eq_comm]
    omega

end Blocks

end Memory

end Chip8
