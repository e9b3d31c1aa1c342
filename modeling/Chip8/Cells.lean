import Chip8.Fault
import Chip8.Table

/-!
# Arrays at any place

Arrays whose places are 64 bit numbers. A place that may lie outside is looked up, with no element as an
answer; a place or a range that has to lie inside is an abort if it does not.

* `Cells.lookup`, `Cells.update`: an element that may be missing;
* **`Cells.index`**, `Cells.assign`: an element that has to be there; `Cells.element`: one of a slice;
* `Cells.checkRange`, **`Cells.slice`**, `Cells.copyInto`, `Cells.fill`: the elements of a range;
* inside the array none of them aborts: `index_eq_ok`, `assign_eq_ok`, `slice_eq_ok`, `copyInto_eq_ok`,
  `fill_eq_ok`;
* **`ByteBlock`**: bytes that can be copied.
-/

namespace Chip8

namespace Cells

variable {α : Type} {n : Nat}

def lookup (cells : Vector α n) (i : UInt64) : Option α :=
  if h : i.toNat < n then some (cells.get ⟨i.toNat, h⟩) else none

def update (cells : Vector α n) (i : UInt64) (a : α) : Option (Vector α n) :=
  if h : i.toNat < n then some (cells.put ⟨i.toNat, h⟩ a) else none

/-- **The element at a place.** -/
def index (cells : Vector α n) (i : UInt64) : Except Abort α :=
  match lookup cells i with
  | some a => .ok a
  | none => .error (.indexOutOfRange i.toNat n)

def assign (cells : Vector α n) (i : UInt64) (a : α) : Except Abort (Vector α n) :=
  match update cells i a with
  | some after => .ok after
  | none => .error (.indexOutOfRange i.toNat n)

/-- The element of a slice at a place. -/
def element (values : List α) (i : UInt64) : Except Abort α :=
  match values[i.toNat]? with
  | some a => .ok a
  | none => .error (.indexOutOfRange i.toNat values.length)

/-- A range starts before it ends, and ends in an array of the size. -/
def checkRange (start stop : UInt64) (n : Nat) : Except Abort Unit :=
  if stop < start then .error (.rangeReversed start.toNat stop.toNat)
  else if n < stop.toNat then .error (.rangeOutOfRange stop.toNat n)
  else .ok ()

/-- **The elements of a range**, up to, not including, its end. -/
def slice (cells : Vector α n) (start stop : UInt64) : Except Abort (List α) := do
  checkRange start stop n
  return (cells.toList.drop start.toNat).take (stop.toNat - start.toNat)

/-- Replaces the elements of a range by as many values. -/
def copyInto (cells : Vector α n) (start stop : UInt64) (values : List α) :
    Except Abort (Vector α n) := do
  checkRange start stop n
  if values.length = stop.toNat - start.toNat then
    return cells.mapFinIdx fun k a _ => if start.toNat ≤ k then values[k - start.toNat]?.getD a else a
  else
    throw (.lengthMismatch values.length (stop.toNat - start.toNat))

/-- Replaces each element of a range by the same value. -/
def fill (cells : Vector α n) (start stop : UInt64) (value : α) : Except Abort (Vector α n) := do
  checkRange start stop n
  return cells.mapFinIdx fun k a _ => if start.toNat ≤ k ∧ k < stop.toNat then value else a

variable {cells : Vector α n} {i start stop : UInt64}

theorem lookup_eq_some (h : i.toNat < n) : lookup cells i = some (cells.get ⟨i.toNat, h⟩) := dif_pos h

theorem lookup_eq_none (h : n ≤ i.toNat) : lookup cells i = none := dif_neg (Nat.not_lt.mpr h)

theorem update_eq_some (h : i.toNat < n) (a : α) :
    update cells i a = some (cells.put ⟨i.toNat, h⟩ a) := dif_pos h

theorem update_eq_none (h : n ≤ i.toNat) (a : α) : update cells i a = none :=
  dif_neg (Nat.not_lt.mpr h)

theorem index_eq_ok (h : i.toNat < n) : index cells i = .ok (cells.get ⟨i.toNat, h⟩) := by
  rw [index, lookup_eq_some h]

theorem assign_eq_ok (h : i.toNat < n) (a : α) :
    assign cells i a = .ok (cells.put ⟨i.toNat, h⟩ a) := by
  rw [assign, update_eq_some h]

theorem checkRange_eq_ok (horder : start ≤ stop) (hstop : stop.toNat ≤ n) :
    checkRange start stop n = .ok () := by
  rw [checkRange, if_neg (UInt64.not_lt.mpr horder), if_neg (Nat.not_lt.mpr hstop)]

theorem slice_eq_ok (horder : start ≤ stop) (hstop : stop.toNat ≤ n) :
    slice cells start stop = .ok ((cells.toList.drop start.toNat).take (stop.toNat - start.toNat)) := by
  rw [slice, checkRange_eq_ok horder hstop]
  rfl

theorem copyInto_eq_ok {values : List α} (horder : start ≤ stop) (hstop : stop.toNat ≤ n)
    (hlength : values.length = stop.toNat - start.toNat) :
    copyInto cells start stop values = .ok (cells.mapFinIdx fun k a _ =>
      if start.toNat ≤ k then values[k - start.toNat]?.getD a else a) := by
  rw [copyInto, checkRange_eq_ok horder hstop, if_pos hlength]
  rfl

theorem fill_eq_ok (horder : start ≤ stop) (hstop : stop.toNat ≤ n) (value : α) :
    fill cells start stop value = .ok (cells.mapFinIdx fun k a _ =>
      if start.toNat ≤ k ∧ k < stop.toNat then value else a) := by
  rw [fill, checkRange_eq_ok horder hstop]
  rfl

end Cells

/-- **Bytes that can be copied.** No more fit into the memory of a computer than half of the 64 bit
numbers. -/
structure ByteBlock where
  bytes : List UInt8
  bounded : bytes.length < UInt64.size / 2

namespace ByteBlock

def length (s : ByteBlock) : UInt64 := UInt64.ofNat s.bytes.length

theorem toNat_length (s : ByteBlock) : s.length.toNat = s.bytes.length :=
  UInt64.toNat_ofNat_of_lt (Nat.lt_of_lt_of_le s.bounded (Nat.div_le_self ..))

theorem length_take_lt (bytes : List UInt8) :
    (bytes.take (UInt64.size / 2 - 1)).length < UInt64.size / 2 :=
  Nat.lt_of_le_of_lt (List.length_take_le ..) (by decide)

/-- The first bytes of a list, as many as a block can have. -/
def ofList (bytes : List UInt8) : ByteBlock :=
  ⟨bytes.take (UInt64.size / 2 - 1), length_take_lt bytes⟩

theorem bytes_ofList {bytes : List UInt8} (h : bytes.length < UInt64.size / 2) :
    (ofList bytes).bytes = bytes := List.take_of_length_le (Nat.le_sub_one_of_lt h)

end ByteBlock

end Chip8
