import Chip8.Checked
import Mathlib.Tactic.Common

/-!
# Where components abort

The operations of the components on their arrays are the operations of the machine: they compute every
place without overflow and find it inside its array. Two of them add a number that the caller is free to
choose, and abort where the sum is no 64 bit number.

* `Memory.Checked.readBlock_eq`, `writeBlock_eq`, `clearRange_eq`, `installFont_eq`: ranges of memory;
* `Display.Checked.place_eq`, `foldlM_drawBit`, `drawRow_eq`, `drawSprite_eq`: pixels, rows of pixels
  and the rows of a sprite;
* `CallStack.Checked.Holds`: an array that holds a call stack, kept by each operation;
* **`components_answer`**, `components_abort`.
-/

namespace Chip8

namespace Cells

variable {α : Type} {n : Nat}

theorem lookup_eq (cells : Vector α n) (i : UInt64) : lookup cells i = cells[i.toNat]? := by
  by_cases h : i.toNat < n
  · rw [lookup_eq_some h, Vector.get_eq, Vector.getElem?_eq_getElem h]
  · rw [lookup_eq_none (Nat.le_of_not_lt h), Vector.getElem?_eq_none (Nat.le_of_not_lt h)]

end Cells

/-! ## Memory -/

namespace Memory

variable {m : Memory}

theorem byte_mapFinIdx (m : Memory) (f : Nat → UInt8 → UInt8) {a : Nat} (h : a < memorySize) :
    byte ⟨m.bytes.mapFinIdx fun k b _ => f k b⟩ a = f a (m.byte a) := by
  simp [byte, h]

theorem take_drop_bytes (m : Memory) {start len : Nat} (h : start + len ≤ memorySize) :
    (m.bytes.toList.drop start).take len = (List.range len).map fun k => m.byte (start + k) := by
  refine List.ext_getElem ?_ fun k hk hk' => ?_
  · simp
    omega
  · have hplace : start + k < memorySize := by
      rw [List.length_map, List.length_range] at hk'
      omega
    simp [byte, hplace]

/-- A copy is one store after the other. -/
theorem copied_eq (m : Memory) {start : Nat} {values : List UInt8}
    (h : start + values.length ≤ memorySize) :
    (⟨m.bytes.mapFinIdx fun k b _ => if start ≤ k then values[k - start]?.getD b else b⟩ : Memory) =
      m.storeAll start values := by
  refine ext_byte fun a ha => ?_
  rw [byte_mapFinIdx m (fun k b => if start ≤ k then values[k - start]?.getD b else b) ha,
    byte_storeAll _ _ h]
  by_cases hbefore : a < start
  · rw [if_pos hbefore, if_neg (Nat.not_le.mpr hbefore)]
  · rw [if_neg hbefore, if_pos (Nat.le_of_not_lt hbefore)]

namespace Checked

theorem read_eq (m : Memory) (a : UInt16) : read m a = m.read a := by
  rw [read, Memory.read, Cells.lookup_eq, UInt16.toNat_toUInt64]
  by_cases h : a.toNat < memorySize
  · simp [h, byte]
  · simp [h]

theorem write_eq (m : Memory) (a : UInt16) (b : UInt8) : write m a b = m.write a b := by
  rw [write, Memory.write]
  by_cases h : a.toNat < memorySize
  · have hplace : a.toUInt64.toNat < memorySize := by rwa [UInt16.toNat_toUInt64]
    rw [Cells.update_eq_some hplace, if_pos h, store, dif_pos h]
    rfl
  · have hplace : memorySize ≤ a.toUInt64.toNat := by
      rw [UInt16.toNat_toUInt64]
      omega
    rw [Cells.update_eq_none hplace, if_neg h]

/-- The end of a block, where it is a 64 bit number. -/
theorem toNat_stop {start : UInt16} {len : UInt64} (h : start.toNat + len.toNat < UInt64.size) :
    (start.toUInt64 + len).toNat = start.toNat + len.toNat := by
  rw [UInt64.toNat_add, UInt16.toNat_toUInt64, Nat.mod_eq_of_lt h]

theorem range_eq (start : UInt16) (len : UInt64) :
    range start len = if start.toNat + len.toNat < UInt64.size then
        .ok ((checkBlock start len.toNat).map fun _ => (start.toUInt64, start.toUInt64 + len))
      else .error .additionOverflow := by
  have hstart : start.toUInt64.toNat = start.toNat := UInt16.toNat_toUInt64 start
  rw [range, blockEnd]
  by_cases h : start.toNat + len.toNat < UInt64.size
  · rw [checkedAdd_eq_ok (by rwa [hstart]), if_pos h, checkBlock]
    simp only [bind, Except.bind, toNat_stop h]
    by_cases hfits : start.toNat + len.toNat ≤ memorySize
    · rw [if_neg (Nat.not_lt.mpr hfits), if_pos hfits]
      rfl
    · rw [if_pos (Nat.lt_of_not_le hfits), if_neg hfits]
      rfl
  · rw [checkedAdd_eq_error (by rw [hstart]; omega), if_neg h]
    rfl

theorem range_of_fits {start : UInt16} {len : UInt64} (h : start.toNat + len.toNat ≤ memorySize) :
    range start len = .ok (.ok (start.toUInt64, start.toUInt64 + len)) ∧
      start.toUInt64 ≤ start.toUInt64 + len ∧ (start.toUInt64 + len).toNat ≤ memorySize := by
  have hsum : start.toNat + len.toNat < UInt64.size := Nat.lt_of_le_of_lt h (by decide)
  refine ⟨?_, ?_, ?_⟩
  · rw [range_eq, if_pos hsum, checkBlock, if_pos h]
    rfl
  · rw [UInt64.le_iff_toNat_le, toNat_stop hsum, UInt16.toNat_toUInt64]
    omega
  · rwa [toNat_stop hsum]

/-- **A block is read or refused**, unless its end is no 64 bit number. -/
theorem readBlock_eq (m : Memory) (start : UInt16) (len : UInt64) :
    readBlock m start len = if start.toNat + len.toNat < UInt64.size then
        .ok (m.readBlock start len.toNat)
      else .error .additionOverflow := by
  by_cases hfits : start.toNat + len.toNat ≤ memorySize
  · obtain ⟨hrange, horder, hstop⟩ := range_of_fits hfits
    have hsum : start.toNat + len.toNat < UInt64.size := Nat.lt_of_le_of_lt hfits (by decide)
    rw [readBlock, hrange, if_pos hsum, Memory.readBlock, checkBlock, if_pos hfits]
    simp only [bind, Except.bind, Cells.slice_eq_ok horder hstop, toNat_stop hsum,
      UInt16.toNat_toUInt64, Nat.add_sub_cancel_left, m.take_drop_bytes hfits]
    rfl
  · rw [readBlock, range_eq, Memory.readBlock, checkBlock, if_neg hfits]
    by_cases hsum : start.toNat + len.toNat < UInt64.size
    · rw [if_pos hsum, if_pos hsum]
      rfl
    · rw [if_neg hsum, if_neg hsum]
      rfl

/-- **A slice is written or refused.** The end of its block is always a 64 bit number. -/
theorem writeBlock_eq (m : Memory) (values : ByteBlock) (start : UInt16) :
    writeBlock m values start = .ok (m.writeBlock values.bytes start) := by
  have hlength := values.toNat_length
  have hsum : start.toNat + values.length.toNat < UInt64.size := by
    have hbounded := values.bounded
    have hstart := start.toNat_lt
    rw [hlength]
    simp only [UInt64.size] at hbounded ⊢
    omega
  by_cases hfits : start.toNat + values.bytes.length ≤ memorySize
  · obtain ⟨hrange, horder, hstop⟩ := range_of_fits (hlength.symm ▸ hfits)
    have hsame : values.bytes.length =
        (start.toUInt64 + values.length).toNat - start.toUInt64.toNat := by
      rw [toNat_stop hsum, UInt16.toNat_toUInt64, hlength, Nat.add_sub_cancel_left]
    rw [writeBlock, hrange, Memory.writeBlock, checkBlock, if_pos hfits]
    simp only [bind, Except.bind, Cells.copyInto_eq_ok horder hstop hsame, UInt16.toNat_toUInt64,
      m.copied_eq hfits]
    rfl
  · rw [writeBlock, range_eq, if_pos hsum, hlength, Memory.writeBlock, checkBlock, if_neg hfits]
    rfl

/-- **Any range can be cleared.** -/
theorem clearRange_eq (m : Memory) (start stop : UInt64) :
    clearRange m start stop = .ok (m.clearRange start.toNat stop.toNat) := by
  have hclip : (min stop (UInt64.ofNat memorySize)).toNat = min stop.toNat memorySize := by
    rw [UInt64.toNat_min]
    rfl
  rw [clearRange]
  by_cases horder : start < min stop (UInt64.ofNat memorySize)
  · have hstop : (min stop (UInt64.ofNat memorySize)).toNat ≤ memorySize := by
      rw [hclip]
      exact Nat.min_le_right ..
    have hbytes : (⟨m.bytes.mapFinIdx fun k b _ =>
        if start.toNat ≤ k ∧ k < min stop.toNat memorySize then 0 else b⟩ : Memory) =
          m.clearRange start.toNat stop.toNat := by
      refine ext_byte fun a ha => ?_
      rw [byte_clearRange, byte_mapFinIdx m
        (fun k b => if start.toNat ≤ k ∧ k < min stop.toNat memorySize then 0 else b) ha]
      exact if_congr (by omega) rfl rfl
    simp only [if_pos horder, Cells.fill_eq_ok (UInt64.le_of_lt horder) hstop, hclip, bind, Except.bind,
      hbytes]
    rfl
  · have hsame : m = m.clearRange start.toNat stop.toNat := by
      rw [UInt64.lt_iff_toNat_lt, hclip] at horder
      refine ext_byte fun a ha => ?_
      rw [byte_clearRange, if_neg (by omega)]
    rw [if_neg horder, ← hsame]
    rfl

/-- **The font always has room.** -/
theorem installFont_eq (m : Memory) : installFont m = .ok m.installFont := by
  have hlen : fontBytes.length = 80 := length_fontBytes
  have hsum : checkedAdd (UInt64.ofNat fontStart) (UInt64.ofNat fontBytes.length) = .ok 80 := by
    rw [hlen]
    rfl
  have hcopy : Cells.copyInto m.bytes 0 80 fontBytes = .ok (m.bytes.mapFinIdx fun k b _ =>
      if 0 ≤ k then fontBytes[k - 0]?.getD b else b) :=
    Cells.copyInto_eq_ok (by decide) (by decide) hlen
  have hfits : fontStart + fontBytes.length ≤ memorySize := by decide
  rw [installFont, hsum]
  show (Cells.copyInto m.bytes 0 80 fontBytes >>= fun bytes => Except.ok (Memory.mk bytes)) = _
  rw [hcopy]
  exact congrArg Except.ok (m.copied_eq hfits)

end Checked

end Memory

/-! ## The display -/

namespace Display.Checked

variable {d : Display} {p : Pixel} {x y i : UInt64} {row : UInt8} {bit : Nat} {hit : Bool}

/-- The place of a pixel is computed without overflow. -/
theorem place_eq (hx : x.toNat = p.x.val) (hy : y.toNat = p.y.val) :
    ∃ i, place x y = .ok i ∧ i.toNat = p.index.val := by
  have hcolumn := p.x_lt
  have hrow := p.y_lt
  have hsize : UInt64.size = 18446744073709551616 := rfl
  have hwidth : (64 : UInt64).toNat * y.toNat = 64 * p.y.val := congrArg (64 * ·) hy
  have hmul : checkedMul 64 y = .ok (64 * y) := checkedMul_eq_ok (by omega)
  have hoffset : (64 * y).toNat = 64 * p.y.val := by
    rw [UInt64.toNat_mul, hwidth]
    exact Nat.mod_eq_of_lt (by omega)
  have hadd : checkedAdd x (64 * y) = .ok (x + 64 * y) := checkedAdd_eq_ok (by omega)
  refine ⟨x + 64 * y, ?_, ?_⟩
  · rw [place, hmul]
    exact hadd
  · rw [UInt64.toNat_add, hx, hoffset]
    exact Nat.mod_eq_of_lt (by omega)

theorem index_eq (h : i.toNat = p.index.val) : Cells.index d.pixels i = .ok (d.lit p) := by
  have hplace : i.toNat < pixelCount := h ▸ p.index.isLt
  have hindex : (⟨i.toNat, hplace⟩ : Fin pixelCount) = p.index := Fin.ext h
  rw [Cells.index_eq_ok hplace, hindex, lit]

theorem assign_eq (h : i.toNat = p.index.val) (on : Bool) :
    Cells.assign d.pixels i on = .ok (d.pixels.put p.index on) := by
  have hplace : i.toNat < pixelCount := h ▸ p.index.isLt
  have hindex : (⟨i.toNat, hplace⟩ : Fin pixelCount) = p.index := Fin.ext h
  rw [Cells.assign_eq_ok hplace, hindex]

theorem flip_eq (h : i.toNat = p.index.val) : flip d i = .ok (d.lit p, d.flip p) := by
  rw [flip, index_eq h]
  simp only [bind, Except.bind, assign_eq h]
  rfl

theorem position_eq (x y : UInt64) :
    (∃ p i, Pixel.ofCoordinates x.toNat y.toNat = .ok p ∧ position x y = .ok (.ok i) ∧
        i.toNat = p.index.val) ∨
      ∃ fault, Pixel.ofCoordinates x.toNat y.toNat = .error fault ∧
        position x y = .ok (.error fault) := by
  have hoff : (64 ≤ x ∨ 32 ≤ y) ↔ ¬ (x.toNat < 64 ∧ y.toNat < 32) := by
    rw [UInt64.le_iff_toNat_le, UInt64.le_iff_toNat_le]
    simp
    omega
  by_cases h : x.toNat < 64 ∧ y.toNat < 32
  · obtain ⟨i, hplace, hi⟩ := place_eq (p := ⟨⟨x.toNat, h.1⟩, ⟨y.toNat, h.2⟩⟩) rfl rfl
    refine .inl ⟨_, i, dif_pos h, ?_, hi⟩
    rw [position, if_neg (by rw [hoff]; exact not_not.mpr h), hplace]
    rfl
  · exact .inr ⟨_, dif_neg h, if_pos (hoff.mpr h)⟩

/-- **A pixel is read or refused.** -/
theorem get_eq (d : Display) (x y : UInt64) : get d x y = .ok (d.get x.toNat y.toNat) := by
  rw [get, Display.get]
  rcases position_eq x y with ⟨p, i, hpixel, hposition, hi⟩ | ⟨fault, hpixel, hposition⟩
  · simp only [hposition, hpixel, bind, Except.bind, index_eq hi]
    rfl
  · rw [hposition, hpixel]
    rfl

/-- **A pixel is flipped or refused.** -/
theorem toggle_eq (d : Display) (x y : UInt64) : toggle d x y = .ok (d.toggle x.toNat y.toNat) := by
  rw [toggle, Display.toggle]
  rcases position_eq x y with ⟨p, i, hpixel, hposition, hi⟩ | ⟨fault, hpixel, hposition⟩
  · simp only [hposition, hpixel, bind, Except.bind, flip_eq hi]
    rfl
  · rw [hposition, hpixel]
    rfl

theorem and_shift_eq_zero (row : UInt8) (hbit : bit < 8) :
    row &&& (0x80 >>> UInt8.ofNat bit) = 0 ↔ row.toNat.testBit (7 - bit) = false := by
  -- The mask moves one bit at a time, so all rows and bits are tried.
  have hall : ∀ n < 256, ∀ b < 8,
      (UInt8.ofNat n &&& (0x80 >>> UInt8.ofNat b) = 0 ↔ n.testBit (7 - b) = false) := by
    decide +kernel
  have hrow := hall row.toNat row.toNat_lt bit hbit
  rwa [UInt8.ofNat_toNat] at hrow

theorem drawBit_of_unset (hbit : bit < 8) (hunset : row.toNat.testBit (7 - bit) = false)
    (drawn : Bool × Display) : drawBit x y row drawn bit = .ok drawn :=
  if_pos ((and_shift_eq_zero row hbit).mpr hunset)

theorem drawBit_of_set (hbit : bit < 8) (hset : row.toNat.testBit (7 - bit) = true) :
    drawBit x (y % 32) row (hit, d) bit = if x.toNat + bit < UInt64.size then
        let p := Pixel.wrap (x.toNat + bit) y.toNat
        .ok (hit || d.lit p, d.flip p)
      else .error .additionOverflow := by
  have hnonzero : ¬ row &&& (0x80 >>> UInt8.ofNat bit) = 0 := by
    rw [and_shift_eq_zero row hbit, hset]
    decide
  have hoffset : (UInt64.ofNat bit).toNat = bit := by
    rw [UInt64.toNat_ofNat']
    exact Nat.mod_eq_of_lt (by omega)
  rw [drawBit, if_neg hnonzero]
  by_cases hsum : x.toNat + bit < UInt64.size
  · have hcolumn : ((x + UInt64.ofNat bit) % 64).toNat = (Pixel.wrap (x.toNat + bit) y.toNat).x.val := by
      rw [UInt64.toNat_mod, UInt64.toNat_add, hoffset, Nat.mod_eq_of_lt hsum]
      rfl
    obtain ⟨i, hplace, hi⟩ := place_eq hcolumn (show (y % 32).toNat = _ from UInt64.toNat_mod ..)
    rw [if_pos hsum, checkedAdd_eq_ok (by rwa [hoffset])]
    simp only [bind, Except.bind, hplace, flip_eq hi]
    rfl
  · rw [if_neg hsum, checkedAdd_eq_error (by rw [hoffset]; omega)]
    rfl

/-- The bits of a row that are set, among some. -/
abbrev setBits (row : UInt8) (bits : List Nat) : List Nat :=
  bits.filter fun b => row.toNat.testBit (7 - b)

/-- Drawing some bits flips the pixels of those that are set, unless the column of one of them is no 64
bit number. -/
theorem foldlM_drawBit {bits : List Nat} (hbits : ∀ b ∈ bits, b < 8) (hit : Bool) (d : Display) :
    bits.foldlM (drawBit x (y % 32) row) (hit, d) =
      if (setBits row bits).all fun b => x.toNat + b < UInt64.size then
        let flipped := d.flipAll ((setBits row bits).map fun b => .wrap (x.toNat + b) y.toNat)
        .ok (hit || flipped.1, flipped.2)
      else .error .additionOverflow := by
  induction bits generalizing hit d with
  | nil =>
    simp [setBits, flipAll_nil]
    rfl
  | cons bit bits ih =>
    have hbit := hbits bit List.mem_cons_self
    have hrest := ih fun b hmem => hbits b (List.mem_cons_of_mem _ hmem)
    rw [List.foldlM_cons]
    cases hset : row.toNat.testBit (7 - bit) with
    | false =>
      have hskip : setBits row (bit :: bits) = setBits row bits := List.filter_cons_of_neg (by simp [hset])
      rw [drawBit_of_unset hbit hset, hskip]
      exact hrest hit d
    | true =>
      have hkeep : setBits row (bit :: bits) = bit :: setBits row bits := List.filter_cons_of_pos hset
      rw [drawBit_of_set hbit hset, hkeep, List.all_cons]
      -- The first column that is too large ends the loop, whatever bits are left.
      by_cases hsum : x.toNat + bit < UInt64.size
      · simp only [hsum, if_true, decide_true, Bool.true_and, bind, Except.bind, hrest, List.map_cons,
          flipAll, Bool.or_assoc]
      · simp only [hsum, if_false, decide_false, Bool.false_and, Bool.false_eq_true, bind, Except.bind]

/-- **A sprite row is drawn**, unless the column of one of its pixels is no 64 bit number. -/
theorem drawRow_eq (d : Display) (x y : UInt64) (row : UInt8) :
    drawRow d x y row = if rowFits x row then .ok (d.drawRow x.toNat y.toNat row)
      else .error .additionOverflow := by
  have hbits : ∀ b ∈ List.range 8, b < 8 := fun b => List.mem_range.mp
  rw [drawRow, foldlM_drawBit hbits]
  simp only [Bool.false_or]
  rfl

theorem rowFits_of_lt (h : x.toNat < 256) (row : UInt8) : rowFits x row = true := by
  have hsize : UInt64.size = 18446744073709551616 := rfl
  rw [rowFits, List.all_eq_true]
  intro b hb
  have hb := List.mem_range.mp (List.mem_filter.mp hb).1
  exact decide_eq_true (by omega)

/-- **A sprite is drawn** at every place that two bytes name. The number of its rows that have been drawn
is counted beside them. -/
theorem drawSprite_eq (d : Display) {count : UInt64} {rows : List UInt8} (hx : x.toNat < 256)
    (hy : y.toNat < 256) (hcount : count.toNat + rows.length ≤ 256) :
    drawSprite d x y count rows = .ok (d.drawSprite x.toNat (y.toNat + count.toNat) rows) := by
  have hsize : UInt64.size = 18446744073709551616 := rfl
  induction rows generalizing d count with
  | nil => rfl
  | cons row rows ih =>
    rw [List.length_cons] at hcount
    have hone : (1 : UInt64).toNat = 1 := rfl
    have hline : (y + count).toNat = y.toNat + count.toNat := by
      rw [UInt64.toNat_add]
      exact Nat.mod_eq_of_lt (by omega)
    have hnext : (count + 1).toNat = count.toNat + 1 := by
      rw [UInt64.toNat_add, hone]
      exact Nat.mod_eq_of_lt (by omega)
    have hrest := ih (d.drawRow x.toNat (y + count).toNat row).2
      (show (count + 1).toNat + rows.length ≤ 256 by omega)
    rw [drawSprite, checkedAdd_eq_ok (by omega)]
    simp only [bind, Except.bind, drawRow_eq, if_pos (rowFits_of_lt hx row),
      checkedAdd_eq_ok (show count.toNat + (1 : UInt64).toNat < UInt64.size by omega), hrest]
    rw [hnext, hline, Display.drawSprite, Nat.add_assoc]
    rfl

end Display.Checked

/-! ## The keypad -/

namespace Keypad.Checked

theorem isPressed_eq (k : Keypad) (key : UInt8) : isPressed k key = k.isPressed key := by
  rw [isPressed, Cells.lookup_eq, UInt8.toNat_toUInt64, Keypad.isPressed]
  by_cases h : key.toNat < keyCount
  · rw [dif_pos h, isDown, Vector.get_eq, Vector.getElem?_eq_getElem h, Option.getD_some]
  · rw [dif_neg h, Vector.getElem?_eq_none (Nat.le_of_not_lt h), Option.getD_none]

theorem setPressed_eq (k : Keypad) (key : UInt8) (down : Bool) :
    setPressed k key down = k.setPressed key down := by
  rw [setPressed, Keypad.setPressed]
  by_cases h : key.toNat < keyCount
  · have hplace : key.toUInt64.toNat < keyCount := by rwa [UInt8.toNat_toUInt64]
    rw [Cells.update_eq_some hplace, dif_pos h]
    rfl
  · have hplace : keyCount ≤ key.toUInt64.toNat := by
      rw [UInt8.toNat_toUInt64]
      omega
    rw [Cells.update_eq_none hplace, dif_neg h]

theorem firstPressed_eq (k : Keypad) :
    firstPressed k = k.firstPressed.map fun key => UInt8.ofNat key.val := by
  have hdown (key : Fin keyCount) : k.isDown key = k.keys.toList[key.val] := by
    rw [isDown, Vector.get_eq, Vector.getElem_toList]
  rw [firstPressed]
  cases hfirst : k.firstPressed with
  | none =>
    have hnone : k.keys.toList.findIdx? id = none := by
      rw [List.findIdx?_eq_none_iff]
      intro down hmem
      obtain ⟨n, hn, rfl⟩ := List.getElem_of_mem hmem
      rw [Vector.length_toList] at hn
      exact (hdown ⟨n, hn⟩).symm.trans (firstPressed_eq_none.mp hfirst _)
    rw [hnone]
    rfl
  | some key =>
    obtain ⟨hkey, hbefore⟩ := firstPressed_eq_some.mp hfirst
    have hsome : k.keys.toList.findIdx? id = some key.val := by
      rw [List.findIdx?_eq_some_iff_getElem]
      refine ⟨by simp, ?_, fun j hj => ?_⟩
      · exact (hdown key).symm.trans hkey
      · have hup := (hdown ⟨j, Nat.lt_trans hj key.isLt⟩).symm.trans (hbefore _ hj)
        exact Bool.eq_false_iff.mp hup
    rw [hsome]
    rfl

end Keypad.Checked

/-! ## The call stack -/

namespace CallStack

/-- **An array that holds a call stack.** What is behind the pointer does not count. -/
structure Checked.Holds (s : Checked) (c : CallStack) : Prop where
  pointer : s.pointer.toNat = c.depth
  frames : s.frames.toList.take c.depth = c.frames.reverse

namespace Checked

variable {s : Checked} {c : CallStack}

theorem holds_empty : empty.Holds .empty := ⟨rfl, rfl⟩

/-- The next free frame takes the address. -/
theorem Holds.push (h : s.Holds c) (address : UInt16) (hplace : s.pointer.toNat < stackSize)
    (hroom : c.frames.length < stackSize) :
    Holds ⟨s.frames.put ⟨s.pointer.toNat, hplace⟩ address, s.pointer + 1⟩
      ⟨address :: c.frames, hroom⟩ := by
  have hpointer : s.pointer.toNat = c.frames.length := h.pointer
  have hput : (s.frames.put ⟨s.pointer.toNat, hplace⟩ address).toList =
      s.frames.toList.set c.frames.length address := by
    rw [Vector.put, Vector.toList_set]
    exact congrArg (s.frames.toList.set · address) hpointer
  have hkept : (s.frames.toList.set c.frames.length address).take c.frames.length =
      c.frames.reverse := (List.take_set_of_le (Nat.le_refl _)).trans h.frames
  have hlast : (s.frames.toList.set c.frames.length address)[c.frames.length]? = some address :=
    List.getElem?_set_self (by rwa [Vector.length_toList])
  refine ⟨?_, ?_⟩
  · show (s.pointer + 1).toNat = c.frames.length + 1
    rw [UInt64.toNat_add, hpointer]
    exact Nat.mod_eq_of_lt (Nat.lt_of_lt_of_le (Nat.add_lt_add_right hroom _) (by decide))
  · show (s.frames.put ⟨s.pointer.toNat, hplace⟩ address).toList.take (c.frames.length + 1) =
      (address :: c.frames).reverse
    rw [hput, List.take_add_one, hkept, hlast, List.reverse_cons]
    rfl

/-- The last frame taken is the newest return address. -/
theorem Holds.last {address : UInt16} {rest : List UInt16}
    {hbounded : (address :: rest).length ≤ stackSize} (h : s.Holds ⟨address :: rest, hbounded⟩) :
    s.frames.toList.take rest.length = rest.reverse ∧ s.frames[rest.length]? = some address := by
  have hframes : s.frames.toList.take rest.length ++ s.frames.toList[rest.length]?.toList =
      rest.reverse ++ [address] := by
    rw [← List.take_add_one, ← List.reverse_cons]
    exact h.frames
  have hroom : rest.length < stackSize := hbounded
  obtain ⟨hrest, hlast⟩ := List.append_inj hframes (by simp; omega)
  rw [Vector.getElem?_toList, Option.toList_eq_singleton_iff] at hlast
  exact ⟨hrest, hlast⟩

theorem push_eq (h : s.Holds c) (address : UInt16) :
    (∃ s' c', s.push address = .ok (.ok s') ∧ c.push address = .ok c' ∧ s'.Holds c') ∨
      ∃ fault, s.push address = .ok (.error fault) ∧ c.push address = .error fault := by
  have hpointer : s.pointer.toNat = c.frames.length := h.pointer
  rw [Checked.push, CallStack.push]
  by_cases hroom : c.frames.length < stackSize
  · have hplace : s.pointer.toNat < stackSize := hpointer ▸ hroom
    have hsum : s.pointer.toNat + (1 : UInt64).toNat < UInt64.size :=
      Nat.lt_of_lt_of_le (Nat.add_lt_add_right hplace _) (by decide)
    refine .inl ⟨_, _, ?_, dif_pos hroom, h.push address hplace hroom⟩
    simp only [Cells.update_eq_some hplace, checkedAdd_eq_ok hsum, bind, Except.bind]
    rfl
  · have hplace : stackSize ≤ s.pointer.toNat := by omega
    refine .inr ⟨.stackOverflow, ?_, dif_neg hroom⟩
    rw [Cells.update_eq_none hplace]
    rfl

theorem pop_eq (h : s.Holds c) :
    (∃ address s' c', s.pop = .ok (.ok (address, s')) ∧ c.pop = .ok (address, c') ∧ s'.Holds c') ∨
      ∃ fault, s.pop = .ok (.error fault) ∧ c.pop = .error fault := by
  obtain ⟨_ | ⟨address, rest⟩, hbounded⟩ := c
  · have hzero : s.pointer = 0 := UInt64.toNat_inj.mp h.pointer
    exact .inr ⟨.stackUnderflow, if_pos hzero, rfl⟩
  · have hpointer : s.pointer.toNat = rest.length + 1 := h.pointer
    have hle : 1 ≤ s.pointer := UInt64.le_iff_toNat_le.mpr (hpointer ▸ Nat.succ_pos _)
    have hnonzero : s.pointer ≠ 0 := by
      intro hzero
      rw [hzero] at hpointer
      cases hpointer
    have hbelow : (s.pointer - 1).toNat = rest.length := by
      rw [UInt64.toNat_sub_of_le _ _ hle, hpointer]
      rfl
    obtain ⟨hrest, hlast⟩ := h.last
    have hindex : Cells.index s.frames (s.pointer - 1) = .ok address := by
      rw [Cells.index, Cells.lookup_eq, hbelow, hlast]
    refine .inl ⟨address, ⟨s.frames, s.pointer - 1⟩, ⟨rest, Nat.le_of_succ_le hbounded⟩, ?_, rfl,
      hbelow, hrest⟩
    rw [Checked.pop, if_neg hnonzero, checkedSub_eq_ok hle]
    simp only [bind, Except.bind, hindex]
    rfl

/-- **An operation does the same to the array as to the stack.** -/
theorem perform_eq (h : s.Holds c) (op : Operation) :
    ∃ s', s.perform op = .ok ((c.perform op).1, s') ∧ s'.Holds (c.perform op).2 := by
  cases op with
  | push address =>
    rw [Checked.perform, CallStack.perform]
    rcases push_eq h address with ⟨s', c', hpush, hpush', hholds⟩ | ⟨fault, hpush, hpush'⟩
    · simp only [hpush, hpush', bind, Except.bind]
      exact ⟨s', rfl, hholds⟩
    · simp only [hpush, hpush', bind, Except.bind]
      exact ⟨s, rfl, h⟩
  | pop =>
    rw [Checked.perform, CallStack.perform]
    rcases pop_eq h with ⟨address, s', c', hpop, hpop', hholds⟩ | ⟨fault, hpop, hpop'⟩
    · simp only [hpop, hpop', bind, Except.bind]
      exact ⟨s', rfl, hholds⟩
    · simp only [hpop, hpop', bind, Except.bind]
      exact ⟨s, rfl, h⟩
  | clear => exact ⟨empty, rfl, holds_empty⟩

theorem performAll_eq (h : s.Holds c) (ops : List Operation) :
    ∃ s', s.performAll ops = .ok ((c.performAll ops).1, s') ∧ s'.Holds (c.performAll ops).2 := by
  induction ops generalizing s c with
  | nil => exact ⟨s, rfl, h⟩
  | cons op ops ih =>
    obtain ⟨after, hperform, hafter⟩ := perform_eq h op
    obtain ⟨last, hrest, hlast⟩ := ih hafter
    refine ⟨last, ?_, hlast⟩
    rw [Checked.performAll]
    simp only [hperform, bind, Except.bind, hrest]
    rfl

end Checked

end CallStack

/-- **What components answer.** Every operation on the array of a component is the one of the machine, so
it answers or raises its fault, for all arguments and also for a call stack after any other operations on
it. There are two exceptions: a block is not read if its end is no 64 bit number, and a sprite row is
not drawn if the column of one of its pixels is none. -/
theorem components_answer (m : Memory) (a : UInt16) (b : UInt8) (len start stop : UInt64)
    (values : ByteBlock) (d : Display) (x y : UInt64) (row : UInt8) (k : Keypad) (key : UInt8)
    (down : Bool) (ops : List CallStack.Operation) :
    Memory.Checked.read m a = m.read a ∧
    Memory.Checked.readBlock m a len =
      (if a.toNat + len.toNat < UInt64.size then .ok (m.readBlock a len.toNat)
      else .error .additionOverflow) ∧
    Memory.Checked.write m a b = m.write a b ∧
    Memory.Checked.writeBlock m values a = .ok (m.writeBlock values.bytes a) ∧
    Memory.Checked.clearRange m start stop = .ok (m.clearRange start.toNat stop.toNat) ∧
    Display.Checked.get d x y = .ok (d.get x.toNat y.toNat) ∧
    Display.Checked.toggle d x y = .ok (d.toggle x.toNat y.toNat) ∧
    Display.Checked.drawRow d x y row =
      (if ∀ b ∈ Display.rowOffsets row, x.toNat + b < UInt64.size then
        .ok (d.drawRow x.toNat y.toNat row)
      else .error .additionOverflow) ∧
    Keypad.Checked.isPressed k key = k.isPressed key ∧
    Keypad.Checked.setPressed k key down = k.setPressed key down ∧
    Keypad.Checked.firstPressed k = k.firstPressed.map (fun key => UInt8.ofNat key.val) ∧
    ∃ s : CallStack.Checked,
      CallStack.Checked.empty.performAll ops = .ok ((CallStack.empty.performAll ops).1, s) ∧
        s.Holds (CallStack.empty.performAll ops).2 := by
  refine ⟨Memory.Checked.read_eq m a, Memory.Checked.readBlock_eq m a len,
    Memory.Checked.write_eq m a b, Memory.Checked.writeBlock_eq m values a,
    Memory.Checked.clearRange_eq m start stop, Display.Checked.get_eq d x y,
    Display.Checked.toggle_eq d x y, ?_, Keypad.Checked.isPressed_eq k key,
    Keypad.Checked.setPressed_eq k key down, Keypad.Checked.firstPressed_eq k,
    CallStack.Checked.performAll_eq CallStack.Checked.holds_empty ops⟩
  rw [Display.Checked.drawRow_eq]
  refine if_congr ?_ rfl rfl
  simp only [Display.rowFits, List.all_eq_true, decide_eq_true_eq]

/-- The end of a long block, and a column next to the last number. -/
theorem components_abort :
    Memory.Checked.readBlock .initial 1 0xFFFFFFFFFFFFFFFF = .error .additionOverflow ∧
      Display.Checked.drawRow .blank 0xFFFFFFFFFFFFFFFF 0 0x40 = .error .additionOverflow :=
  ⟨(Memory.Checked.readBlock_eq ..).trans (if_neg (by decide)),
    (Display.Checked.drawRow_eq ..).trans (if_neg (by decide))⟩

end Chip8
