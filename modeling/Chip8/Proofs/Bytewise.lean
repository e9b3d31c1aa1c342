import Chip8.Proofs.Aborts
import Chip8.Proofs.Cycle
import Mathlib.Order.Bounds.Basic

/-!
# Blocks and their bytes

A block of memory is read and written as if its bytes were, one after the other, only that nothing is
written if one of them lies outside. An empty block has no bytes, but its place is checked all the same.

* `Memory.readAt`, `writeAt`, **`readEach`**, **`writeEach`**: one byte after the other;
* `Memory.outside`: the addresses of a block that lie outside, with `isLeast_outside`;
* `readBlock_eq_readEach`, `writeBlock_eq_writeEach`: blocks that have bytes, or start in memory;
* `Memory.ReadsBytewise`, `Memory.WritesBytewise`: what is asked of a block on account of its bytes;
* `Instruction.reach`: the number of bytes that an instruction finds behind the index;
* **`blocks_bytewise`**, `empty_block_beyond`.
-/

namespace Chip8

namespace Memory

variable {m m' : Memory} {a start len : Nat} {b : UInt8} {values : List UInt8} {f : Fault}

/-! ## One byte after the other -/

/-- The byte at an address that may be no word. -/
def readAt (m : Memory) (a : Nat) : Except Fault UInt8 :=
  if a < UInt16.size then m.read (UInt16.ofNat a) else .error (.addressOutOfRange a)

def writeAt (m : Memory) (a : Nat) (b : UInt8) : Except Fault Memory :=
  if a < UInt16.size then m.write (UInt16.ofNat a) b else .error (.addressOutOfRange a)

/-- **Bytes read one after the other**, up to the first that cannot be read. -/
def readEach (m : Memory) (start : Nat) : Nat → Except Fault (List UInt8)
  | 0 => return []
  | len + 1 => do
    let b ← m.readAt start
    let bs ← m.readEach (start + 1) len
    return b :: bs

/-- **Bytes written one after the other**, up to the first that cannot be written. -/
def writeEach (m : Memory) (start : Nat) : List UInt8 → Except Fault Memory
  | [] => return m
  | b :: bs => do
    let m' ← m.writeAt start b
    m'.writeEach (start + 1) bs

theorem readAt_eq (m : Memory) (a : Nat) :
    m.readAt a = if a < memorySize then .ok (m.byte a) else .error (.addressOutOfRange a) := by
  rw [readAt]
  by_cases hword : a < UInt16.size
  · rw [if_pos hword, read, UInt16.toNat_ofNat', Nat.mod_eq_of_lt hword]
  · have hout : ¬ a < memorySize := fun h => hword (Nat.lt_trans h (by decide))
    rw [if_neg hword, if_neg hout]

theorem writeAt_eq (m : Memory) (a : Nat) (b : UInt8) :
    m.writeAt a b = if a < memorySize then .ok (m.store a b) else .error (.addressOutOfRange a) := by
  rw [writeAt]
  by_cases hword : a < UInt16.size
  · rw [if_pos hword, write, UInt16.toNat_ofNat', Nat.mod_eq_of_lt hword]
  · have hout : ¬ a < memorySize := fun h => hword (Nat.lt_trans h (by decide))
    rw [if_neg hword, if_neg hout]

theorem readAt_isOk_iff : (∃ b, m.readAt a = .ok b) ↔ a < memorySize := by
  rw [readAt_eq]
  by_cases h : a < memorySize <;> simp [h]

theorem writeAt_isOk_iff : (∃ m', m.writeAt a b = .ok m') ↔ a < memorySize := by
  rw [writeAt_eq]
  by_cases h : a < memorySize <;> simp [h]

theorem readEach_of_fits (m : Memory) (h : start + len ≤ memorySize) :
    m.readEach start len = .ok ((List.range len).map fun k => m.byte (start + k)) := by
  induction len generalizing start with
  | zero => rfl
  | succ len ih =>
    have hfirst : start < memorySize := by omega
    have hrest : start + 1 + len ≤ memorySize := by omega
    have hplaces : (fun k => m.byte (start + 1 + k)) = (fun k => m.byte (start + k)) ∘ Nat.succ := by
      funext k
      show m.byte (start + 1 + k) = m.byte (start + (k + 1))
      congr 1
      omega
    rw [readEach, readAt_eq, if_pos hfirst, ih hrest, List.range_succ_eq_map, List.map_cons,
      List.map_map, ← hplaces]
    rfl

theorem writeEach_of_fits (m : Memory) (h : start + values.length ≤ memorySize) :
    m.writeEach start values = .ok (m.storeAll start values) := by
  induction values generalizing m start with
  | nil => rfl
  | cons b bs ih =>
    rw [List.length_cons] at h
    have hfirst : start < memorySize := by omega
    rw [writeEach, writeAt_eq, if_pos hfirst]
    exact ih _ (by omega)

/-- The first byte that lies outside ends the reading. -/
theorem readEach_of_sticks_out (m : Memory) (hlen : len ≠ 0) (h : memorySize < start + len) :
    m.readEach start len = .error (.addressOutOfRange (max memorySize start)) := by
  induction len generalizing start with
  | zero => exact absurd rfl hlen
  | succ len ih =>
    rw [readEach, readAt_eq]
    by_cases hfirst : start < memorySize
    · have hmax : max memorySize (start + 1) = max memorySize start := by omega
      rw [if_pos hfirst, ih (by omega) (by omega), hmax]
      rfl
    · rw [if_neg hfirst, Nat.max_eq_right (Nat.le_of_not_lt hfirst)]
      rfl

theorem writeEach_of_sticks_out (m : Memory) (hvalues : values ≠ [])
    (h : memorySize < start + values.length) :
    m.writeEach start values = .error (.addressOutOfRange (max memorySize start)) := by
  induction values generalizing m start with
  | nil => exact absurd rfl hvalues
  | cons b bs ih =>
    rw [List.length_cons] at h
    rw [writeEach, writeAt_eq]
    by_cases hfirst : start < memorySize
    · have hrest : bs ≠ [] := by
        rintro rfl
        rw [List.length_nil] at h
        omega
      have hmax : max memorySize (start + 1) = max memorySize start := by omega
      rw [if_pos hfirst, ← hmax]
      exact ih _ hrest (by omega)
    · rw [if_neg hfirst, Nat.max_eq_right (Nat.le_of_not_lt hfirst)]
      rfl

/-! ## Blocks as sequences of bytes -/

section Equations

variable {start : UInt16}

/-- **A block is read like its bytes**, if it has any or starts in memory. -/
theorem readBlock_eq_readEach (m : Memory) (h : len ≠ 0 ∨ start.toNat ≤ memorySize) :
    m.readBlock start len = m.readEach start.toNat len := by
  by_cases hfits : start.toNat + len ≤ memorySize
  · rw [readEach_of_fits m hfits]
    exact readBlock_eq_ok.mpr ⟨hfits, rfl⟩
  · rw [readEach_of_sticks_out m (by omega) (by omega)]
    exact readBlock_eq_error.mpr ⟨by omega, rfl⟩

/-- **A block is written like its bytes**, if it has any or starts in memory. -/
theorem writeBlock_eq_writeEach (m : Memory) (h : values ≠ [] ∨ start.toNat ≤ memorySize) :
    m.writeBlock values start = m.writeEach start.toNat values := by
  by_cases hfits : start.toNat + values.length ≤ memorySize
  · rw [writeEach_of_fits m hfits]
    exact writeBlock_eq_ok.mpr ⟨hfits, rfl⟩
  · have hvalues : values ≠ [] := by
      rintro rfl
      rw [List.length_nil] at hfits
      exact h.elim (fun hne => hne rfl) (fun hle => hfits hle)
    rw [writeEach_of_sticks_out m hvalues (by omega)]
    exact writeBlock_eq_error.mpr ⟨by omega, rfl⟩

end Equations

/-! ## What is asked of a block -/

/-- The addresses of a block that lie outside memory. -/
def outside (start len : Nat) : Set Nat := {a | start ≤ a ∧ a < start + len ∧ memorySize ≤ a}

theorem isLeast_outside (hlen : len ≠ 0) (h : memorySize < start + len) :
    IsLeast (outside start len) (max memorySize start) :=
  ⟨⟨Nat.le_max_right .., by omega, Nat.le_max_left ..⟩,
    fun _ ha => Nat.max_le.mpr ⟨ha.2.2, ha.1⟩⟩

theorem lt_of_isLeast_outside (h : IsLeast (outside start len) a) :
    len ≠ 0 ∧ memorySize < start + len ∧ a = max memorySize start := by
  obtain ⟨hfrom, hto, hout⟩ := h.1
  have hlen : len ≠ 0 := by omega
  have hsticks : memorySize < start + len := by omega
  exact ⟨hlen, hsticks, h.unique (isLeast_outside hlen hsticks)⟩

/-- **A block was read like its bytes.** It is refused at the lowest address that cannot be read. -/
structure ReadsBytewise (m : Memory) (start len : Nat) (answer : Except Fault (List UInt8)) : Prop where
  accepted : (∃ bytes, answer = .ok bytes) ↔ ∀ k < len, ∃ b, m.readAt (start + k) = .ok b
  bytes : ∀ bytes, answer = .ok bytes → bytes.length = len ∧
    ∀ k (hk : k < bytes.length), m.readAt (start + k) = .ok bytes[k]
  refused : ∀ f, answer = .error f → ∃ a, IsLeast (outside start len) a ∧ f = .addressOutOfRange a

/-- **A block was written like its bytes**, and nothing else was written. -/
structure WritesBytewise (m : Memory) (start : Nat) (values : List UInt8)
    (answer : Except Fault Memory) : Prop where
  accepted : (∃ m', answer = .ok m') ↔
    ∀ k (hk : k < values.length), ∃ m', m.writeAt (start + k) values[k] = .ok m'
  stored : ∀ m', answer = .ok m' → m.writeEach start values = .ok m' ∧
    ∀ a, a < start ∨ start + values.length ≤ a → m'.byte a = m.byte a
  refused : ∀ f, answer = .error f →
    ∃ a, IsLeast (outside start values.length) a ∧ f = .addressOutOfRange a

theorem readsBytewise_readEach (m : Memory) (start len : Nat) :
    m.ReadsBytewise start len (m.readEach start len) := by
  by_cases hfits : len = 0 ∨ start + len ≤ memorySize
  · have hin : ∀ k < len, start + k < memorySize := by
      intro k hk
      omega
    have hread : m.readEach start len = .ok ((List.range len).map fun k => m.byte (start + k)) := by
      rcases hfits with rfl | hfits
      · rfl
      · exact readEach_of_fits m hfits
    rw [hread]
    refine ⟨⟨fun _ k hk => readAt_isOk_iff.mpr (hin k hk), fun _ => ⟨_, rfl⟩⟩, ?_, nofun⟩
    rintro bytes ⟨⟩
    refine ⟨by simp, fun k hk => ?_⟩
    rw [List.length_map, List.length_range] at hk
    rw [readAt_eq, if_pos (hin k hk)]
    simp
  · rw [not_or] at hfits
    obtain ⟨hlen, hsticks⟩ := hfits
    rw [readEach_of_sticks_out m hlen (by omega)]
    refine ⟨⟨nofun, fun hall => ?_⟩, nofun, ?_⟩
    · have hlast := readAt_isOk_iff.mp (hall (len - 1) (by omega))
      omega
    · rintro f ⟨⟩
      exact ⟨_, isLeast_outside hlen (by omega), rfl⟩

theorem writesBytewise_writeEach (m : Memory) (start : Nat) (values : List UInt8) :
    m.WritesBytewise start values (m.writeEach start values) := by
  by_cases hfits : values = [] ∨ start + values.length ≤ memorySize
  · have hin : ∀ k < values.length, start + k < memorySize := by
      intro k hk
      rcases hfits with rfl | hfits
      · cases hk
      · omega
    have hwrite : m.writeEach start values = .ok (m.storeAll start values) := by
      rcases hfits with rfl | hfits
      · rfl
      · exact writeEach_of_fits m hfits
    rw [hwrite]
    refine ⟨⟨fun _ k hk => writeAt_isOk_iff.mpr (hin k hk), fun _ => ⟨_, rfl⟩⟩, ?_, nofun⟩
    rintro m' ⟨⟩
    refine ⟨hwrite, fun a ha => ?_⟩
    rcases ha with hbefore | hbehind
    · exact byte_storeAll_of_lt m values hbefore
    · exact byte_storeAll_of_ge m values hbehind
  · rw [not_or] at hfits
    obtain ⟨hvalues, hsticks⟩ := hfits
    have hlen : values.length ≠ 0 := fun hzero => hvalues (List.length_eq_zero_iff.mp hzero)
    rw [writeEach_of_sticks_out m hvalues (by omega)]
    refine ⟨⟨nofun, fun hall => ?_⟩, nofun, ?_⟩
    · have hlast := writeAt_isOk_iff.mp (hall (values.length - 1) (by omega))
      omega
    · rintro f ⟨⟩
      exact ⟨_, isLeast_outside hlen (by omega), rfl⟩

end Memory

/-! ## Instructions -/

/-- The number of bytes that an instruction finds behind the index. -/
def Instruction.reach : Instruction → Nat
  | draw _ _ n => n.val
  | storeBcd _ => 3
  | storeRegisters x | loadRegisters x => x.val + 1
  | _ => 0

open Memory (outside lt_of_isLeast_outside isLeast_outside)

/-- An instruction is refused at the lowest byte behind the index that lies outside. A sprite without
rows is refused as well, if the index itself lies behind the end of memory. -/
theorem Vm.raises_addressOutOfRange_iff {depth a : Nat} {index : UInt16} {i : Instruction} :
    Vm.Raises depth index i (.addressOutOfRange a) ↔
      IsLeast (outside index.toNat i.reach) a ∨
        (∃ x y, i = .draw x y 0) ∧ memorySize < index.toNat ∧ a = index.toNat := by
  constructor
  · intro h
    cases h with
    | draw x y n hi =>
      by_cases hn : n = 0
      · subst hn
        have hindex : memorySize < index.toNat := hi
        exact .inr ⟨⟨x, y, rfl⟩, hindex, Nat.max_eq_right (Nat.le_of_lt hindex)⟩
      · have hrows : n.val ≠ 0 := fun hzero => hn (Fin.ext hzero)
        exact .inl (isLeast_outside hrows hi)
    | storeBcd x hi => exact .inl (isLeast_outside (Nat.succ_ne_zero 2) hi)
    | storeRegisters x hi | loadRegisters x hi =>
      exact .inl (isLeast_outside (Nat.succ_ne_zero x.val) hi)
  · rintro (h | ⟨⟨x, y, rfl⟩, hindex, rfl⟩)
    · obtain ⟨hreach, hsticks, rfl⟩ := lt_of_isLeast_outside h
      cases i with
      | draw x y n => exact .draw x y n hsticks
      | storeBcd x => exact .storeBcd x hsticks
      | storeRegisters x => exact .storeRegisters x hsticks
      | loadRegisters x => exact .loadRegisters x hsticks
      | _ => exact absurd rfl hreach
    · have hraises : Vm.Raises depth index (.draw x y 0)
          (.addressOutOfRange (max memorySize index.toNat)) := .draw x y 0 hindex
      rwa [Nat.max_eq_right (Nat.le_of_lt hindex)] at hraises

/-! ## The law -/

/-- **Blocks are read and written like their bytes.** A block whose end is a 64 bit number is accepted
if each of its bytes is, and refused at the lowest one that lies outside; a block without bytes is
accepted if it starts in memory or at its end, and refused at its start otherwise. An instruction that
is refused on account of the index leaves the machine as it is, and it is refused only if it finds a
byte outside, or is a sprite without rows at an index behind the end of memory. -/
theorem blocks_bytewise (m : Memory) (start : UInt16) :
    (∀ len : UInt64, start.toNat + len.toNat < UInt64.size →
      (len ≠ 0 ∨ start.toNat ≤ memorySize → ∃ answer,
        Memory.Checked.readBlock m start len = .ok answer ∧
          m.ReadsBytewise start.toNat len.toNat answer)) ∧
    (∀ values : ByteBlock, (values.bytes ≠ [] ∨ start.toNat ≤ memorySize → ∃ answer,
      Memory.Checked.writeBlock m values start = .ok answer ∧
        m.WritesBytewise start.toNat values.bytes answer)) ∧
    (memorySize < start.toNat →
      Memory.Checked.readBlock m start 0 = .ok (.error (.addressOutOfRange start.toNat)) ∧
      ∀ values : ByteBlock, values.bytes = [] → Memory.Checked.writeBlock m values start =
        .ok (.error (.addressOutOfRange start.toNat))) ∧
    ∀ (vm vm' : Vm) (i : Instruction) (a : Nat),
      vm.execute i = .error (.addressOutOfRange a) vm' ↔
        (IsLeast (outside vm.i.toNat i.reach) a ∨
          (∃ x y, i = .draw x y 0) ∧ memorySize < vm.i.toNat ∧ a = vm.i.toNat) ∧ vm' = vm := by
  refine ⟨fun len hsum hplace => ?_, fun values hplace => ?_, fun hbehind => ⟨?_, ?_⟩, ?_⟩
  · refine ⟨_, (Memory.Checked.readBlock_eq m start len).trans (if_pos hsum), ?_⟩
    have hlen : len.toNat ≠ 0 ∨ start.toNat ≤ memorySize :=
      hplace.imp_left fun hne hzero => hne (UInt64.toNat_inj.mp hzero)
    rw [Memory.readBlock_eq_readEach m hlen]
    exact Memory.readsBytewise_readEach ..
  · refine ⟨_, Memory.Checked.writeBlock_eq m values start, ?_⟩
    rw [Memory.writeBlock_eq_writeEach m hplace]
    exact Memory.writesBytewise_writeEach ..
  · have hsum : start.toNat + (0 : UInt64).toNat < UInt64.size :=
      Nat.lt_trans start.toNat_lt (by decide)
    have hread : m.readBlock start 0 = .error (.addressOutOfRange (max memorySize start.toNat)) :=
      Memory.readBlock_eq_error.mpr ⟨hbehind, rfl⟩
    rw [Nat.max_eq_right (Nat.le_of_lt hbehind)] at hread
    exact (Memory.Checked.readBlock_eq m start 0).trans ((if_pos hsum).trans (congrArg Except.ok hread))
  · intro values hempty
    have hwrite : m.writeBlock [] start = .error (.addressOutOfRange (max memorySize start.toNat)) :=
      Memory.writeBlock_eq_error.mpr ⟨hbehind, rfl⟩
    rw [Nat.max_eq_right (Nat.le_of_lt hbehind)] at hwrite
    rw [Memory.Checked.writeBlock_eq, hempty, hwrite]
  · intro vm vm' i a
    rw [Vm.execute_eq_error, Vm.raises_addressOutOfRange_iff]

/-- The last two bytes of memory and one behind it. -/
theorem blocks_bytewise_at_end :
    ∃ answer, Memory.Checked.readBlock .initial 0xFFE 3 = .ok answer ∧
      Memory.ReadsBytewise .initial 0xFFE 3 answer := by
  have hsum : (0xFFE : UInt16).toNat + (3 : UInt64).toNat < UInt64.size := by decide
  exact (blocks_bytewise .initial 0xFFE).1 3 hsum (.inl (by decide))

/-- An empty block behind the end of memory is refused, although none of its bytes is, and so is a
sprite without rows. -/
theorem empty_block_beyond :
    (¬ ∀ (m : Memory) (start : UInt16) (len : UInt64), start.toNat + len.toNat < UInt64.size →
      ∃ answer, Memory.Checked.readBlock m start len = .ok answer ∧
        m.ReadsBytewise start.toNat len.toNat answer) ∧
    (¬ ∀ (m : Memory) (start : UInt16) (values : ByteBlock),
      ∃ answer, Memory.Checked.writeBlock m values start = .ok answer ∧
        m.WritesBytewise start.toNat values.bytes answer) ∧
    ¬ ∀ (vm : Vm) (x y : Register) (a : Nat), vm.execute (.draw x y 0) ≠ .error (.addressOutOfRange a) vm := by
  refine ⟨fun hall => ?_, fun hall => ?_, fun hall => ?_⟩
  · obtain ⟨answer, hanswer, hbytes⟩ := hall .initial 0x1001 0 (by decide)
    obtain ⟨bytes, rfl⟩ := hbytes.accepted.mpr fun k hk => absurd hk (Nat.not_lt_zero k)
    have hread : Memory.Checked.readBlock .initial 0x1001 0 = .ok (.error (.addressOutOfRange 0x1001)) :=
      Memory.Checked.readBlock_eq ..
    rw [hread] at hanswer
    cases hanswer
  · obtain ⟨answer, hanswer, hbytes⟩ := hall .initial 0x1001 ⟨[], by decide⟩
    obtain ⟨m', rfl⟩ := hbytes.accepted.mpr fun k hk => absurd hk (Nat.not_lt_zero k)
    rw [Memory.Checked.writeBlock_eq] at hanswer
    cases hanswer
  · refine hall { Vm.fresh (.ofSeed 0) with i := 0x10FE } 0 0 0x10FE ?_
    have hindex : memorySize < (0x10FE : UInt16).toNat := by decide
    exact Vm.execute_eq_error.mpr ⟨.draw 0 0 0 hindex, rfl⟩

end Chip8
