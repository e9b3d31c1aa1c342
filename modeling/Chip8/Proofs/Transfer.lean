import Chip8.Proofs.Table

/-!
# Registers stored and loaded

A block of bytes that was stored is loaded back into the registers, and a store of registers that were
just loaded leaves memory as it was.

* `View.stored_add`, `View.stored_eq_byte`: reading what was stored, and storing what was read;
* `execute_storeRegisters`, `execute_storeBcd`, `execute_loadRegisters`: the instructions, whenever their
  block fits;
* **`load_of_stored`**: what a load finds in a block;
* **`transfers_round_trip`**.
-/

namespace Chip8

namespace View

variable {s : View} {bytes : List UInt8} {b : UInt8} {k : Nat} {reg : Register → UInt8}
  {x : Register}

/-! ## Blocks -/

/-- What was stored is there. -/
theorem stored_add (h : bytes[k]? = some b) : s.stored bytes (s.i.toNat + k) = b := by
  rw [stored, if_neg (by omega), Nat.add_sub_cancel_left, h, Option.getD_some]

/-- Storing what is there changes nothing. -/
theorem stored_eq_byte (h : ∀ k b, bytes[k]? = some b → s.byte (s.i.toNat + k) = b) :
    s.stored bytes = s.byte := by
  funext a
  rw [stored]
  by_cases hlow : a < s.i.toNat
  · rw [if_pos hlow]
  · rw [if_neg hlow]
    cases hb : bytes[a - s.i.toNat]? with
    | none => rfl
    | some b =>
      have hbyte := h _ _ hb
      rw [Nat.add_sub_cancel' (Nat.le_of_not_lt hlow)] at hbyte
      rw [Option.getD_some, hbyte]

/-- The bytes that are stored for registers up to a given one. -/
theorem getElem?_regsUpTo : (((List.finRange 16).take (x.val + 1)).map reg)[k]? = some b ↔
    ∃ r ≤ x, r.val = k ∧ reg r = b := by
  constructor
  · intro h
    obtain ⟨hk, hb⟩ := List.getElem?_eq_some_iff.mp h
    have hlength : k < min (x.val + 1) 16 := by simpa using hk
    obtain ⟨hx, hsize⟩ := Nat.lt_min.mp hlength
    exact ⟨⟨k, hsize⟩, Nat.le_of_lt_succ hx, rfl, by simpa using hb⟩
  · rintro ⟨r, hle, rfl, rfl⟩
    have hr : r.val < x.val + 1 := Nat.lt_succ_of_le hle
    rw [List.getElem?_map, List.getElem?_take_of_lt hr]
    simp

end View

namespace Vm

variable {vm next after : Vm} {i : Instruction} {o : Outcome} {s' : View} {x y : Register}
  {bytes : List UInt8}

/-! ## Executing the instructions -/

theorem advance_rewind (vm : Vm) : vm.rewind.advance = vm := by
  have hpc : vm.pc - 2 + 2 = vm.pc := UInt16.sub_add_cancel vm.pc 2
  exact congrArg (fun pc => { vm with pc := pc }) hpc

/-- A row is carried out by every machine, as each has moved past some word. -/
theorem exists_execute (h : Effect vm.rewind.view i o s') :
    ∃ after, vm.execute i = .ok o after ∧ after.view = s' := by
  have hrow := execute_of_effect h
  rwa [advance_rewind] at hrow

theorem view_next_rewind (vm : Vm) : vm.rewind.view.next = vm.view :=
  congrArg view vm.advance_rewind

/-- A row that changes bytes changes nothing else. -/
theorem exists_execute_byte {byte : Nat → UInt8}
    (h : Effect vm.rewind.view i o { vm.rewind.view.next with byte := byte }) :
    ∃ after, vm.execute i = .ok o after ∧ after.memory.byte = byte ∧
      after = { vm with memory := after.memory } := by
  obtain ⟨after, hexecute, hview⟩ := exists_execute h
  have hbyte : after.memory.byte = byte := congrArg View.byte hview
  refine ⟨after, hexecute, hbyte, view_injective ?_⟩
  rw [hview, view_next_rewind, ← hbyte]
  rfl

theorem execute_storeRegisters (h : vm.i.toNat + x.val ≤ 0xFFF) :
    ∃ after, vm.execute (.storeRegisters x) = .ok .executed after ∧
      after.memory.byte = vm.view.stored (((List.finRange 16).take (x.val + 1)).map vm.reg) ∧
      after = { vm with memory := after.memory } :=
  exists_execute_byte (.storeRegisters x (Nat.succ_le_succ h))

theorem execute_storeBcd (h : vm.i.toNat + 2 ≤ 0xFFF) :
    ∃ after, vm.execute (.storeBcd x) = .ok .executed after ∧
      after.memory.byte = vm.view.stored [vm.reg x / 100, vm.reg x / 10 % 10, vm.reg x % 10] ∧
      after = { vm with memory := after.memory } :=
  exists_execute_byte (.storeBcd x (Nat.succ_le_succ h))

theorem execute_loadRegisters (h : vm.i.toNat + x.val ≤ 0xFFF) :
    ∃ after, vm.execute (.loadRegisters x) = .ok .executed after ∧
      (∀ r ≤ x, after.reg r = vm.memory.byte (vm.i.toNat + r.val)) ∧
      (∀ r, x < r → after.reg r = vm.reg r) ∧ after = { vm with v := after.v } := by
  obtain ⟨after, hexecute, hview⟩ :=
    exists_execute (Effect.loadRegisters (s := vm.rewind.view) x (Nat.succ_le_succ h))
  have hreg : after.reg = fun r =>
      if r ≤ x then vm.memory.byte (vm.i.toNat + r.val) else vm.reg r := congrArg View.reg hview
  refine ⟨after, hexecute, fun r hr => ?_, fun r hr => ?_, view_injective ?_⟩
  · rw [hreg]
    exact if_pos hr
  · rw [hreg]
    exact if_neg (Fin.not_le.mpr hr)
  · have hrest : { vm.view with reg := after.reg } = { vm with v := after.v }.view := rfl
    rw [hview, view_next_rewind, ← hrest, hreg]
    rfl

/-! ## What is read of what was stored, and stored of what was read -/

/-- **A load finds the block** that was stored. -/
theorem load_of_stored (hstored : next.memory.byte = vm.view.stored bytes) (hi : next.i = vm.i)
    (hfits : vm.i.toNat + y.val ≤ 0xFFF) (hlength : y.val < bytes.length) :
    ∃ loaded, next.execute (.loadRegisters y) = .ok .executed loaded ∧
      (∀ r ≤ y, bytes[r.val]? = some (loaded.reg r)) ∧ (∀ r, y < r → loaded.reg r = next.reg r) ∧
      loaded = { next with v := loaded.v } := by
  obtain ⟨loaded, hexecute, hback, hothers, hrest⟩ := execute_loadRegisters (hi ▸ hfits)
  refine ⟨loaded, hexecute, fun r hr => ?_, hothers, hrest⟩
  have hk : r.val < bytes.length := Nat.lt_of_le_of_lt hr hlength
  have hget := List.getElem?_eq_getElem hk
  have hbyte : vm.view.stored bytes (vm.i.toNat + r.val) = bytes[r.val] := View.stored_add hget
  rw [hget, hback r hr, hstored, hi, hbyte]

/-- **A store of what was loaded** changes nothing. -/
theorem store_of_loaded (hfits : vm.i.toNat + x.val ≤ 0xFFF)
    (hloaded : ∀ r ≤ x, vm.reg r = vm.memory.byte (vm.i.toNat + r.val)) :
    vm.execute (.storeRegisters x) = .ok .executed vm := by
  obtain ⟨stored, hexecute, hbyte, hrest⟩ := execute_storeRegisters hfits
  have hsame : vm.view.stored (((List.finRange 16).take (x.val + 1)).map vm.reg) =
      vm.memory.byte := by
    apply View.stored_eq_byte
    intro k b hb
    obtain ⟨r, hr, rfl, rfl⟩ := View.getElem?_regsUpTo.mp hb
    exact (hloaded r hr).symm
  have hmemory : stored.memory = vm.memory :=
    Memory.ext_byte fun a _ => congrFun (hbyte.trans hsame) a
  rw [hexecute, hrest, hmemory]

theorem toNat_digits (b : UInt8) : (b / 100).toNat ≤ 9 ∧ (b / 10 % 10).toNat ≤ 9 ∧
    (b % 10).toNat ≤ 9 ∧
    100 * (b / 100).toNat + 10 * (b / 10 % 10).toNat + (b % 10).toNat = b.toNat := by
  have hb := b.toNat_lt
  simp only [UInt8.toNat_div, UInt8.toNat_mod, UInt8.reduceToNat]
  omega

/-! ## Every machine -/

/-- **Transfers between registers and memory go both ways.** Registers that were stored come back with
a load of some of them, whatever is in the registers by then; registers that were loaded are stored
without a change of memory; and the decimal digits that were stored for a register are loaded. -/
theorem transfers_round_trip :
    (∀ (vm : Vm) (x y : Register), vm.i.toNat + x.val ≤ 0xFFF → y ≤ x →
      ∃ stored, vm.execute (.storeRegisters x) = .ok .executed stored ∧
        stored = { vm with memory := stored.memory } ∧
        ∀ next : Vm, next.memory = stored.memory → next.i = vm.i →
          ∃ loaded, next.execute (.loadRegisters y) = .ok .executed loaded ∧
            (∀ r ≤ y, loaded.reg r = vm.reg r) ∧ (∀ r, y < r → loaded.reg r = next.reg r) ∧
            loaded = { next with v := loaded.v }) ∧
    (∀ (vm : Vm) (x : Register), vm.i.toNat + x.val ≤ 0xFFF →
      ∃ loaded, vm.execute (.loadRegisters x) = .ok .executed loaded ∧
        loaded = { vm with v := loaded.v } ∧
        ∀ next : Vm, next.memory = loaded.memory → next.i = vm.i →
          (∀ r ≤ x, next.reg r = loaded.reg r) →
          ∃ stored, next.execute (.storeRegisters x) = .ok .executed stored ∧
            stored.memory = vm.memory ∧ stored = next) ∧
    ∀ (vm : Vm) (x : Register), vm.i.toNat + 2 ≤ 0xFFF →
      ∃ stored, vm.execute (.storeBcd x) = .ok .executed stored ∧
        stored = { vm with memory := stored.memory } ∧
        ∀ next : Vm, next.memory = stored.memory → next.i = vm.i →
          ∃ loaded, next.execute (.loadRegisters 2) = .ok .executed loaded ∧
            (loaded.reg 0).toNat ≤ 9 ∧ (loaded.reg 1).toNat ≤ 9 ∧ (loaded.reg 2).toNat ≤ 9 ∧
            100 * (loaded.reg 0).toNat + 10 * (loaded.reg 1).toNat + (loaded.reg 2).toNat =
              (vm.reg x).toNat := by
  refine ⟨?_, ?_, ?_⟩
  · intro vm x y hfits hle
    obtain ⟨stored, hexecute, hbyte, hrest⟩ := execute_storeRegisters hfits
    refine ⟨stored, hexecute, hrest, fun next hmemory hi => ?_⟩
    have hx := x.val_lt
    have hy : y.val ≤ x.val := hle
    have hlength : y.val < (((List.finRange 16).take (x.val + 1)).map vm.reg).length := by
      rw [List.length_map, List.length_take, List.length_finRange]
      omega
    rw [← hmemory] at hbyte
    obtain ⟨loaded, hload, hback, hothers, hsame⟩ := load_of_stored hbyte hi (by omega) hlength
    refine ⟨loaded, hload, fun r hr => ?_, hothers, hsame⟩
    obtain ⟨q, -, hq, hreg⟩ := View.getElem?_regsUpTo.mp (hback r hr)
    rw [← hreg, Fin.ext hq]
  · intro vm x hfits
    obtain ⟨loaded, hexecute, hback, -, hrest⟩ := execute_loadRegisters hfits
    have hkept : loaded.memory = vm.memory := by rw [hrest]
    refine ⟨loaded, hexecute, hrest, fun next hmemory hi hregs => ⟨next, ?_, ?_, rfl⟩⟩
    · refine store_of_loaded (hi ▸ hfits) fun r hr => ?_
      rw [hregs r hr, hback r hr, hmemory, hkept, hi]
    · rw [hmemory, hkept]
  · intro vm x hfits
    obtain ⟨stored, hexecute, hbyte, hrest⟩ := execute_storeBcd hfits
    refine ⟨stored, hexecute, hrest, fun next hmemory hi => ?_⟩
    rw [← hmemory] at hbyte
    obtain ⟨loaded, hload, hback, -⟩ := load_of_stored (y := 2) hbyte hi hfits (Nat.lt_succ_self 2)
    refine ⟨loaded, hload, ?_⟩
    have hhundreds : vm.reg x / 100 = loaded.reg 0 := Option.some.inj (hback 0 (by decide))
    have htens : vm.reg x / 10 % 10 = loaded.reg 1 := Option.some.inj (hback 1 (by decide))
    have hones : vm.reg x % 10 = loaded.reg 2 := Option.some.inj (hback 2 (by decide))
    rw [← hhundreds, ← htens, ← hones]
    exact toNat_digits (vm.reg x)

/-- A machine for which the block of all registers ends with memory. -/
def atEnd : Vm := { fresh (.ofSeed 0) with i := 0xFF0, v := Vector.replicate 16 254 }

/-- The last register goes to the last byte of memory and back, and 254 has the digits 2, 5 and 4. -/
theorem transfers_round_trip_at_end :
    (∃ stored loaded, atEnd.execute (.storeRegisters 15) = .ok .executed stored ∧
      Vm.execute (.loadRegisters 15) { stored with v := zeroRegs } = .ok .executed loaded ∧
      loaded.reg 15 = 254) ∧
    (∃ loaded stored, atEnd.execute (.loadRegisters 15) = .ok .executed loaded ∧
      loaded.execute (.storeRegisters 15) = .ok .executed stored ∧
      stored.memory = atEnd.memory) ∧
    ∃ stored loaded, Vm.execute (.storeBcd 0) { atEnd with i := 0xFFD } = .ok .executed stored ∧
      stored.execute (.loadRegisters 2) = .ok .executed loaded ∧
      (loaded.reg 0).toNat = 2 ∧ (loaded.reg 1).toNat = 5 ∧ (loaded.reg 2).toNat = 4 := by
  have hreg : ∀ r, atEnd.reg r = 254 := fun r => Vector.get_constant 254 r
  have hfits : atEnd.i.toNat + (15 : Register).val ≤ 0xFFF := by decide
  obtain ⟨hstore, hload, hbcd⟩ := transfers_round_trip
  refine ⟨?_, ?_, ?_⟩
  · obtain ⟨stored, hexecute, hrest, hback⟩ := hstore atEnd 15 15 hfits (Nat.le_refl 15)
    have hi : stored.i = atEnd.i := by rw [hrest]
    obtain ⟨loaded, hloaded, hregs, -⟩ := hback { stored with v := zeroRegs } rfl hi
    exact ⟨stored, loaded, hexecute, hloaded, (hregs 15 (Nat.le_refl 15)).trans (hreg 15)⟩
  · obtain ⟨loaded, hexecute, hrest, hback⟩ := hload atEnd 15 hfits
    have hi : loaded.i = atEnd.i := by rw [hrest]
    obtain ⟨stored, hstored, hmemory, -⟩ := hback loaded rfl hi fun _ _ => rfl
    exact ⟨loaded, stored, hexecute, hstored, hmemory⟩
  · obtain ⟨stored, hexecute, hrest, hback⟩ := hbcd { atEnd with i := 0xFFD } 0 (by decide)
    have hi : stored.i = 0xFFD := by rw [hrest]
    obtain ⟨loaded, hloaded, hhundreds, htens, hones, hsum⟩ := hback stored rfl hi
    have hvalue : ({ atEnd with i := 0xFFD }.reg 0).toNat = 254 := congrArg UInt8.toNat (hreg 0)
    rw [hvalue] at hsum
    exact ⟨stored, loaded, hexecute, hloaded, by omega⟩

end Vm

end Chip8
