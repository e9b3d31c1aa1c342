import Chip8.Proofs.Decode
import Chip8.Vm.Cycle

/-!
# What a cycle can do

A cycle of a running machine proceeds or faults; what it does is settled by the word at the program
counter. Here it is said once which words fault and what is left of the machine then.

* `word`, `fetch_eq_ok`, `fetch_eq_error`: the word at the program counter;
* `Raises`, `execute_eq_error`: an instruction faults on account of the depth of the stack or of the
  index, and leaves the machine as it is;
* **`Faults`**, `Proceeds`: the causes of a fault of a cycle, and the ways to proceed;
* **`cycle_eq_ok_iff`**, **`cycle_eq_error_iff`**: a cycle taken apart.
-/

namespace Chip8.Vm

open Instruction (Denotes)

variable {vm vm' : Vm} {i : Instruction} {f : Fault} {o : Outcome} {w : UInt16}

/-! ## Fetching -/

/-- The word at the program counter, high byte first. -/
def word (vm : Vm) : UInt16 :=
  wordOfBytes (vm.memory.byte vm.pc.toNat) (vm.memory.byte (vm.pc.toNat + 1))

theorem fetch_eq_ok : vm.fetch = .ok w ↔ vm.pc.toNat + 2 ≤ memorySize ∧ w = vm.word := by
  unfold fetch Memory.checkBlock word
  split <;> simp [Except.map, *, eq_comm]

theorem fetch_eq_error :
    vm.fetch = .error f ↔ memorySize < vm.pc.toNat + 2 ∧
      f = .addressOutOfRange (max memorySize vm.pc.toNat) := by
  unfold fetch Memory.checkBlock
  split
  · simp [Except.map]
    omega
  · simp [Except.map, eq_comm]
    omega

/-! ## Faults of instructions -/

/-- **An instruction raises a fault** at a depth of the stack and an index. -/
inductive Raises (depth : Nat) (index : UInt16) : Instruction → Fault → Prop
  | ret (h : depth = 0) : Raises depth index .ret .stackUnderflow
  | call (nnn : Address) (h : depth = 16) : Raises depth index (.call nnn) .stackOverflow
  | draw (x y : Register) (n : Fin 16) (h : 4096 < index.toNat + n.val) :
    Raises depth index (.draw x y n) (.addressOutOfRange (max 4096 index.toNat))
  | storeBcd (x : Register) (h : 4096 < index.toNat + 3) :
    Raises depth index (.storeBcd x) (.addressOutOfRange (max 4096 index.toNat))
  | storeRegisters (x : Register) (h : 4096 < index.toNat + (x.val + 1)) :
    Raises depth index (.storeRegisters x) (.addressOutOfRange (max 4096 index.toNat))
  | loadRegisters (x : Register) (h : 4096 < index.toNat + (x.val + 1)) :
    Raises depth index (.loadRegisters x) (.addressOutOfRange (max 4096 index.toNat))

theorem length_decimalDigits (b : UInt8) : (decimalDigits b).length = 3 := rfl

theorem waitForKey_of_none (h : vm.keypad.firstPressed = none) (x : Register) :
    vm.waitForKey x = .ok .waitingForKey vm.rewind := by
  rw [waitForKey, h]

/-- The key that is released exists, so releasing it does not fault. -/
theorem waitForKey_of_some {key : Fin 16} (h : vm.keypad.firstPressed = some key) (x : Register) :
    vm.waitForKey x = done { vm.setReg x (UInt8.ofNat key.val) with
      keypad := vm.keypad.set key false } := by
  rw [waitForKey, h]
  exact congrArg (fun answer => attempt _ answer _) (Keypad.setPressed_ofNat _ _ _)

theorem waitForKey_ne_error (x : Register) : vm.waitForKey x ≠ .error f vm' := by
  cases h : vm.keypad.firstPressed with
  | none => rw [waitForKey_of_none h]; nofun
  | some key => rw [waitForKey_of_some h]; nofun

/-- **An instruction that faults leaves the machine as it is.** Every check comes before the first
change. -/
theorem execute_eq_error :
    vm.execute i = .error f vm' ↔ Raises vm.stack.depth vm.i i f ∧ vm' = vm := by
  constructor
  · intro h
    cases i with
    | ret =>
      obtain ⟨hp, rfl⟩ := attempt_eq_error.mp h
      obtain ⟨hd, rfl⟩ := CallStack.pop_eq_error.mp hp
      exact ⟨.ret hd, rfl⟩
    | call nnn =>
      obtain ⟨hp, rfl⟩ := attempt_eq_error.mp h
      obtain ⟨hd, rfl⟩ := CallStack.push_eq_error.mp hp
      exact ⟨.call nnn hd, rfl⟩
    | draw x y n =>
      obtain ⟨hr, rfl⟩ := attempt_eq_error.mp h
      obtain ⟨hi, rfl⟩ := Memory.readBlock_eq_error.mp hr
      exact ⟨.draw x y n hi, rfl⟩
    | storeBcd x =>
      obtain ⟨hw, rfl⟩ := attempt_eq_error.mp h
      obtain ⟨hi, rfl⟩ := Memory.writeBlock_eq_error.mp hw
      exact ⟨.storeBcd x hi, rfl⟩
    | storeRegisters x =>
      obtain ⟨hw, rfl⟩ := attempt_eq_error.mp h
      obtain ⟨hi, rfl⟩ := Memory.writeBlock_eq_error.mp hw
      rw [length_regsUpTo] at hi
      exact ⟨.storeRegisters x hi, rfl⟩
    | loadRegisters x =>
      obtain ⟨hr, rfl⟩ := attempt_eq_error.mp h
      obtain ⟨hi, rfl⟩ := Memory.readBlock_eq_error.mp hr
      exact ⟨.loadRegisters x hi, rfl⟩
    | waitForKey x => exact absurd h (waitForKey_ne_error x)
    | _ => exact absurd h done_ne_error
  · rintro ⟨h, rfl⟩
    cases h with
    | ret hd =>
      have hp := CallStack.pop_eq_error.mpr ⟨hd, rfl⟩
      exact attempt_eq_error.mpr ⟨hp, rfl⟩
    | call nnn hd =>
      have hp : vm'.stack.push vm'.pc = .error .stackOverflow :=
        CallStack.push_eq_error.mpr ⟨hd, rfl⟩
      exact attempt_eq_error.mpr ⟨hp, rfl⟩
    | draw x y n hi | loadRegisters x hi =>
      have hr := (Memory.readBlock_eq_error (m := vm'.memory)).mpr ⟨hi, rfl⟩
      exact attempt_eq_error.mpr ⟨hr, rfl⟩
    | storeBcd x hi =>
      rw [← length_decimalDigits (vm'.reg x)] at hi
      have hw := (Memory.writeBlock_eq_error (m := vm'.memory)).mpr ⟨hi, rfl⟩
      exact attempt_eq_error.mpr ⟨hw, rfl⟩
    | storeRegisters x hi =>
      rw [← length_regsUpTo vm' x] at hi
      have hw := (Memory.writeBlock_eq_error (m := vm'.memory)).mpr ⟨hi, rfl⟩
      exact attempt_eq_error.mpr ⟨hw, rfl⟩

/-! ## A cycle taken apart -/

/-- **The causes of a fault of a cycle.** -/
inductive Faults (vm : Vm) : Fault → Prop
  /-- The word at the program counter does not lie in memory. -/
  | fetch (hpc : 4096 < vm.pc.toNat + 2) : Faults vm (.addressOutOfRange (max 4096 vm.pc.toNat))
  /-- It denotes an instruction that faults. -/
  | raised {i : Instruction} {f : Fault} (hpc : vm.pc.toNat + 2 ≤ 4096) (hw : Denotes vm.word i)
    (hf : Raises vm.stack.depth vm.i i f) : Faults vm f
  /-- It denotes no instruction, and such words are not skipped. -/
  | unknown (hpc : vm.pc.toNat + 2 ≤ 4096) (hw : ∀ i, ¬ Denotes vm.word i) (hs : vm.strict = true) :
    Faults vm (.unknownOpcode vm.word)

/-- **The ways to proceed.** -/
inductive Proceeds (vm : Vm) : Outcome → Vm → Prop
  /-- The word at the program counter denotes an instruction, which is executed. -/
  | executed {i : Instruction} {o : Outcome} {vm' : Vm} (hw : Denotes vm.word i)
    (he : vm.advance.execute i = .ok o vm') : Proceeds vm o vm'
  /-- It denotes no instruction and is skipped. -/
  | skipped (hw : ∀ i, ¬ Denotes vm.word i) (hs : vm.strict = false) :
    Proceeds vm (.unknownOpcode vm.word) vm.advance

theorem step_of_denotes (hpc : vm.pc.toNat + 2 ≤ memorySize) (hw : Denotes vm.word i) :
    vm.step = vm.advance.execute i := by
  rw [step, fetch_eq_ok.mpr ⟨hpc, rfl⟩]
  simp only [Instruction.decode_of_denotes hw]

theorem step_of_unknown (hpc : vm.pc.toNat + 2 ≤ memorySize) (hw : ∀ i, ¬ Denotes vm.word i) :
    vm.step = if vm.strict then .error (.unknownOpcode vm.word) vm.advance
      else .ok (.unknownOpcode vm.word) vm.advance := by
  rw [step, fetch_eq_ok.mpr ⟨hpc, rfl⟩]
  simp only [Instruction.decode_eq_none_iff.mpr hw]

theorem step_of_outside (hpc : memorySize < vm.pc.toNat + 2) :
    vm.step = .error (.addressOutOfRange (max 4096 vm.pc.toNat)) vm := by
  rw [step, fetch_eq_error.mpr ⟨hpc, rfl⟩]

theorem step_eq_ok : vm.step = .ok o vm' ↔ vm.pc.toNat + 2 ≤ memorySize ∧ Proceeds vm o vm' := by
  constructor
  · intro h
    by_cases hpc : vm.pc.toNat + 2 ≤ memorySize
    · refine ⟨hpc, ?_⟩
      by_cases hw : ∃ i, Denotes vm.word i
      · obtain ⟨i, hi⟩ := hw
        rw [step_of_denotes hpc hi] at h
        exact .executed hi h
      · rw [step_of_unknown hpc (not_exists.mp hw)] at h
        cases hs : vm.strict with
        | true => rw [hs] at h; cases h
        | false => rw [hs] at h; cases h; exact .skipped (not_exists.mp hw) hs
    · rw [step_of_outside (Nat.lt_of_not_le hpc)] at h
      cases h
  · rintro ⟨hpc, h⟩
    cases h with
    | executed hw he => rw [step_of_denotes hpc hw, he]
    | skipped hw hs => rw [step_of_unknown hpc hw, hs]; rfl

/-- Whatever part of the cycle faults, only the program counter may have moved by then. -/
theorem haltAt_of_step_error (h : vm.step = .error f vm') :
    Faults vm f ∧ vm'.haltAt vm.pc = { vm with runState := .halted } := by
  by_cases hpc : vm.pc.toNat + 2 ≤ memorySize
  · by_cases hw : ∃ i, Denotes vm.word i
    · obtain ⟨i, hi⟩ := hw
      rw [step_of_denotes hpc hi] at h
      obtain ⟨hf, rfl⟩ := execute_eq_error.mp h
      exact ⟨.raised hpc hi hf, rfl⟩
    · rw [step_of_unknown hpc (not_exists.mp hw)] at h
      cases hs : vm.strict with
      | true =>
        rw [hs] at h
        cases h
        exact ⟨.unknown hpc (not_exists.mp hw) hs, by rw [haltAt, advance, hs]⟩
      | false => rw [hs] at h; cases h
  · rw [step_of_outside (Nat.lt_of_not_le hpc)] at h
    cases h
    exact ⟨.fetch (Nat.lt_of_not_le hpc), rfl⟩

theorem step_error_of_faults (h : Faults vm f) : ∃ s, vm.step = .error f s := by
  cases h with
  | fetch hpc => exact ⟨_, step_of_outside hpc⟩
  | raised hpc hw hf =>
    rw [step_of_denotes hpc hw]
    exact ⟨_, execute_eq_error.mpr ⟨hf, rfl⟩⟩
  | unknown hpc hw hs =>
    rw [step_of_unknown hpc hw, hs]
    exact ⟨_, rfl⟩

theorem cycle_of_running (hrun : vm.runState = .running) :
    vm.cycle = match vm.step with
      | .ok o s => (.ok o, s)
      | .error f s => (.error f, s.haltAt vm.pc) := by
  cases hs : vm.step <;> simp only [cycle, hrun, hs]

/-- **A cycle that proceeds.** -/
theorem cycle_eq_ok_iff (hrun : vm.runState = .running) :
    vm.cycle = (.ok o, vm') ↔ vm.pc.toNat + 2 ≤ memorySize ∧ Proceeds vm o vm' := by
  rw [← step_eq_ok, cycle_of_running hrun]
  cases vm.step with
  | ok o' s => simp
  | error f' s => simp

/-- **A cycle that faults.** -/
theorem cycle_eq_error_iff :
    vm.cycle = (.error f, vm') ↔
      vm.runState = .running ∧ Faults vm f ∧ vm' = { vm with runState := .halted } := by
  cases hrun : vm.runState with
  | halted => simp [cycle_of_halted hrun]
  | running =>
    rw [cycle_of_running hrun]
    constructor
    · intro h
      cases hs : vm.step with
      | ok o s => rw [hs] at h; cases h
      | error f' s =>
        rw [hs] at h
        cases h
        obtain ⟨hf, hh⟩ := haltAt_of_step_error hs
        exact ⟨rfl, hf, hh⟩
    · rintro ⟨-, hf, rfl⟩
      obtain ⟨s, hs⟩ := step_error_of_faults hf
      rw [hs]
      exact Prod.ext rfl (haltAt_of_step_error hs).2

end Chip8.Vm
