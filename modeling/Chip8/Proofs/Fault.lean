import Chip8.Proofs.Cycle

/-!
# Faults

A cycle either takes place as a whole or leaves the machine as it was, halted.

* **`fault_keeps_state`**: a fault changes the run state and nothing else;
* **`cycle_faults_iff`**: which states fault, and with which fault.
-/

namespace Chip8.Vm

open Instruction (Denotes)

/-- **A fault changes nothing but the run state.** The program counter that moved past the word is
back at it, and no instruction that faults has changed anything before. -/
theorem fault_keeps_state {vm vm' : Vm} {f : Fault} (h : vm.cycle = (.error f, vm')) :
    vm' = { vm with runState := .halted } :=
  (cycle_eq_error_iff.mp h).2.2

/-- About to store the digits of a register from an index at which only two of them fit. -/
def storingPastEnd : Vm :=
  { fresh (.ofSeed 0) with
    memory := Memory.initial.storeAll 0x200 [0xF1, 0x33]
    i := 0xFFE
    runState := .running }

theorem storingPastEnd_faults : Faults storingPastEnd (.addressOutOfRange 4096) := by
  have hw : storingPastEnd.word = wordXNN 0xF 1 0x33 := by decide +kernel
  have hd : Denotes storingPastEnd.word (.storeBcd 1) := by
    rw [hw]
    exact .storeBcd 1
  exact .raised (by decide) hd (.storeBcd 1 (by decide))

theorem fault_keeps_state_past_end :
    storingPastEnd.cycle.1 = .error (.addressOutOfRange 4096) ∧
      storingPastEnd.cycle.2 = { storingPastEnd with runState := .halted } := by
  have h : storingPastEnd.cycle = (.error (.addressOutOfRange 4096), storingPastEnd.cycle.2) := by
    rw [cycle_eq_error_iff.mpr ⟨rfl, storingPastEnd_faults, rfl⟩]
  exact ⟨congrArg Prod.fst h, fault_keeps_state h⟩

/-- **Which states fault.** A running machine faults where its next word lies outside memory; at a
return without a call and at a call too many; where a sprite, digits or registers would be taken from
or put outside memory; and, if it is strict, at a word that denotes nothing. No cycle names a pixel or
a key that does not exist. -/
theorem cycle_faults_iff (vm : Vm) :
    (∀ f, vm.cycle.1 = .error f ↔ vm.runState = .running ∧ Faults vm f) ∧
      (∀ x y, vm.cycle.1 ≠ .error (.pixelOutOfRange x y)) ∧
      ∀ key, vm.cycle.1 ≠ .error (.keyOutOfRange key) := by
  have hiff : ∀ f, vm.cycle.1 = .error f ↔ vm.runState = .running ∧ Faults vm f := by
    intro f
    constructor
    · intro h
      have hc : vm.cycle = (.error f, vm.cycle.2) := Prod.ext h rfl
      obtain ⟨hrun, hf, -⟩ := cycle_eq_error_iff.mp hc
      exact ⟨hrun, hf⟩
    · rintro ⟨hrun, hf⟩
      rw [cycle_eq_error_iff.mpr ⟨hrun, hf, rfl⟩]
  refine ⟨hiff, ?_, ?_⟩
  · intro x y h
    obtain ⟨-, hf⟩ := (hiff _).mp h
    cases hf with
    | raised _ _ hr => cases hr
  · intro key h
    obtain ⟨-, hf⟩ := (hiff _).mp h
    cases hf with
    | raised _ _ hr => cases hr

end Chip8.Vm
