import Chip8.Proofs.Calls

/-!
# The range of the program counter

A cycle fetches only inside memory, so a call saves an address of at most 4096, and the program
counter gets no further than the last address plus a byte. The two bounds hold together: a return
takes the program counter from the call stack, and a call puts it there. Within them no sum or
difference on the program counter leaves the 16 bits that hold it.

* **`InRange`**: the bounds, kept by each operation (`InRange.perform`) and so by runs;
* `Effect.pc_cases`: where instructions go on;
* `toNat_pc_advance`, `toNat_pc_skipIf`, `toNat_pc_rewind`: the moves in range, in natural numbers;
* `cycleLog_of_skipped`: what is logged of a word that is skipped;
* **`pc_in_range`**: the range in every run from a fresh machine, and that nothing wraps.
-/

namespace Chip8

variable {s s' : View} {i : Instruction} {o : Outcome}

/-- **Where instructions go on.** -/
theorem Effect.pc_cases (h : Effect s i o s') :
    (s'.pc = s.pc ∨ s'.pc = s.pc + 2 ∨ s'.pc = s.pc + 4) ∨ s'.pc ∈ s.frames ∨
      ∃ (nnn : Address) (b : UInt8), s'.pc = UInt16.ofNat (nnn.val + b.toNat) := by
  have hskip (p : Prop) [Decidable p] : (s.skip p).pc = s.pc + 2 ∨ (s.skip p).pc = s.pc + 4 := by
    by_cases hp : p
    · exact .inr (if_pos hp)
    · exact .inl (if_neg hp)
  cases h with
  | jump nnn | call nnn => exact .inr (.inr ⟨nnn, 0, rfl⟩)
  | jumpOffset nnn => exact .inr (.inr ⟨nnn, s.reg 0, rfl⟩)
  | ret hback =>
    rw [hback]
    exact .inr (.inl List.mem_cons_self)
  | waitForKey x hnone => exact .inl (.inl rfl)
  | skipIfEqual | skipIfNotEqual | skipIfRegistersEqual | skipIfRegistersNotEqual
  | skipIfKeyPressed | skipIfKeyNotPressed => exact .inl (.inr (hskip _))
  | _ => exact .inl (.inr (.inl rfl))

namespace Vm

variable {vm vm' : Vm} {op : Operation}

/-- **The program counter and the saved ones are in range.** The first bound is the last address and
the largest byte together, which only a jump with an offset reaches. -/
structure InRange (vm : Vm) : Prop where
  pc_le : vm.pc.toNat ≤ 0x10FE
  frames : ∀ a ∈ vm.stack.frames, 2 ≤ a.toNat ∧ a.toNat ≤ 0x1000

/-! ## The moves in range -/

theorem toNat_pc_advance (h : vm.pc.toNat ≤ 0x10FE) : vm.advance.pc.toNat = vm.pc.toNat + 2 := by
  show (vm.pc + 2).toNat = _
  rw [UInt16.toNat_add]
  exact Nat.mod_eq_of_lt (show vm.pc.toNat + 2 < 65536 by omega)

theorem toNat_pc_skipIf (h : vm.pc.toNat ≤ 0x10FE) (condition : Bool) :
    (vm.advance.skipIf condition).pc.toNat = vm.pc.toNat + if condition then 4 else 2 := by
  have hadvance := toNat_pc_advance h
  cases condition with
  | false => exact hadvance
  | true =>
    show (vm.advance.pc + 2).toNat = _
    rw [UInt16.toNat_add, hadvance]
    exact Nat.mod_eq_of_lt (show vm.pc.toNat + 4 < 65536 by omega)

theorem toNat_pc_rewind (h : vm.pc.toNat ≤ 0x10FE) :
    2 ≤ vm.advance.pc.toNat ∧ vm.advance.rewind.pc.toNat = vm.advance.pc.toNat - 2 := by
  have hadvance := toNat_pc_advance h
  have hback : vm.advance.rewind.pc = vm.pc := UInt16.add_sub_cancel vm.pc 2
  rw [hback, hadvance]
  omega

theorem toNat_address_add (nnn : Address) (b : UInt8) :
    (UInt16.ofNat (nnn.val + b.toNat)).toNat = nnn.val + b.toNat := by
  have := nnn.isLt
  have := b.toNat_lt
  rw [UInt16.toNat_ofNat']
  exact Nat.mod_eq_of_lt (by omega)

/-! ## One step -/

theorem InRange.of_empty (hpc : vm.pc = programStart) (hstack : vm.stack = .empty) :
    InRange vm where
  pc_le := by
    rw [hpc]
    decide
  frames a ha := by
    rw [hstack] at ha
    exact absurd ha List.not_mem_nil

theorem inRange_fresh (random : RandomSource) : InRange (fresh random) := .of_empty rfl rfl

/-- The word of a transition lies in memory, so the program counter is two below the end of it. -/
theorem InRange.pc_le_of_transition {w : UInt16} {o : Outcome} (h : InRange vm)
    (hpc : vm.pc.toNat + 2 ≤ 4096) (ht : Transition vm.view w o vm'.view) :
    vm'.pc.toNat ≤ 0x10FE := by
  have hnext : vm.advance.pc.toNat = vm.pc.toNat + 2 := toNat_pc_advance h.pc_le
  generalize hafter : vm'.view = s at ht
  have hto : vm'.pc = s.pc := congrArg View.pc hafter
  rw [hto]
  cases ht with
  | unknown hw hstrict =>
    show vm.advance.pc.toNat ≤ _
    omega
  | row hw he =>
    rcases he.pc_cases with (hsame | hone | htwo) | hreturn | ⟨nnn, b, hjump⟩
    · rw [hsame]
      exact h.pc_le
    · rw [hone]
      show vm.advance.pc.toNat ≤ _
      omega
    · have hskip := toNat_pc_skipIf h.pc_le true
      have hpc' : (vm.advance.skipIf true).pc = s.pc := by
        rw [htwo]
        exact UInt16.add_assoc vm.pc 2 2
      rw [hpc', if_pos rfl] at hskip
      omega
    · have := (h.frames _ hreturn).2
      omega
    · rw [hjump, toNat_address_add]
      have := nnn.isLt
      have := b.toNat_lt
      omega

theorem InRange.cycle (h : InRange vm) : InRange vm.cycle.2 where
  pc_le := by
    rcases hcycle : vm.cycle with ⟨answer, after⟩
    cases cycle_eq_iff.mp hcycle with
    | idle hrun => exact h.pc_le
    | faulted hrun hfault => exact h.pc_le
    | moved hrun hpc ht => exact h.pc_le_of_transition hpc ht
  frames := by
    intro a ha
    rcases vm.cycleCalls_cases with ⟨-, hpc, hpush⟩ | ⟨-, hpop⟩ | ⟨-, hstack⟩
    · rw [hpush] at ha
      rcases List.mem_cons.mp ha with rfl | hold
      · have hsaved : (vm.pc + 2).toNat = vm.pc.toNat + 2 := toNat_pc_advance h.pc_le
        omega
      · exact h.frames a hold
    · apply h.frames
      rw [hpop]
      exact List.mem_cons_of_mem _ ha
    · exact h.frames a (hstack ▸ ha)

theorem InRange.perform (h : InRange vm) (op : Operation) : InRange (vm.perform op).2 := by
  by_cases hcycle : op = .cycle
  · subst hcycle
    exact h.cycle
  · have hcontrol := control_perform vm hcycle
    cases hrestart : vm.restarts op with
    | true =>
      rw [hrestart, if_pos rfl] at hcontrol
      obtain ⟨hpc, hstack⟩ := Prod.mk.inj hcontrol
      exact .of_empty hpc hstack
    | false =>
      rw [hrestart, if_neg Bool.false_ne_true] at hcontrol
      obtain ⟨hpc, hstack⟩ := Prod.mk.inj hcontrol
      exact ⟨hpc ▸ h.pc_le, hstack ▸ h.frames⟩

/-! ## Runs -/

theorem InRange.performAll (h : InRange vm) (ops : List Operation) :
    InRange (vm.performAll ops).2 := by
  induction ops generalizing vm with
  | nil => exact h
  | cons op ops ih =>
    rw [performAll_cons]
    exact ih (h.perform op)

/-- A word that is skipped is logged with the address that it was fetched from. -/
theorem cycleLog_of_skipped {w : UInt16} (h : vm.cycle.1 = .ok (.unknownOpcode w)) :
    w = vm.word ∧ vm.cycleLog = [.skippedWord vm.word vm.pc] := by
  rcases hcycle : vm.cycle with ⟨answer, after⟩
  rw [hcycle] at h
  subst h
  cases cycle_eq_iff.mp hcycle with
  | moved hrun hpc ht =>
    generalize after.view = s at ht
    cases ht with
    | row hw he => cases he
    | unknown hw hstrict =>
      have hstrict : vm.strict = false := hstrict
      have hback : vm.advance.rewind.pc = vm.pc := congrArg View.pc vm.view_rewind_advance
      have hstep : vm.step = .ok (.unknownOpcode vm.word) vm.advance := by
        rw [step_of_unknown hpc hw, hstrict]
        rfl
      refine ⟨rfl, ?_⟩
      simp only [cycleLog, hrun, hstep, stepLog, fetch_eq_ok.mpr ⟨hpc, rfl⟩,
        Instruction.decode_eq_none_iff.mpr hw, hstrict, hback]
      rfl

/-- A cycle that waits for a key leaves the program counter on the instruction that waits. -/
theorem pc_of_waiting (h : vm.cycle.1 = .ok .waitingForKey) : vm.cycle.2.pc = vm.pc := by
  rcases hcycle : vm.cycle with ⟨answer, after⟩
  rw [hcycle] at h
  subst h
  cases cycle_eq_iff.mp hcycle with
  | moved hrun hpc ht =>
    generalize hafter : after.view = s at ht
    have hto : after.pc = s.pc := congrArg View.pc hafter
    cases ht with
    | row hw he =>
      cases he with
      | waitForKey x hnone => exact hto

theorem toNat_pc_jumpOffset (nnn : Address)
    (h : vm.advance.execute (.jumpOffset nnn) = .ok .executed vm') :
    vm'.pc.toNat = nnn.val + (vm.reg 0).toNat := by
  have hpc : vm'.pc = UInt16.ofNat (nnn.val + (vm.reg 0).toNat) := by
    have heffect := execute_eq_ok_iff_effect.mp h
    generalize hafter : vm'.view = s at heffect
    cases heffect with
    | jumpOffset => exact congrArg View.pc hafter
  rw [hpc, toNat_address_add]

/-- **The program counter stays in range**, and so do the saved ones, in every run from a fresh
machine. Neither the fetch, nor a skip, a jump with an offset or a wait for a key wraps around, and
the address that is logged of a skipped word is the one it was fetched from. -/
theorem pc_in_range (random : RandomSource) (ops : List Operation) :
    let vm := ((fresh random).performAll ops).2
    (vm.pc.toNat ≤ 0x10FE ∧ ∀ a ∈ vm.stack.frames, 2 ≤ a.toNat ∧ a.toNat ≤ 0x1000) ∧
    vm.advance.pc.toNat = vm.pc.toNat + 2 ∧
    (∀ condition, (vm.advance.skipIf condition).pc.toNat =
      vm.pc.toNat + if condition then 4 else 2) ∧
    (∀ nnn vm', vm.advance.execute (.jumpOffset nnn) = .ok .executed vm' →
      vm'.pc.toNat = nnn.val + (vm.reg 0).toNat) ∧
    (2 ≤ vm.advance.pc.toNat ∧ vm.advance.rewind.pc.toNat = vm.advance.pc.toNat - 2 ∧
      (vm.cycle.1 = .ok .waitingForKey → vm.cycle.2.pc = vm.pc)) ∧
    (∀ w, vm.cycle.1 = .ok (.unknownOpcode w) →
      w = vm.word ∧ vm.cycleLog = [.skippedWord vm.word vm.pc]) := by
  intro vm
  have hrange : InRange vm := (inRange_fresh random).performAll ops
  obtain ⟨htwo, hback⟩ := toNat_pc_rewind hrange.pc_le
  refine ⟨⟨hrange.pc_le, hrange.frames⟩, toNat_pc_advance hrange.pc_le, ?_, ?_, ?_, ?_⟩
  · intro condition
    exact toNat_pc_skipIf hrange.pc_le condition
  · intro nnn vm' hjump
    exact toNat_pc_jumpOffset nnn hjump
  · exact ⟨htwo, hback, pc_of_waiting⟩
  · intro w hskipped
    exact cycleLog_of_skipped hskipped

-- The bound is attained, and the next fetch faults there.
example : ((booted (.ofSeed 0) [0x60, 0xFF, 0xBF, 0xFF]).performAll [.cycle, .cycle, .cycle]).2.pc =
    0x10FE := by decide +kernel

end Vm

end Chip8
