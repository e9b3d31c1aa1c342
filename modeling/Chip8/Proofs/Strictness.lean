import Chip8.Proofs.Hidden

/-!
# Strict machines

A strict machine faults at a word that denotes no instruction; a lax one skips the word. Nothing else
depends on the strictness, so machines that differ in it alone do the same until the lax one skips a
word, and that cycle is the first at which the strict one faults on account of a word.

* `strict_perform`: what changes the strictness;
* `Blind.of_known`, `perform_setStrict`: an operation that skips no word does not depend on it;
* `cycle_of_skips`, `skips_iff_faults`: the cycle at which a word is skipped;
* **`strict_agrees`**: the two machines up to that cycle, and at it.
-/

namespace Chip8

open Instruction (Denotes)
open View (Alike)

theorem Effect.strict_eq {s s' : View} {i : Instruction} {o : Outcome} (h : Effect s i o s') :
    s'.strict = s.strict := by
  cases h <;> rfl

namespace Vm

variable {vm vm' : Vm} {op : Operation} {ops : List Operation} {w : UInt16}

theorem strict_cycle (vm : Vm) : vm.cycle.2.strict = vm.strict := by
  by_contra hne
  obtain ⟨i, o, -, -, heffect⟩ :=
    exists_effect_of_ne (f := View.strict) (fun _ => rfl) (fun _ _ => rfl) hne
  exact hne heffect.strict_eq

/-- **Only the operation that is there for it changes the strictness.** -/
theorem strict_perform (hop : ∀ on, op ≠ .setStrict on) : (vm.perform op).2.strict = vm.strict := by
  have hperformed := vm.performed op
  generalize (vm.perform op).2 = after at hperformed ⊢
  cases hperformed with
  | cycle => exact strict_cycle vm
  | setStrict on => exact absurd rfl (hop on)
  | loaded => simp only [loaded, hardReset, softReset]
  | hardReset => simp only [hardReset, softReset]
  | _ => rfl

/-! ## Operations that skip no word -/

/-- The strictness hidden. -/
abbrev strictness : Hidden := { strict := True }

theorem alike_setStrict (vm : Vm) (on : Bool) : Alike strictness vm.view (vm.setStrict on).view :=
  ⟨fun _ _ => rfl, fun _ => rfl, fun _ => rfl, fun _ => rfl, absurd trivial, rfl⟩

theorem eq_setStrict_of_alike (h : Alike strictness vm.view vm'.view) :
    vm' = vm.setStrict vm'.strict := by
  have hdelay : vm'.delay = vm.delay := h.delay id
  have hsound : vm'.sound = vm.sound := h.sound id
  have hredraw : vm'.redraw = vm.redraw := h.redraw id
  have heq := eq_of_alike h fun _ => id
  rwa [hdelay, hsound, hredraw] at heq

theorem cycle_of_lax (hrun : vm.runState = .running) (hpc : vm.pc.toNat + 2 ≤ 4096)
    (hw : ∀ i, ¬ Denotes vm.word i) (hlax : vm.strict = false) :
    vm.cycle = (.ok (.unknownOpcode vm.word), vm.advance) :=
  (cycle_eq_ok_iff hrun).mpr ⟨hpc, .skipped hw hlax⟩

theorem Blind.of_known (hlax : vm.strict = false)
    (hknown : ∀ w, vm.cycle.1 ≠ .ok (.unknownOpcode w)) : vm.Blind strictness where
  byte := fun _ _ => id
  delay := nofun
  strict := by
    intro _ hfetches
    simp only [fetches, isRunning, Bool.and_eq_true, beq_iff_eq, decide_eq_true_eq] at hfetches
    obtain ⟨hrun, hpc⟩ := hfetches
    by_contra hw
    exact hknown vm.word (congrArg Prod.fst (cycle_of_lax hrun hpc (not_exists.mp hw) hlax))

/-- **An operation that skips no word does the same on a strict machine.** -/
theorem perform_setStrict (hlax : vm.strict = false) (hop : ∀ on, op ≠ .setStrict on)
    (hknown : ∀ w, (vm.perform op).1 ≠ .cycled (.ok (.unknownOpcode w))) :
    (vm.setStrict true).perform op = ((vm.perform op).1, (vm.perform op).2.setStrict true) := by
  have hblind : op = .cycle → vm.Blind strictness := by
    rintro rfl
    exact .of_known hlax fun w hw => hknown w (congrArg Answer.cycled hw)
  obtain ⟨hanswer, halike⟩ := perform_alike (vm.alike_setStrict true) op hblind
  have hstrict : ((vm.setStrict true).perform op).2.strict = true := strict_perform hop
  have hafter := eq_setStrict_of_alike halike
  rw [hstrict] at hafter
  exact Prod.ext (hanswer nofun) hafter

/-- Nor do operations one after the other. -/
theorem performAll_setStrict (hlax : vm.strict = false) (hops : ∀ on, .setStrict on ∉ ops)
    (hknown : ∀ w, .cycled (.ok (.unknownOpcode w)) ∉ (vm.performAll ops).1) :
    (vm.setStrict true).performAll ops =
        ((vm.performAll ops).1, (vm.performAll ops).2.setStrict true) ∧
      (vm.performAll ops).2.strict = false := by
  induction ops generalizing vm with
  | nil => exact ⟨rfl, hlax⟩
  | cons op ops ih =>
    rw [performAll_cons] at hknown
    have hop : ∀ on, op ≠ .setStrict on := fun on heq => hops on (heq ▸ List.mem_cons_self)
    have hfirst := perform_setStrict hlax hop fun w hw => hknown w (hw ▸ List.mem_cons_self)
    obtain ⟨hrest, hstill⟩ := ih ((strict_perform hop).trans hlax)
      (fun on hmem => hops on (List.mem_cons_of_mem _ hmem))
      (fun w hmem => hknown w (List.mem_cons_of_mem _ hmem))
    rw [performAll_cons, performAll_cons, hfirst, hrest]
    exact ⟨rfl, hstill⟩

/-! ## The cycle that skips a word -/

/-- **Where a lax machine skips a word, a strict one faults**, and each changes nothing else. -/
theorem cycle_of_skips (hskips : vm.cycle.1 = .ok (.unknownOpcode w)) :
    vm.runState = .running ∧ vm.cycle.2 = vm.advance ∧
      (vm.setStrict true).cycle =
        (.error (.unknownOpcode w), { vm.setStrict true with runState := .halted }) := by
  have hcycle : vm.cycle = (.ok (.unknownOpcode w), vm.cycle.2) := Prod.ext hskips rfl
  cases cycle_eq_iff.mp hcycle with
  | moved hrun hpc ht =>
    obtain ⟨rfl, hlax, hw⟩ := ht.unknownOpcode_iff.mp rfl
    exact ⟨hrun, congrArg Prod.snd (cycle_of_lax hrun hpc hw hlax),
      cycle_eq_error_iff.mpr ⟨hrun, .unknown hpc hw rfl, rfl⟩⟩

theorem skips_iff_faults (hlax : vm.strict = false) :
    vm.cycle.1 = .ok (.unknownOpcode w) ↔
      (vm.setStrict true).cycle.1 = .error (.unknownOpcode w) := by
  constructor
  · intro hskips
    rw [(cycle_of_skips hskips).2.2]
  · intro hfaults
    obtain ⟨hrun, hf, -⟩ := cycle_eq_error_iff.mp (Prod.ext hfaults rfl)
    cases hf with
    | raised _ _ hr => cases hr
    | unknown hpc hw _ =>
      have hrun' : vm.runState = .running := hrun
      exact congrArg Prod.fst (cycle_of_lax hrun' hpc hw hlax)

/-- A lax machine never faults on account of a word. -/
theorem lax_never_faults (hlax : vm.strict = false) (hops : ∀ on, .setStrict on ∉ ops) :
    .cycled (.error (.unknownOpcode w)) ∉ (vm.performAll ops).1 := by
  induction ops generalizing vm with
  | nil => exact List.not_mem_nil
  | cons op ops ih =>
    have hop : ∀ on, op ≠ .setStrict on := fun on heq => hops on (heq ▸ List.mem_cons_self)
    have hrest := ih ((strict_perform hop).trans hlax) fun on hmem =>
      hops on (List.mem_cons_of_mem _ hmem)
    rw [performAll_cons, List.mem_cons, not_or]
    refine ⟨fun hfirst => ?_, hrest⟩
    cases op with
    | cycle =>
      have hfaults : vm.cycle.1 = .error (.unknownOpcode w) := (Answer.cycled.inj hfirst).symm
      obtain ⟨-, hf, -⟩ := cycle_eq_error_iff.mp (Prod.ext hfaults rfl)
      cases hf with
      | raised _ _ hr => cases hr
      | unknown _ _ hstrict => rw [hlax] at hstrict; cases hstrict
    | _ => cases hfirst

/-- **Strict and lax machines agree until a word is skipped.** As long as the lax machine has skipped
no word, all answers are the same and the machines differ in the strictness alone. At the next cycle
the strict machine faults on account of a word if and only if the lax one skips that word. Then the
strict one halts where it is, and the lax one goes on behind the word; nothing else changes. -/
theorem strict_agrees (vm : Vm) (hops : ∀ on, .setStrict on ∉ ops)
    (hknown : ∀ w, .cycled (.ok (.unknownOpcode w)) ∉ ((vm.setStrict false).performAll ops).1) :
    let lax := (vm.setStrict false).performAll ops
    let strict := (vm.setStrict true).performAll ops
    (strict.1 = lax.1 ∧ strict.2 = lax.2.setStrict true ∧ lax.2 = lax.2.setStrict false) ∧
    (∀ w, .cycled (.error (.unknownOpcode w)) ∉ strict.1) ∧
    ∀ w, (lax.2.cycle.1 = .ok (.unknownOpcode w) ↔
        strict.2.cycle.1 = .error (.unknownOpcode w)) ∧
      (lax.2.cycle.1 = .ok (.unknownOpcode w) →
        strict.2.cycle.2 = { strict.2 with runState := .halted } ∧
          lax.2.cycle.2 = { lax.2 with pc := lax.2.pc + 2 } ∧ lax.2.cycle.2.runState = .running) := by
  intro lax strict
  obtain ⟨hsame, hlax⟩ := performAll_setStrict rfl hops hknown
  change strict = (lax.1, lax.2.setStrict true) at hsame
  have heq : lax.2 = lax.2.setStrict false := by rw [← hlax, setStrict]
  refine ⟨⟨?_, ?_, heq⟩, fun w => ?_, fun w => ⟨?_, fun hskips => ?_⟩⟩
  · rw [hsame]
  · rw [hsame]
  · rw [hsame]
    exact lax_never_faults rfl hops
  · rw [hsame]
    exact skips_iff_faults hlax
  · obtain ⟨hrun, hbehind, hfault⟩ := cycle_of_skips hskips
    rw [hsame, hfault, hbehind]
    exact ⟨rfl, rfl, hrun⟩

/-- Executes an instruction before a word that denotes none. -/
def stumbling : Vm := booted (.ofSeed 0) [0x60, 0x05, 0xFF, 0xFF]

theorem strict_agrees_stumbling :
    ((stumbling.setStrict true).performAll [.cycle]).1 =
        ((stumbling.setStrict false).performAll [.cycle]).1 ∧
      ((stumbling.setStrict false).performAll [.cycle]).2.cycle.1 = .ok (.unknownOpcode 0xFFFF) ∧
      ((stumbling.setStrict true).performAll [.cycle]).2.cycle.1 =
        .error (.unknownOpcode 0xFFFF) ∧
      ((stumbling.setStrict false).performAll [.cycle]).2.cycle.2.runState = .running := by
  have hops : ∀ on, .setStrict on ∉ [Operation.cycle] := by simp
  have hexecuted : (stumbling.setStrict false).cycle.1 = .ok .executed := by decide +kernel
  have hknown : ∀ w, .cycled (.ok (.unknownOpcode w)) ∉
      ((stumbling.setStrict false).performAll [.cycle]).1 := by
    intro w
    rewrite [performAll_cons, performAll_nil, perform, Prod.map_fst, hexecuted]
    simp
  have hskips : ((stumbling.setStrict false).performAll [.cycle]).2.cycle.1 =
      .ok (.unknownOpcode 0xFFFF) := by decide +kernel
  obtain ⟨⟨hsame, -, -⟩, -, hnext⟩ := strict_agrees stumbling hops hknown
  obtain ⟨hiff, hafter⟩ := hnext 0xFFFF
  exact ⟨hsame, hskips, hiff.mp hskips, (hafter hskips).2.2⟩

end Vm

end Chip8
