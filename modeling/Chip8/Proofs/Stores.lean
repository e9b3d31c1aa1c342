import Chip8.Proofs.Timers

/-!
# Where instructions store

Two instructions store bytes, each in a block that starts at the index and ends inside memory, and
nothing else that a cycle does changes a byte. So the font, once it is in its place, stays there until
one of them is executed with an index that lies in it.

* `Instruction.storedSpan`, `Effect.byte_ne`: the block that an instruction stores;
* `effect_of_executing`, **`byte_cycle_ne`**: the cycle of an instruction, and the bytes it changes;
* **`Memory.HasFont`**, `hasFont_perform`, `hasFont_performAll`: the font stays;
* `readBlock_of_fontSprite`: the index points to the glyph of a digit;
* **`stores_stay_in_block`**.
-/

namespace Chip8

open Instruction (Denotes)

/-! ## One instruction -/

/-- **The block that an instruction stores**: how far it goes on behind the index. -/
def Instruction.storedSpan : Instruction → Option Nat
  | .storeBcd _ => some 2
  | .storeRegisters x => some x.val
  | _ => none

theorem View.stored_ne {s : View} {bytes : List UInt8} {a : Nat} (h : s.stored bytes a ≠ s.byte a) :
    s.i.toNat ≤ a ∧ a < s.i.toNat + bytes.length := by
  rw [stored] at h
  by_cases hlow : a < s.i.toNat
  · rw [if_pos hlow] at h
    exact absurd rfl h
  · rw [if_neg hlow] at h
    by_cases hhigh : a - s.i.toNat < bytes.length
    · omega
    · rw [List.getElem?_eq_none (Nat.le_of_not_lt hhigh), Option.getD_none] at h
      exact absurd rfl h

/-- **Bytes that an instruction changes** lie in the block that it stores, which ends in memory. -/
theorem Effect.byte_ne {s s' : View} {i : Instruction} {o : Outcome} {a : Nat}
    (h : Effect s i o s') (hne : s'.byte a ≠ s.byte a) : o = .executed ∧ ∃ n, i.storedSpan = some n ∧
      s.i.toNat ≤ a ∧ a ≤ s.i.toNat + n ∧ s.i.toNat + n ≤ 0xFFF := by
  cases h with
  | storeBcd x hfits =>
    obtain ⟨hlow, hhigh⟩ := View.stored_ne hne
    exact ⟨rfl, 2, rfl, hlow, Nat.le_of_lt_succ hhigh, Nat.le_of_lt_succ hfits⟩
  | storeRegisters x hfits =>
    obtain ⟨hlow, hhigh⟩ := View.stored_ne hne
    have hx := x.isLt
    rw [List.length_map, List.length_take, List.length_finRange] at hhigh
    exact ⟨rfl, x.val, rfl, hlow, by omega, Nat.le_of_lt_succ hfits⟩
  | _ => exact absurd rfl hne

/-- **The font is in its place.** -/
def Memory.HasFont (m : Memory) : Prop := ∀ a < fontSize, fontBytes[a]? = some (m.byte a)

namespace Vm

variable {vm : Vm} {i : Instruction} {x : Register} {op : Operation} {ops before : List Operation}
  {a n : Nat}

/-! ## One cycle -/

/-- The cycle of an instruction is its row of the table. -/
theorem effect_of_executing (h : vm.executing = some i) :
    Effect vm.view i .executed vm.cycle.2.view := by
  obtain ⟨hexecuted, hw⟩ := executing_eq_some_iff.mp h
  have hcycle : vm.cycle = (.ok .executed, vm.cycle.2) := Prod.ext hexecuted rfl
  generalize vm.cycle.2 = after at hcycle ⊢
  cases cycle_eq_iff.mp hcycle with
  | moved hrun hpc ht =>
    generalize after.view = s at ht ⊢
    cases ht with
    | row hw' he => exact hw.unique hw' ▸ he

/-- **Bytes that a cycle changes** lie in the block of an instruction that it executes. -/
theorem byte_cycle_ne (h : vm.cycle.2.memory.byte a ≠ vm.memory.byte a) :
    ∃ i n, vm.executing = some i ∧ i.storedSpan = some n ∧
      vm.i.toNat ≤ a ∧ a ≤ vm.i.toNat + n ∧ vm.i.toNat + n ≤ 0xFFF := by
  obtain ⟨i, o, hanswer, hw, heffect⟩ :=
    exists_effect_of_ne (f := fun s => s.byte a) (fun _ => rfl) (fun _ _ => rfl) h
  obtain ⟨rfl, n, hspan, hblock⟩ := heffect.byte_ne h
  exact ⟨i, n, executing_eq_some_iff.mpr ⟨hanswer, hw⟩, hspan, hblock⟩

/-- The instructions that store are denoted by two kinds of words. -/
theorem word_of_storedSpan {w : UInt16} (hw : Denotes w i) (hspan : i.storedSpan = some n) :
    (∃ x, w = wordXNN 0xF x 0x33 ∧ n = 2) ∨ ∃ x : Register, w = wordXNN 0xF x 0x55 ∧ n = x.val := by
  cases hw with
  | storeBcd x => exact .inl ⟨x, rfl, (Option.some.inj hspan).symm⟩
  | storeRegisters x => exact .inr ⟨x, rfl, (Option.some.inj hspan).symm⟩
  | _ => cases hspan

/-! ## The font -/

/-- The operation is a hard reset, or loads a program that is accepted. -/
def restoresFont (vm : Vm) : Operation → Bool
  | .softReset => false
  | op => vm.restarts op

/-- The operation is a cycle that executes an instruction that stores, with an index in the font. -/
def storesInFont (vm : Vm) : Operation → Bool
  | .cycle => (vm.executing.bind Instruction.storedSpan).isSome && vm.i.toNat < fontSize
  | _ => false

/-- **No instruction of a run stores in the font.** -/
def sparesFont (vm : Vm) : List Operation → Bool
  | [] => true
  | op :: ops => !vm.storesInFont op && (vm.perform op).2.sparesFont ops

theorem sparesFont_cons : vm.sparesFont (op :: ops) = true ↔
    vm.storesInFont op = false ∧ (vm.perform op).2.sparesFont ops = true := by
  simp [sparesFont]

theorem hasFont_of_image {m m' : Memory} {program : List UInt8}
    (h : ∀ a, m'.byte a = image m program a) : m'.HasFont := by
  intro a ha
  have hlength : a < fontBytes.length := length_fontBytes ▸ ha
  rw [h, image, if_pos ha, List.getElem?_eq_getElem hlength, Option.getD_some]

theorem hasFont_cycle (h : vm.memory.HasFont) (hspares : vm.storesInFont .cycle = false) :
    vm.cycle.2.memory.HasFont := by
  intro a ha
  by_cases hsame : vm.cycle.2.memory.byte a = vm.memory.byte a
  · rw [hsame]
    exact h a ha
  · -- A byte of the font would lie behind the index, so the index would lie in the font.
    obtain ⟨i, n, hi, hspan, hlow, -⟩ := byte_cycle_ne hsame
    have hstores : vm.storesInFont .cycle = true := by
      simp [storesInFont, hi, hspan]
      omega
    rw [hspares] at hstores
    cases hstores

theorem restoresFont_of_isLoad (h : op.isLoad = true) : vm.restoresFont op = vm.restarts op := by
  cases op with
  | load | loadFile => rfl
  | _ => cases h

theorem hasFont_of_restoresFont (h : vm.restoresFont op = true) :
    (vm.perform op).2.memory.HasFont := by
  have hperformed := vm.performed op
  generalize (vm.perform op).2 = after at hperformed ⊢
  cases hperformed with
  | loaded _ _ hfits => exact hasFont_of_image (byte_loaded hfits)
  | hardReset => exact hasFont_of_image (byte_hardReset vm)
  | refused hop hrestarts =>
    rw [restoresFont_of_isLoad hop, hrestarts] at h
    cases h
  | _ => cases h

/-- Apart from cycles, what does not put the font in its place leaves memory alone. -/
theorem memory_perform (hcycle : op ≠ .cycle) (h : vm.restoresFont op = false) :
    (vm.perform op).2.memory = vm.memory := by
  have hperformed := vm.performed op
  generalize (vm.perform op).2 = after at hperformed ⊢
  cases hperformed with
  | cycle => exact absurd rfl hcycle
  | hardReset => cases h
  | loaded hop hrestarts _ =>
    rw [restoresFont_of_isLoad hop, hrestarts] at h
    cases h
  | _ => rfl

/-- **An operation keeps the font**, unless it executes an instruction that stores in it. -/
theorem hasFont_perform (h : vm.memory.HasFont) (hspares : vm.storesInFont op = false) :
    (vm.perform op).2.memory.HasFont := by
  by_cases hcycle : op = .cycle
  · subst hcycle
    exact hasFont_cycle h hspares
  · cases hrestores : vm.restoresFont op with
    | true => exact hasFont_of_restoresFont hrestores
    | false => exact memory_perform hcycle hrestores ▸ h

/-- **The font stays** in runs that do not store in it, all the way along. -/
theorem hasFont_performAll (h : vm.memory.HasFont) (hspares : vm.sparesFont ops = true)
    (hbefore : before <+: ops) : (vm.performAll before).2.memory.HasFont := by
  induction ops generalizing vm before with
  | nil =>
    rw [List.prefix_nil.mp hbefore]
    exact h
  | cons op ops ih =>
    obtain ⟨hfirst, hrest⟩ := sparesFont_cons.mp hspares
    rcases List.prefix_cons_iff.mp hbefore with rfl | ⟨before, rfl, hprefix⟩
    · exact h
    · have hfont := ih (hasFont_perform h hfirst) hrest hprefix
      exact hfont

/-! ## Glyphs -/

theorem glyph_eq (k : Fin 16) :
    (List.range glyphHeight).map (fun r => fontBytes[k.val * 5 + r]?) = (glyph k).map some := by
  revert k
  decide

theorem map_byte_eq_glyph {m : Memory} (h : m.HasFont) (k : Fin 16) :
    (List.range glyphHeight).map (fun r => m.byte (k.val * 5 + r)) = glyph k := by
  apply List.map_injective_iff.mpr (Option.some_injective UInt8)
  rw [← glyph_eq, List.map_map]
  refine List.map_congr_left fun r hr => (h _ ?_).symm
  have hk := k.isLt
  have hrow : r < 5 := List.mem_range.mp hr
  show k.val * 5 + r < 80
  omega

/-- **The index points to the glyph of a digit** after the instruction that asks for it. -/
theorem readBlock_of_fontSprite (h : vm.memory.HasFont) (hsprite : vm.executing = some (.fontSprite x))
    {k : Fin 16} (hk : (vm.reg x).toNat = k.val) :
    vm.cycle.2.memory.readBlock vm.cycle.2.i glyphHeight = .ok (glyph k) := by
  have heffect := effect_of_executing hsprite
  generalize vm.cycle.2 = after at heffect ⊢
  generalize hafter : after.view = s at heffect
  cases heffect
  have hbyte : after.memory.byte = vm.memory.byte := congrArg View.byte hafter
  have hindex : after.i = UInt16.ofNat ((vm.reg x).toNat * 5) := congrArg View.i hafter
  have hplace : after.i.toNat = k.val * 5 := by
    rw [hindex, hk, UInt16.toNat_ofNat']
    omega
  refine Memory.readBlock_eq_ok.mpr ⟨?_, ?_⟩
  · have hlt := k.isLt
    show after.i.toNat + 5 ≤ 4096
    omega
  · rw [hplace, hbyte, map_byte_eq_glyph h]

/-! ## Every machine -/

/-- **Stores stay in their block, and the font survives.** A byte that a cycle changes lies in the block
behind the index that `Fx33` or `Fx55` stores, and the block ends in memory. After a hard reset or an
accepted program the font is in its place as long as neither is executed with an index below 80, and
then the index points to the glyph of a digit when an instruction has asked for it. -/
theorem stores_stay_in_block :
    (∀ (vm : Vm) (a : Nat), vm.cycle.2.memory.byte a ≠ vm.memory.byte a →
      vm.cycle.1 = .ok .executed ∧
        ((∃ x, vm.word = wordXNN 0xF x 0x33 ∧ vm.i.toNat ≤ a ∧ a ≤ vm.i.toNat + 2 ∧
            vm.i.toNat + 2 ≤ 0xFFF) ∨
          ∃ x : Register, vm.word = wordXNN 0xF x 0x55 ∧ vm.i.toNat ≤ a ∧ a ≤ vm.i.toNat + x.val ∧
            vm.i.toNat + x.val ≤ 0xFFF)) ∧
    ∀ (vm : Vm) (op : Operation) (ops before : List Operation), vm.restoresFont op = true →
      (vm.perform op).2.sparesFont ops = true → before <+: ops →
      let now := ((vm.perform op).2.performAll before).2
      now.memory.HasFont ∧
        ∀ (x : Register) (k : Fin 16), now.executing = some (.fontSprite x) →
          (now.reg x).toNat = k.val →
          now.cycle.2.memory.readBlock now.cycle.2.i glyphHeight = .ok (glyph k) := by
  constructor
  · intro vm a hne
    obtain ⟨i, n, hi, hspan, hlow, hhigh, hfits⟩ := byte_cycle_ne hne
    obtain ⟨hexecuted, hw⟩ := executing_eq_some_iff.mp hi
    refine ⟨hexecuted, ?_⟩
    rcases word_of_storedSpan hw hspan with ⟨x, hword, rfl⟩ | ⟨x, hword, rfl⟩
    · exact .inl ⟨x, hword, hlow, hhigh, hfits⟩
    · exact .inr ⟨x, hword, hlow, hhigh, hfits⟩
  · intro vm op ops before hrestores hspares hbefore now
    have hfont : now.memory.HasFont :=
      hasFont_performAll (hasFont_of_restoresFont hrestores) hspares hbefore
    exact ⟨hfont, fun x k hsprite hk => readBlock_of_fontSprite hfont hsprite hk⟩

/-- Points to the glyph of the digit A, and then stores the first two registers at 0x300. -/
def glyphProgram : List UInt8 := [0x61, 0x0A, 0xF1, 0x29, 0xA3, 0x00, 0xF1, 0x55]

/-- About to ask for the glyph. -/
def askingForGlyph : Vm := ((booted (.ofSeed 0) glyphProgram).performAll [.cycle]).2

/-- About to store. -/
def storingRegisters : Vm :=
  ((booted (.ofSeed 0) glyphProgram).performAll [.cycle, .cycle, .cycle]).2

/-- The glyph is found, and the byte at 0x301 changes, which lies behind the index. -/
theorem stores_stay_in_block_glyph :
    askingForGlyph.cycle.2.memory.readBlock askingForGlyph.cycle.2.i glyphHeight =
        .ok [0xF0, 0x90, 0xF0, 0x90, 0x90] ∧
      storingRegisters.cycle.2.memory.byte 0x301 ≠ storingRegisters.memory.byte 0x301 ∧
      storingRegisters.i.toNat ≤ 0x301 := by
  have hload : (fresh (.ofSeed 0)).load glyphProgram =
      (.ok glyphProgram.length, booted (.ofSeed 0) glyphProgram) := load_fresh _ (by decide)
  have hrestores : (fresh (.ofSeed 0)).restoresFont (.load glyphProgram) = true := by
    change ((fresh (.ofSeed 0)).load glyphProgram).1.isOk = true
    rewrite [hload]
    rfl
  have hbooted : ((fresh (.ofSeed 0)).perform (.load glyphProgram)).2 =
      booted (.ofSeed 0) glyphProgram := congrArg Prod.snd hload
  obtain ⟨hblock, hfont⟩ := stores_stay_in_block
  have hrun := hfont (fresh (.ofSeed 0)) (.load glyphProgram) [.cycle, .cycle, .cycle, .cycle] [.cycle]
  have hnow : ((booted (.ofSeed 0) glyphProgram).performAll [.cycle]).2 = askingForGlyph := rfl
  rewrite [hbooted, hnow] at hrun
  have hspares : (booted (.ofSeed 0) glyphProgram).sparesFont [.cycle, .cycle, .cycle, .cycle] = true := by
    decide +kernel
  have hsprite : askingForGlyph.executing = some (.fontSprite 1) := by decide +kernel
  have hdigit : (askingForGlyph.reg 1).toNat = (0xA : Fin 16).val := by decide +kernel
  have hrows : glyph 0xA = [0xF0, 0x90, 0xF0, 0x90, 0x90] := by decide
  have hglyph := (hrun hrestores hspares ⟨[.cycle, .cycle, .cycle], rfl⟩).2 1 0xA hsprite hdigit
  rewrite [hrows] at hglyph
  have hchanged : storingRegisters.cycle.2.memory.byte 0x301 ≠ storingRegisters.memory.byte 0x301 := by
    decide +kernel
  refine ⟨hglyph, hchanged, ?_⟩
  obtain ⟨-, ⟨x, -, hlow, -⟩ | ⟨x, -, hlow, -⟩⟩ := hblock storingRegisters 0x301 hchanged
  · exact hlow
  · exact hlow

end Vm

end Chip8
