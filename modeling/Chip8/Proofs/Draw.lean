import Chip8.Proofs.View

/-!
# Drawing

* `AtDraw`, `draw_once`: a cycle that draws;
* **`draw_law`**: what it does to the display and to the flag, and that a second draw undoes it.
-/

namespace Chip8

namespace Vm

open Instruction (Denotes)

/-- The machine is about to draw a sprite of `n` rows that lies in memory. -/
structure AtDraw (vm : Vm) (x y : Register) (n : Fin 16) : Prop where
  running : vm.runState = .running
  pc_le : vm.pc.toNat + 2 ≤ 4096
  word_eq : vm.word = wordXYN 0xD x y n.val
  fits : vm.i.toNat + n.val ≤ 4096

variable {vm : Vm} {x y : Register} {n : Fin 16}

theorem cycle_of_atDraw (h : vm.AtDraw x y n) :
    vm.cycle = (.ok .executed, vm.advance.drawSprite x y
      ((List.range n.val).map fun r => vm.memory.byte (vm.i.toNat + r))) := by
  rw [cycle_eq_ok_iff h.running]
  have hw : Denotes vm.word (.draw x y n) := by
    rw [h.word_eq]
    exact .draw x y n
  refine ⟨h.pc_le, .executed hw ?_⟩
  exact attempt_eq_ok.mpr ⟨rfl, _, Memory.readBlock_eq_ok.mpr ⟨h.fits, rfl⟩, rfl⟩

theorem toUInt8_eq_one {b : Bool} : b.toUInt8 = 1 ↔ b = true := by
  cases b <;> decide

theorem toUInt8_le_one (b : Bool) : b.toUInt8 ≤ 1 := by
  cases b <;> decide

theorem draw_once (h : vm.AtDraw x y n) :
    ∃ drawn, vm.cycle = (.ok .executed, drawn) ∧
      (∀ p, drawn.display.lit p = (vm.display.lit p ^^ decide (vm.view.sprite x y n p))) ∧
      (drawn.reg flagRegister = 1 ↔ ∃ p, vm.view.sprite x y n p ∧ vm.display.lit p = true) ∧
      drawn.reg flagRegister ≤ 1 ∧ drawn.redraw = true := by
  have hn : n.val ≤ 32 := by omega
  refine ⟨_, cycle_of_atDraw h, ?_, ?_, ?_, rfl⟩
  · intro p
    exact vm.display.lit_drawSprite hn _ p
  · rw [drawSprite, reg_setFlag, toUInt8_eq_one]
    exact vm.display.drawSprite_fst hn _
  · rw [drawSprite, reg_setFlag]
    exact toUInt8_le_one _

/-- **Drawing.** A draw flips the pixels of the sprite, tells in the flag register whether one of them
was on before, and asks for a redraw. The same sprite drawn once more gives back the display from
before the first draw, and the flag then tells whether a pixel of the sprite was off in it. -/
theorem draw_law (h : vm.AtDraw x y n) :
    ∃ drawn, vm.cycle = (.ok .executed, drawn) ∧
      (∀ p, drawn.display.lit p = (vm.display.lit p ^^ decide (vm.view.sprite x y n p))) ∧
      (drawn.reg flagRegister = 1 ↔ ∃ p, vm.view.sprite x y n p ∧ vm.display.lit p = true) ∧
      drawn.reg flagRegister ≤ 1 ∧ drawn.redraw = true ∧
      ∀ (again : Vm) (x' y' : Register), again.AtDraw x' y' n →
        again.i = vm.i → again.memory = vm.memory →
        again.reg x' = vm.reg x → again.reg y' = vm.reg y → again.display = drawn.display →
        ∃ restored, again.cycle = (.ok .executed, restored) ∧ restored.display = vm.display ∧
          (restored.reg flagRegister = 1 ↔
            ∃ p, vm.view.sprite x y n p ∧ vm.display.lit p = false) := by
  obtain ⟨drawn, hc, hlit, hflag, hle, hredraw⟩ := draw_once h
  refine ⟨drawn, hc, hlit, hflag, hle, hredraw, ?_⟩
  intro again x' y' hagain hi hmem hx hy hdisplay
  obtain ⟨restored, hc', hlit', hflag', -, -⟩ := draw_once hagain
  have hsame : ∀ p, again.view.sprite x' y' n p ↔ vm.view.sprite x y n p := by
    intro p
    simp only [View.sprite, view, hi, hmem, hx, hy]
  refine ⟨restored, hc', Display.ext_lit ?_, ?_⟩
  · intro p
    rw [hlit', hdisplay, hlit, decide_eq_decide.mpr (hsame p), Bool.xor_assoc, Bool.xor_self,
      Bool.xor_false]
  · rw [hflag']
    refine exists_congr fun p => ?_
    rw [hsame, hdisplay, hlit]
    refine and_congr_right fun hp => ?_
    rw [decide_eq_true hp, Bool.xor_true, Bool.not_eq_true']

/-- About to draw the glyph of F at the place that the flag register gives for both coordinates, in
the last column. -/
def drawingAtFlag : Vm :=
  { fresh (.ofSeed 0) with
    memory := Memory.initial.storeAll 0x200 [0xDF, 0xF5]
    v := zeroRegs.put flagRegister 63
    i := 75
    runState := .running }

/-- The glyph comes and goes again; the first draw finds every pixel off. -/
theorem draw_law_at_flag :
    drawingAtFlag.AtDraw flagRegister flagRegister 5 ∧
      ∃ drawn restored, drawingAtFlag.cycle = (.ok .executed, drawn) ∧
        drawn.reg flagRegister ≠ 1 ∧ drawn.redraw = true ∧
        Vm.cycle { drawingAtFlag with display := drawn.display } = (.ok .executed, restored) ∧
        restored.display = drawingAtFlag.display ∧ restored.reg flagRegister = 1 := by
  have hword : drawingAtFlag.word = wordXYN 0xD flagRegister flagRegister 5 := by decide +kernel
  have hdraw : drawingAtFlag.AtDraw flagRegister flagRegister 5 :=
    ⟨rfl, by decide, hword, by decide⟩
  have hblank : ∀ p, drawingAtFlag.display.lit p = false := Display.lit_blank
  obtain ⟨drawn, hc, -, hflag, -, hredraw, htwice⟩ := draw_law hdraw
  have hagain : AtDraw { drawingAtFlag with display := drawn.display } flagRegister flagRegister 5 :=
    ⟨hdraw.running, hdraw.pc_le, hdraw.word_eq, hdraw.fits⟩
  obtain ⟨restored, hc', hdisplay, hflag'⟩ := htwice _ _ _ hagain rfl rfl rfl rfl rfl
  refine ⟨hdraw, drawn, restored, hc, ?_, hredraw, hc', hdisplay, ?_⟩
  · rw [ne_eq, hflag]
    rintro ⟨p, -, hp⟩
    rw [hblank] at hp
    cases hp
  · have hcorner : drawingAtFlag.view.sprite flagRegister flagRegister 5 (Pixel.wrap 63 31) := by
      decide +kernel
    exact hflag'.mpr ⟨_, hcorner, hblank _⟩

end Vm

end Chip8
