import Chip8.Proofs.Cycle
import Chip8.Proofs.Sprite
import Mathlib.Logic.Function.Basic

/-!
# What can be seen of a machine

The view of a machine has its tables as functions: bytes by address, registers by name, pixels by
place, keys by number. Machines with the same view are equal (**`view_injective`**), so a change of
the view says everything about a change of the machine.

* `View`, `Vm.view`;
* `View.next`, `View.skip`, `View.write`, `View.writeAfterFlag`, `View.stored`: changes of a view;
* `view_setReg`, `view_skipIf`, …: the changes of a machine as changes of its view.
-/

namespace Chip8

/-- **What can be seen of a machine.** -/
@[ext]
structure View where
  byte : Nat → UInt8
  reg : Register → UInt8
  i : UInt16
  pc : UInt16
  lit : Pixel → Bool
  delay : UInt8
  sound : UInt8
  down : Fin 16 → Bool
  frames : List UInt16
  redraw : Bool
  runState : RunState
  strict : Bool
  random : RandomSource

/-- The view of a machine. -/
def Vm.view (vm : Vm) : View where
  byte := vm.memory.byte
  reg := vm.reg
  i := vm.i
  pc := vm.pc
  lit := vm.display.lit
  delay := vm.delay
  sound := vm.sound
  down := vm.keypad.isDown
  frames := vm.stack.frames
  redraw := vm.redraw
  runState := vm.runState
  strict := vm.strict
  random := vm.random

theorem Vm.view_injective : Function.Injective Vm.view := by
  intro vm vm' h
  have hmem : vm.memory = vm'.memory := by
    apply Memory.ext_byte
    intro a _
    exact congrFun (congrArg View.byte h) a
  have hv : vm.v = vm'.v := Vector.ext_get fun r => congrFun (congrArg View.reg h) r
  have hdisplay : vm.display = vm'.display :=
    Display.ext_lit fun p => congrFun (congrArg View.lit h) p
  have hkeypad : vm.keypad = vm'.keypad := by
    apply Keypad.ext
    exact Vector.ext_get fun k => congrFun (congrArg View.down h) k
  have hstack : vm.stack = vm'.stack := CallStack.ext (congrArg View.frames h)
  exact Vm.ext hmem hv (congrArg View.i h) (congrArg View.pc h) hdisplay (congrArg View.delay h)
    (congrArg View.sound h) hkeypad hstack (congrArg View.redraw h) (congrArg View.runState h)
    (congrArg View.strict h) (congrArg View.random h)

/-! ## Changes of a view -/

namespace View

variable (s : View)

/-- Past the word at the program counter. -/
def next : View := { s with pc := s.pc + 2 }

/-- Past that word, and past the one after it if a condition holds. -/
def skip (condition : Prop) [Decidable condition] : View :=
  { s with pc := if condition then s.pc + 4 else s.pc + 2 }

/-- Another value in a register. -/
def write (x : Register) (b : UInt8) : View := { s with reg := Function.update s.reg x b }

/-- A condition in the flag register, and then in another register a value computed from the
registers as they are after that. -/
def writeAfterFlag (condition : Prop) [Decidable condition] (x : Register)
    (value : (Register → UInt8) → UInt8) : View :=
  let flagged := s.write flagRegister (if condition then 1 else 0)
  flagged.write x (value flagged.reg)

/-- The bytes of memory with others from the index on. -/
def stored (bytes : List UInt8) : Nat → UInt8 := fun a =>
  if a < s.i.toNat then s.byte a else bytes[a - s.i.toNat]?.getD (s.byte a)

/-- The key that a byte names by its low digit. -/
def keyOf (b : UInt8) : Fin 16 := ⟨b.toNat % 16, by omega⟩

/-- The pixels of the sprite at the index, placed where two registers say. -/
def sprite (x y : Register) (n : Fin 16) (p : Pixel) : Prop :=
  Display.Covers (s.reg x).toNat (s.reg y).toNat n.val (fun r => s.byte (s.i.toNat + r)) p

instance (x y : Register) (n : Fin 16) (p : Pixel) : Decidable (s.sprite x y n p) :=
  inferInstanceAs (Decidable (Display.Covers _ _ _ _ p))

end View

/-! ## Changes of a machine -/

namespace Vm

variable (vm : Vm)

theorem view_rewind_advance : vm.advance.rewind.view = vm.view := by
  have hpc : vm.pc + 2 - 2 = vm.pc := UInt16.add_sub_cancel vm.pc 2
  exact congrArg (fun pc => { vm.view with pc := pc }) hpc

theorem view_setReg (x : Register) (b : UInt8) : (vm.setReg x b).view = vm.view.write x b := by
  have hreg : (vm.setReg x b).reg = Function.update vm.reg x b := by
    funext y
    rw [reg_setReg, Function.update_apply]
    exact if_congr eq_comm rfl rfl
  exact congrArg (fun reg => { vm.view with reg := reg }) hreg

theorem view_setFlag (flag : Bool) :
    (vm.setFlag flag).view = vm.view.write flagRegister flag.toUInt8 := view_setReg ..

theorem toUInt8_eq_ite {flag : Bool} {p : Prop} [Decidable p] (h : flag = true ↔ p) :
    flag.toUInt8 = if p then 1 else 0 := by
  rw [← if_congr h rfl rfl]
  cases flag <;> rfl

theorem view_skipIf {condition : Bool} {p : Prop} [Decidable p] (h : condition = true ↔ p) :
    (vm.advance.skipIf condition).view = vm.view.skip p := by
  rw [View.skip, ← if_congr h rfl rfl]
  cases condition with
  | false => rfl
  | true =>
    have hpc : vm.pc + 2 + 2 = vm.pc + 4 := UInt16.add_assoc vm.pc 2 2
    exact congrArg (fun pc => { vm.view with pc := pc }) hpc

/-- A flag and a register after it, with the flag computed from the machine before. -/
theorem view_setReg_setFlag {flag : Bool} {p : Prop} [Decidable p] (h : flag = true ↔ p)
    (x : Register) (value : (Register → UInt8) → UInt8) :
    ((vm.setFlag flag).setReg x (value (vm.setFlag flag).reg)).view =
      vm.view.writeAfterFlag p x value := by
  have hreg : (vm.setFlag flag).reg = (vm.view.write flagRegister flag.toUInt8).reg :=
    congrArg View.reg (view_setFlag vm flag)
  rw [view_setReg, view_setFlag, hreg, toUInt8_eq_ite h]
  rfl

theorem view_setRegs (bytes : List UInt8) :
    (vm.setRegs bytes).view =
      { vm.view with reg := fun r => bytes[r.val]?.getD (vm.reg r) } := by
  have hreg : (vm.setRegs bytes).reg = fun r => bytes[r.val]?.getD (vm.reg r) := by
    funext r
    exact reg_setRegs vm bytes r
  exact congrArg (fun reg => { vm.view with reg := reg }) hreg

theorem view_storeAll {bytes : List UInt8} (h : vm.i.toNat + bytes.length ≤ memorySize) :
    { vm with memory := vm.memory.storeAll vm.i.toNat bytes }.view =
      { vm.view with byte := vm.view.stored bytes } := by
  have hbyte : (vm.memory.storeAll vm.i.toNat bytes).byte = vm.view.stored bytes := by
    funext a
    exact Memory.byte_storeAll _ _ h a
  exact congrArg (fun byte => { vm.view with byte := byte }) hbyte

theorem view_releaseKey (key : Fin 16) :
    { vm with keypad := vm.keypad.set key false }.view =
      { vm.view with down := Function.update vm.view.down key false } := by
  have hdown : (vm.keypad.set key false).isDown = Function.update vm.keypad.isDown key false := by
    funext q
    rw [Keypad.isDown_set, Function.update_apply]
    exact if_congr eq_comm rfl rfl
  exact congrArg (fun down => { vm.view with down := down }) hdown

theorem view_drawSprite {x y : Register} {n : Fin 16} {hit : Bool}
    (hhit : hit = true ↔ ∃ p, vm.view.sprite x y n p ∧ vm.view.lit p = true) :
    (vm.drawSprite x y ((List.range n.val).map fun r => vm.memory.byte (vm.i.toNat + r))).view =
      { vm.view.write flagRegister (if hit then 1 else 0) with
        lit := fun p => vm.view.lit p ^^ decide (vm.view.sprite x y n p), redraw := true } := by
  have hn : n.val ≤ 32 := by omega
  have hflag := toUInt8_eq_ite ((vm.display.drawSprite_fst hn _).trans hhit.symm)
  refine (view_setFlag _ _).trans ?_
  exact congrArg₂ (fun b lit => { vm.view.write flagRegister b with lit := lit, redraw := true })
    hflag (funext fun p => vm.display.lit_drawSprite hn _ p)

theorem regsUpTo_eq (x : Register) :
    vm.regsUpTo x = ((List.finRange 16).take (x.val + 1)).map vm.reg := by
  have hall : vm.v.toList = (List.finRange 16).map vm.reg := by
    apply List.ext_getElem
    · simp
    · intro k hk hk'
      simp [reg, Vector.get_eq]
  rw [regsUpTo, hall, List.map_take]

theorem keyDown_eq (x : Register) : vm.keyDown x = vm.view.down (View.keyOf (vm.reg x)) := by
  have hand : (vm.reg x &&& 0xF).toNat = (vm.reg x).toNat % 16 := by
    rw [UInt8.toNat_and]
    exact Nat.and_two_pow_sub_one_eq_mod _ 4
  have hlt : (vm.reg x &&& 0xF).toNat < 16 := by omega
  rw [keyDown, Keypad.isPressed_of_lt _ hlt]
  exact congrArg vm.keypad.isDown (Fin.ext hand)

end Vm

end Chip8
