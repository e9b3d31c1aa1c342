import Chip8.Proofs.Aborts
import Chip8.Proofs.Cycle
import Chip8.Vm.Checked

/-!
# The machine never aborts

Each operation of the machine in its arrays is the operation of the machine, in every state and for all
arguments. So no access is ever outside its array, and no checked sum, difference or product leaves the
numbers of its operands: the fields of a word name registers, the call stack keeps its pointer in its
array, and the sums behind a block, a sprite or a glyph start from words and bytes.

* `Operands.toNat_x`, …, `Operands.fit_ofWord`: the fields of a word are the operands of the
  instruction that it denotes;
* `Vm.lay`, **`Vm.Checked.Holds`**: a machine in its arrays;
* `reg_lay`, `setReg_lay`, `drawSprite_lay`, …: parts of instructions;
* `Vm.Follows`, **`execute_lay`**: an instruction in the arrays is the instruction;
* `step_lay`, `cycle_lay`, `tick_lay`, `load_lay`, `Vm.Checked.perform_eq`: operations;
* **`machine_never_aborts`**: runs.
-/

namespace Chip8

open Instruction (Denotes)

/-! ## Operands -/

namespace Operands

theorem toNat_x (w : UInt16) : (ofWord w).x.toNat = (fieldX w).val := by
  show (w >>> 8 &&& 0xF).toUInt64.toNat = w.toNat / 0x100 % 16
  rw [UInt16.toNat_toUInt64, UInt16.toNat_and, UInt16.toNat_shiftRight]
  show w.toNat >>> 8 &&& 2 ^ 4 - 1 = _
  rw [Nat.and_two_pow_sub_one_eq_mod, Nat.shiftRight_eq_div_pow]

theorem toNat_y (w : UInt16) : (ofWord w).y.toNat = (fieldY w).val := by
  show (w >>> 4 &&& 0xF).toUInt64.toNat = w.toNat / 0x10 % 16
  rw [UInt16.toNat_toUInt64, UInt16.toNat_and, UInt16.toNat_shiftRight]
  show w.toNat >>> 4 &&& 2 ^ 4 - 1 = _
  rw [Nat.and_two_pow_sub_one_eq_mod, Nat.shiftRight_eq_div_pow]

theorem toNat_n (w : UInt16) : (ofWord w).n.toNat = (fieldN w).val := by
  show (w &&& 0xF).toUInt8.toUInt64.toNat = w.toNat % 16
  rw [UInt8.toNat_toUInt64, UInt16.toNat_toUInt8, UInt16.toNat_and]
  show (w.toNat &&& 2 ^ 4 - 1) % 2 ^ 8 = _
  rw [Nat.and_two_pow_sub_one_eq_mod]
  omega

theorem nn_eq (w : UInt16) : (ofWord w).nn = fieldNN w := by
  apply UInt8.toNat_inj.mp
  show (w &&& 0xFF).toUInt8.toNat = (UInt8.ofNat (w.toNat % 0x100)).toNat
  rw [UInt16.toNat_toUInt8, UInt16.toNat_and, UInt8.toNat_ofNat']
  show (w.toNat &&& 2 ^ 8 - 1) % 2 ^ 8 = _
  rw [Nat.and_two_pow_sub_one_eq_mod]

theorem nnn_eq (w : UInt16) : (ofWord w).nnn = Address.toWord (fieldNNN w) := by
  apply UInt16.toNat_inj.mp
  rw [Address.toNat_toWord]
  show (w &&& 0xFFF).toNat = w.toNat % 0x1000
  rw [UInt16.toNat_and]
  exact Nat.and_two_pow_sub_one_eq_mod _ 12

/-- **The operands are those of an instruction.** -/
def Fit (w : Operands) : Instruction → Prop
  | .clearScreen | .ret => True
  | .jump a | .call a | .loadIndex a | .jumpOffset a => w.nnn = a.toWord
  | .skipIfEqual x nn | .skipIfNotEqual x nn | .load x nn | .add x nn | .random x nn =>
    w.x.toNat = x.val ∧ w.nn = nn
  | .skipIfRegistersEqual x y | .skipIfRegistersNotEqual x y | .copy x y | .or x y | .and x y
  | .xor x y | .addRegisters x y | .sub x y | .subReversed x y =>
    w.x.toNat = x.val ∧ w.y.toNat = y.val
  | .draw x y n => w.x.toNat = x.val ∧ w.y.toNat = y.val ∧ w.n.toNat = n.val
  | .shiftRight x | .shiftLeft x | .skipIfKeyPressed x | .skipIfKeyNotPressed x | .readDelay x
  | .waitForKey x | .setDelay x | .setSound x | .addIndex x | .fontSprite x | .largeFontSprite x
  | .storeBcd x | .storeRegisters x | .loadRegisters x => w.x.toNat = x.val

/-- The operands of a word fit the instruction that it denotes. -/
theorem fit_ofWord {w : UInt16} {i : Instruction} (h : Denotes w i) : (ofWord w).Fit i := by
  cases h with
  | clearScreen | ret => trivial
  | jump | call | loadIndex | jumpOffset =>
    simp only [Fit, nnn_eq, fieldNNN_wordNNN, Nat.reduceLT]
  | skipIfEqual | skipIfNotEqual | load | add | random =>
    simp only [Fit, toNat_x, nn_eq, fieldX_wordXNN, fieldNN_wordXNN, Nat.reduceLT, and_self]
  | skipIfRegistersEqual | skipIfRegistersNotEqual | copy | or | and | xor | addRegisters | sub
  | subReversed =>
    simp only [Fit, toNat_x, toNat_y, fieldX_wordXYN, fieldY_wordXYN, Nat.reduceLT, and_self]
  | shiftRight | shiftLeft => simp only [Fit, toNat_x, fieldX_wordXYN, Nat.reduceLT]
  | draw x y n =>
    have hk : 0xD < 16 := by decide
    refine ⟨?_, ?_, ?_⟩
    · rw [toNat_x, fieldX_wordXYN hk x y n.isLt]
    · rw [toNat_y, fieldY_wordXYN hk x y n.isLt]
    · rw [toNat_n, fieldN_wordXYN hk x y n.isLt]
  | _ => simp only [Fit, toNat_x, fieldX_wordXNN, Nat.reduceLT]

end Operands

theorem Memory.length_of_readBlock {m : Memory} {start : UInt16} {len : Nat} {bytes : List UInt8}
    (h : m.readBlock start len = .ok bytes) : bytes.length = len := by
  rw [(readBlock_eq_ok.mp h).2, List.length_map, List.length_range]

namespace Vm

/-- A machine in its arrays, with an array for its call stack. -/
def lay (vm : Vm) (stack : CallStack.Checked) : Checked where
  memory := vm.memory
  v := vm.v
  i := vm.i
  pc := vm.pc
  display := vm.display
  delay := vm.delay
  sound := vm.sound
  keypad := vm.keypad
  stack := stack
  redraw := vm.redraw
  runState := vm.runState
  strict := vm.strict
  random := vm.random

/-- **The arrays hold a machine.** -/
def Checked.Holds (s : Checked) (vm : Vm) : Prop :=
  ∃ stack, stack.Holds vm.stack ∧ s = vm.lay stack

/-- What an instruction in the arrays answers is what the instruction answers. -/
def Follows (answer : Except Abort Checked.Result) : Result → Prop
  | .ok o vm => ∃ stack, stack.Holds vm.stack ∧ answer = .ok (.ok o (vm.lay stack))
  | .error f vm => ∃ stack, stack.Holds vm.stack ∧ answer = .ok (.error f (vm.lay stack))

variable {vm : Vm} {stack : CallStack.Checked} {px py : UInt64} {x y : Register}

theorem follows_done (h : stack.Holds vm.stack) : Follows (Checked.done (vm.lay stack)) (done vm) :=
  ⟨stack, h, rfl⟩

/-- The answer of a component that is laid out as it is. -/
theorem follows_attempt {α : Type} {answer : Except Fault α} {next : α → Except Abort Checked}
    {next' : α → Vm} (h : stack.Holds vm.stack)
    (hnext : ∀ a, answer = .ok a → next a = .ok ((next' a).lay stack) ∧ (next' a).stack = vm.stack) :
    Follows ((vm.lay stack).attempt answer next) (vm.attempt answer next') := by
  cases answer with
  | error f => exact ⟨stack, h, rfl⟩
  | ok a =>
    obtain ⟨hlay, hstack⟩ := hnext a rfl
    refine ⟨stack, hstack ▸ h, ?_⟩
    rw [Checked.attempt, hlay]
    rfl

/-! ## Registers -/

theorem reg_lay (hx : px.toNat = x.val) : (vm.lay stack).reg px = .ok (vm.reg x) := by
  have hplace : px.toNat < registerCount := hx ▸ x.isLt
  have hname : (⟨px.toNat, hplace⟩ : Register) = x := Fin.ext hx
  show Cells.index vm.v px = _
  rw [Cells.index_eq_ok hplace, hname, reg]

theorem setReg_lay (hx : px.toNat = x.val) (b : UInt8) :
    (vm.lay stack).setReg px b = .ok ((vm.setReg x b).lay stack) := by
  have hplace : px.toNat < registerCount := hx ▸ x.isLt
  have hname : (⟨px.toNat, hplace⟩ : Register) = x := Fin.ext hx
  have hassign : Cells.assign vm.v px b = .ok (vm.v.put x b) := by
    rw [Cells.assign_eq_ok hplace, hname]
  show (Cells.assign vm.v px b >>= fun v => pure { vm.lay stack with v := v }) = _
  rw [hassign]
  rfl

theorem setFlag_lay (flag : Bool) :
    (vm.lay stack).setFlag flag = .ok ((vm.setFlag flag).lay stack) :=
  setReg_lay (show (0xF : UInt64).toNat = flagRegister.val from rfl) _

/-- The slice behind a register ends in the array. -/
theorem stop_lay (hx : px.toNat = x.val) :
    checkedAdd px 1 = .ok (px + 1) ∧ (px + 1).toNat = x.val + 1 := by
  have hlt := x.val_lt
  have hone : (1 : UInt64).toNat = 1 := rfl
  have hsum : px.toNat + (1 : UInt64).toNat < UInt64.size :=
    Nat.lt_of_lt_of_le (show px.toNat + 1 < 32 by omega) (by decide)
  refine ⟨checkedAdd_eq_ok hsum, ?_⟩
  rw [UInt64.toNat_add, hx, hone]
  exact Nat.mod_eq_of_lt (by omega)

theorem regsUpTo_lay (hx : px.toNat = x.val) :
    (vm.lay stack).regsUpTo px = .ok (vm.regsUpTo x) := by
  obtain ⟨hsum, hstop⟩ := stop_lay hx
  have hle : (px + 1).toNat ≤ registerCount := by omega
  rw [Checked.regsUpTo, hsum]
  show Cells.slice vm.v 0 (px + 1) = _
  rw [Cells.slice_eq_ok UInt64.zero_le hle, hstop]
  rfl

theorem setRegsUpTo_lay (hx : px.toNat = x.val) {values : List UInt8}
    (hlen : values.length = x.val + 1) :
    (vm.lay stack).setRegsUpTo px values = .ok ((vm.setRegs values).lay stack) := by
  obtain ⟨hsum, hstop⟩ := stop_lay hx
  have hle : (px + 1).toNat ≤ registerCount := by omega
  have hcopy : Cells.copyInto vm.v 0 (px + 1) values = .ok (vm.setRegs values).v := by
    have hsame : values.length = (px + 1).toNat - (0 : UInt64).toNat := by
      rw [hstop]
      exact hlen
    rw [Cells.copyInto_eq_ok UInt64.zero_le hle hsame]
    rfl
  rw [Checked.setRegsUpTo, hsum]
  show (Cells.copyInto vm.v 0 (px + 1) values >>= fun v => pure { vm.lay stack with v := v }) = _
  rw [hcopy]
  rfl

/-! ## Parts of instructions -/

theorem change_lay (hx : px.toNat = x.val) (f : UInt8 → UInt8) :
    (vm.lay stack).change px f = .ok ((vm.setReg x (f (vm.reg x))).lay stack) := by
  rw [Checked.change, reg_lay hx]
  exact setReg_lay hx _

theorem combine_lay (hx : px.toNat = x.val) (hy : py.toNat = y.val) (f : UInt8 → UInt8 → UInt8) :
    (vm.lay stack).combine px py f = .ok ((vm.setReg x (f (vm.reg x) (vm.reg y))).lay stack) := by
  rw [Checked.combine, reg_lay hx, reg_lay hy]
  exact setReg_lay hx _

/-- The second reading of the registers comes after the flag. -/
theorem combineAfterFlag_lay (hx : px.toNat = x.val) (hy : py.toNat = y.val)
    (flag : UInt8 → UInt8 → Bool) (f : UInt8 → UInt8 → UInt8) :
    let flagged := vm.setFlag (flag (vm.reg x) (vm.reg y))
    (vm.lay stack).combineAfterFlag px py flag f =
      .ok ((flagged.setReg x (f (flagged.reg x) (flagged.reg y))).lay stack) := by
  intro flagged
  rw [Checked.combineAfterFlag, reg_lay hx, reg_lay hy]
  show ((vm.lay stack).setFlag _ >>= fun s => s.combine px py f) = _
  rw [setFlag_lay]
  exact combine_lay hx hy f

theorem addRegisters_lay (hx : px.toNat = x.val) (hy : py.toNat = y.val) :
    (vm.lay stack).addRegisters px py = .ok ((vm.addRegisters x y).lay stack) := by
  rw [Checked.addRegisters, reg_lay hx, reg_lay hy]
  show ((vm.lay stack).setReg px _ >>= fun s => s.setFlag _) = _
  rw [setReg_lay hx]
  exact setFlag_lay _

theorem drawRandom_lay (hx : px.toNat = x.val) (mask : UInt8) :
    (vm.lay stack).drawRandom px mask = .ok ((vm.drawRandom x mask).lay stack) := by
  show ({ vm with random := vm.random.nextByte.2 }.lay stack).setReg px _ = _
  rw [setReg_lay hx]
  rfl

theorem drawSprite_lay (hx : px.toNat = x.val) (hy : py.toNat = y.val) {rows : List UInt8}
    (hrows : rows.length ≤ 256) :
    (vm.lay stack).drawSprite px py rows = .ok ((vm.drawSprite x y rows).lay stack) := by
  have hbyte (b : UInt8) : b.toUInt64.toNat < 256 := (UInt8.toNat_toUInt64 b).symm ▸ b.toNat_lt
  have hcount : (0 : UInt64).toNat + rows.length ≤ 256 := by
    rw [UInt64.toNat_zero, Nat.zero_add]
    exact hrows
  have hsprite := Display.Checked.drawSprite_eq vm.display (hbyte (vm.reg x)) (hbyte (vm.reg y)) hcount
  rw [UInt8.toNat_toUInt64, UInt8.toNat_toUInt64, UInt64.toNat_zero, Nat.add_zero] at hsprite
  generalize hdrawn : vm.display.drawSprite (vm.reg x).toNat (vm.reg y).toNat rows = drawn at hsprite
  rw [Checked.drawSprite, reg_lay hx, reg_lay hy]
  show (Display.Checked.drawSprite vm.display (vm.reg x).toUInt64 (vm.reg y).toUInt64 0 rows >>=
    fun drawn => ({ vm with display := drawn.2 }.lay stack).setFlag drawn.1 >>= fun s =>
      pure { s with redraw := true }) = _
  rw [hsprite, drawSprite, hdrawn]
  show (({ vm with display := drawn.2 }.lay stack).setFlag drawn.1 >>= fun s =>
      pure { s with redraw := true }) = _
  rw [setFlag_lay]
  rfl

theorem keyDown_lay (hx : px.toNat = x.val) : (vm.lay stack).keyDown px = .ok (vm.keyDown x) := by
  rw [Checked.keyDown, reg_lay hx]
  exact congrArg Except.ok (Keypad.Checked.isPressed_eq ..)

theorem glyphAddress_eq (b : UInt8) : Checked.glyphAddress b = .ok (glyphAddress b) := by
  have hb := b.toNat_lt
  have hsize : UInt16.size = 65536 := rfl
  have hheight : (UInt16.ofNat glyphHeight).toNat = 5 := rfl
  have hstart : (UInt16.ofNat fontStart).toNat = 0 := rfl
  have hproduct : b.toUInt16.toNat * (UInt16.ofNat glyphHeight).toNat = b.toNat * 5 := by
    rw [UInt8.toNat_toUInt16, hheight]
  have hoffset : (b.toUInt16 * UInt16.ofNat glyphHeight).toNat = b.toNat * 5 := by
    rw [UInt16.toNat_mul, hproduct]
    exact Nat.mod_eq_of_lt (by omega)
  have hsame : UInt16.ofNat fontStart + b.toUInt16 * UInt16.ofNat glyphHeight = glyphAddress b := by
    apply UInt16.toNat_inj.mp
    rw [UInt16.toNat_add, hoffset, hstart, glyphAddress, UInt16.toNat_ofNat', Nat.mul_comm]
  rw [Checked.glyphAddress, checkedMul16_eq_ok (by omega)]
  show checkedAdd16 _ _ = _
  rw [checkedAdd16_eq_ok (by omega), hsame]

/-! ## Instructions that may fault -/

theorem readBlock_short {m : Memory} {start : UInt16} {len : UInt64} (h : len.toNat ≤ 16) :
    Memory.Checked.readBlock m start len = .ok (m.readBlock start len.toNat) := by
  have hstart := start.toNat_lt
  have hsize : UInt64.size = 18446744073709551616 := rfl
  rw [Memory.Checked.readBlock_eq, if_pos (by omega)]

theorem follows_store (h : stack.Holds vm.stack) {bytes : List UInt8} (hlen : bytes.length ≤ 16) :
    Follows ((vm.lay stack).store bytes)
      (vm.attempt (vm.memory.writeBlock bytes vm.i) fun m => { vm with memory := m }) := by
  have hbytes : (ByteBlock.ofList bytes).bytes = bytes :=
    ByteBlock.bytes_ofList (Nat.lt_of_le_of_lt hlen (by decide))
  have hwrite := Memory.Checked.writeBlock_eq vm.memory (.ofList bytes) vm.i
  rw [hbytes] at hwrite
  have hstore : (vm.lay stack).store bytes = (vm.lay stack).attempt
      (vm.memory.writeBlock bytes vm.i) fun m => pure { vm.lay stack with memory := m } := by
    show (Memory.Checked.writeBlock vm.memory _ vm.i >>= _) = _
    rw [hwrite]
    rfl
  rw [hstore]
  exact follows_attempt h fun m _ => ⟨rfl, rfl⟩

theorem follows_ret (h : stack.Holds vm.stack) :
    Follows (vm.lay stack).ret (vm.attempt vm.stack.pop fun (address, stack) =>
      { vm with pc := address, stack := stack, redraw := true }) := by
  rcases CallStack.Checked.pop_eq h with ⟨address, s', c', hpop, hpop', hholds⟩ | ⟨f, hpop, hpop'⟩
  · rw [hpop']
    refine ⟨s', hholds, ?_⟩
    show (stack.pop >>= _) = _
    rw [hpop]
    rfl
  · rw [hpop']
    refine ⟨stack, h, ?_⟩
    show (stack.pop >>= _) = _
    rw [hpop]
    rfl

theorem follows_call (h : stack.Holds vm.stack) (address : UInt16) :
    Follows ((vm.lay stack).call address)
      (vm.attempt (vm.stack.push vm.pc) fun stack => { vm with pc := address, stack := stack }) := by
  rcases CallStack.Checked.push_eq h vm.pc with ⟨s', c', hpush, hpush', hholds⟩ | ⟨f, hpush, hpush'⟩
  · rw [hpush']
    refine ⟨s', hholds, ?_⟩
    show (stack.push vm.pc >>= _) = _
    rw [hpush]
    rfl
  · rw [hpush']
    refine ⟨stack, h, ?_⟩
    show (stack.push vm.pc >>= _) = _
    rw [hpush]
    rfl

theorem follows_waitForKey (h : stack.Holds vm.stack) (hx : px.toNat = x.val) :
    Follows ((vm.lay stack).waitForKey px) (vm.waitForKey x) := by
  have hfirst : Keypad.Checked.firstPressed (vm.lay stack).keypad =
      vm.keypad.firstPressed.map fun key => UInt8.ofNat key.val := Keypad.Checked.firstPressed_eq _
  rw [Checked.waitForKey, hfirst, waitForKey]
  cases vm.keypad.firstPressed with
  | none => exact ⟨stack, h, rfl⟩
  | some key =>
    simp only [Option.map_some, setReg_lay hx, bind, Except.bind]
    have hrelease : Keypad.Checked.setPressed ((vm.setReg x (UInt8.ofNat key.val)).lay stack).keypad
        (UInt8.ofNat key.val) false = vm.keypad.setPressed (UInt8.ofNat key.val) false :=
      Keypad.Checked.setPressed_eq ..
    have hset : stack.Holds (vm.setReg x (UInt8.ofNat key.val)).stack := h
    rw [hrelease]
    exact follows_attempt hset fun keypad _ => ⟨rfl, rfl⟩

/-! ## Every instruction -/

theorem follows_skip (h : stack.Holds vm.stack) (condition : Bool) :
    Follows (Checked.done ((vm.lay stack).skipIf condition)) (done (vm.skipIf condition)) := by
  cases condition with
  | false => exact follows_done h
  | true => exact ⟨stack, h, rfl⟩

/-- **An instruction in the arrays is the instruction.** -/
theorem execute_lay {w : Operands} {i : Instruction} (hfit : w.Fit i) (h : stack.Holds vm.stack) :
    Follows ((vm.lay stack).execute w i) (vm.execute i) := by
  cases i with
  | clearScreen | largeFontSprite => exact ⟨stack, h, rfl⟩
  | ret => exact follows_ret h
  | call nnn =>
    have hnnn : w.nnn = nnn.toWord := hfit
    rw [Checked.execute, hnnn]
    exact follows_call h _
  | jump nnn | loadIndex nnn =>
    have hnnn : w.nnn = nnn.toWord := hfit
    rw [Checked.execute, hnnn]
    exact ⟨stack, h, rfl⟩
  | jumpOffset nnn =>
    have hnnn : w.nnn = nnn.toWord := hfit
    rw [Checked.execute, hnnn, reg_lay (x := offsetRegister) rfl]
    exact ⟨stack, h, rfl⟩
  | skipIfEqual x nn | skipIfNotEqual x nn =>
    obtain ⟨hx, rfl⟩ := hfit
    rw [Checked.execute, reg_lay hx]
    exact follows_skip h _
  | skipIfRegistersEqual x y | skipIfRegistersNotEqual x y =>
    obtain ⟨hx, hy⟩ := hfit
    rw [Checked.execute, reg_lay hx, reg_lay hy]
    exact follows_skip h _
  | skipIfKeyPressed x | skipIfKeyNotPressed x =>
    rw [Checked.execute, keyDown_lay hfit]
    exact follows_skip h _
  | load x nn =>
    obtain ⟨hx, rfl⟩ := hfit
    rw [Checked.execute, setReg_lay hx]
    exact ⟨stack, h, rfl⟩
  | add x nn =>
    obtain ⟨hx, rfl⟩ := hfit
    rw [Checked.execute, change_lay hx]
    exact ⟨stack, h, rfl⟩
  | random x nn =>
    obtain ⟨hx, rfl⟩ := hfit
    rw [Checked.execute, drawRandom_lay hx]
    exact ⟨stack, h, rfl⟩
  | copy x y =>
    obtain ⟨hx, hy⟩ := hfit
    rw [Checked.execute, reg_lay hy]
    show Follows ((vm.lay stack).setReg w.x (vm.reg y) >>= Checked.done) _
    rw [setReg_lay hx]
    exact ⟨stack, h, rfl⟩
  | or x y | and x y | xor x y =>
    obtain ⟨hx, hy⟩ := hfit
    rw [Checked.execute, combine_lay hx hy]
    exact ⟨stack, h, rfl⟩
  | addRegisters x y =>
    obtain ⟨hx, hy⟩ := hfit
    rw [Checked.execute, addRegisters_lay hx hy]
    exact ⟨stack, h, rfl⟩
  | sub x y | subReversed x y =>
    obtain ⟨hx, hy⟩ := hfit
    rw [Checked.execute, combineAfterFlag_lay hx hy]
    exact ⟨stack, h, rfl⟩
  | shiftRight x | shiftLeft x =>
    rw [Checked.execute, combineAfterFlag_lay hfit hfit]
    exact ⟨stack, h, rfl⟩
  | draw x y n =>
    obtain ⟨hx, hy, hn⟩ := hfit
    have hshort : w.n.toNat ≤ 16 := by omega
    rw [Checked.execute]
    show Follows (Memory.Checked.readBlock vm.memory vm.i w.n >>= fun answer =>
      (vm.lay stack).attempt answer ((vm.lay stack).drawSprite w.x w.y)) _
    rw [readBlock_short hshort, hn]
    refine follows_attempt h fun rows hrows => ⟨drawSprite_lay hx hy ?_, rfl⟩
    rw [Memory.length_of_readBlock hrows]
    omega
  | readDelay x =>
    rw [Checked.execute, setReg_lay hfit]
    exact ⟨stack, h, rfl⟩
  | waitForKey x => exact follows_waitForKey h hfit
  | setDelay x | setSound x | addIndex x =>
    rw [Checked.execute, reg_lay hfit]
    exact ⟨stack, h, rfl⟩
  | fontSprite x =>
    rw [Checked.execute, reg_lay hfit]
    show Follows (Checked.glyphAddress (vm.reg x) >>= fun i =>
      Checked.done { vm.lay stack with i := i, redraw := true }) _
    rw [glyphAddress_eq]
    exact ⟨stack, h, rfl⟩
  | storeBcd x =>
    rw [Checked.execute, reg_lay hfit]
    exact follows_store h (show 3 ≤ 16 by decide)
  | storeRegisters x =>
    have hlen : (vm.regsUpTo x).length ≤ 16 := by
      rw [length_regsUpTo]
      exact x.val_lt
    rw [Checked.execute, regsUpTo_lay hfit]
    exact follows_store h hlen
  | loadRegisters x =>
    have hx : w.x.toNat = x.val := hfit
    have hlt := x.val_lt
    obtain ⟨hsum, hstop⟩ := stop_lay hx
    rw [Checked.execute, hsum]
    show Follows (Memory.Checked.readBlock vm.memory vm.i (w.x + 1) >>= fun answer =>
      (vm.lay stack).attempt answer ((vm.lay stack).setRegsUpTo w.x)) _
    rw [readBlock_short (by omega), hstop]
    exact follows_attempt h fun values hvalues =>
      ⟨setRegsUpTo_lay hx (Memory.length_of_readBlock hvalues), rfl⟩

/-! ## Operations -/

theorem fetch_lay : (vm.lay stack).fetch = .ok vm.fetch := by
  have hlen : instructionSize.toUInt64.toNat = 2 := rfl
  have hread : Memory.Checked.readBlock vm.memory vm.pc instructionSize.toUInt64 =
      .ok (vm.memory.readBlock vm.pc 2) := readBlock_short (by decide)
  rw [Checked.fetch]
  show (Memory.Checked.readBlock vm.memory vm.pc instructionSize.toUInt64 >>= _) = _
  rw [hread, fetch, Memory.readBlock]
  cases Memory.checkBlock vm.pc 2 <;> rfl

theorem step_lay (h : stack.Holds vm.stack) : Follows (vm.lay stack).step vm.step := by
  cases hfetch : vm.fetch with
  | error f =>
    have hstep : vm.step = .error f vm := by rw [step, hfetch]
    have hlay : (vm.lay stack).step = .ok (.error f (vm.lay stack)) := by
      rw [Checked.step, fetch_lay, hfetch]
      rfl
    rw [hstep]
    exact ⟨stack, h, hlay⟩
  | ok w =>
    cases hdecode : Instruction.decode w with
    | some i =>
      have hstep : vm.step = vm.advance.execute i := by
        rw [step, hfetch]
        simp only [hdecode]
      have hlay : (vm.lay stack).step = (vm.advance.lay stack).execute (.ofWord w) i := by
        rw [Checked.step, fetch_lay, hfetch]
        simp only [bind, Except.bind, hdecode]
        rfl
      rw [hstep, hlay]
      exact execute_lay (Operands.fit_ofWord (Instruction.denotes_of_decode hdecode)) h
    | none =>
      have hstep : vm.step = if vm.strict then .error (.unknownOpcode w) vm.advance
          else .ok (.unknownOpcode w) vm.advance := by
        rw [step, hfetch]
        simp only [hdecode]
      have hlay : (vm.lay stack).step = if vm.strict then
            .ok (.error (.unknownOpcode w) (vm.advance.lay stack))
          else .ok (.ok (.unknownOpcode w) (vm.advance.lay stack)) := by
        rw [Checked.step, fetch_lay, hfetch]
        simp only [bind, Except.bind, hdecode]
        rfl
      rw [hstep, hlay]
      cases vm.strict <;> exact ⟨stack, h, rfl⟩

theorem cycle_lay (h : stack.Holds vm.stack) :
    ∃ s, (vm.lay stack).cycle = .ok (vm.cycle.1, s) ∧ s.Holds vm.cycle.2 := by
  cases hrun : vm.runState with
  | halted =>
    rw [cycle_of_halted hrun]
    refine ⟨vm.lay stack, ?_, stack, h, rfl⟩
    have hlay : (vm.lay stack).runState = .halted := hrun
    rw [Checked.cycle, hlay]
    rfl
  | running =>
    have hlay : (vm.lay stack).runState = .running := hrun
    have hstep := step_lay h
    rw [cycle_of_running hrun, Checked.cycle, hlay]
    cases hresult : vm.step with
    | ok o vm' =>
      rw [hresult] at hstep
      obtain ⟨after, hafter, hanswer⟩ := hstep
      exact ⟨vm'.lay after, by rw [hanswer]; rfl, after, hafter, rfl⟩
    | error f vm' =>
      rw [hresult] at hstep
      obtain ⟨after, hafter, hanswer⟩ := hstep
      exact ⟨(vm'.haltAt vm.pc).lay after, by rw [hanswer]; rfl, after, hafter, rfl⟩

theorem countDown_eq (b : UInt8) : Checked.countDown b = .ok (if 0 < b then b - 1 else 0) := by
  rw [Checked.countDown]
  by_cases hb : 0 < b
  · have hle : 1 ≤ b := hb
    rw [if_pos hb, if_pos hb, checkedSub8_eq_ok hle]
  · have hzero : b = 0 := UInt8.le_zero_iff.mp (UInt8.not_lt.mp hb)
    rw [if_neg hb, if_neg hb, hzero]
    rfl

theorem tick_lay (vm : Vm) (stack : CallStack.Checked) :
    (vm.lay stack).tick = .ok (vm.tick.1, vm.tick.2.lay stack) := by
  cases hrun : vm.runState with
  | halted =>
    have hlay : (vm.lay stack).runState = .halted := hrun
    rw [tick_of_halted hrun, Checked.tick, hlay]
    rfl
  | running =>
    simp only [Checked.tick, tick, lay, hrun, countDown_eq]
    rfl

theorem hardReset_lay (vm : Vm) (stack : CallStack.Checked) :
    (vm.lay stack).hardReset = .ok (vm.hardReset.lay .empty) := by
  have hclear := Memory.Checked.clearRange_eq vm.memory programStart.toUInt64 (UInt64.ofNat memorySize)
  have hstart : programStart.toUInt64.toNat = programStart.toNat := UInt16.toNat_toUInt64 _
  have hstop : (UInt64.ofNat memorySize).toNat = memorySize := rfl
  rw [hstart, hstop] at hclear
  simp only [Checked.hardReset, bind, Except.bind, lay, hclear, Memory.Checked.installFont_eq]
  rfl

theorem copyProgram_lay (h : stack.Holds vm.stack) {program : List UInt8}
    (hsize : program.length ≤ maxProgramSize) :
    ∃ s, (vm.lay stack).copyProgram program = .ok ((vm.copyProgram program).1, s) ∧
      s.Holds (vm.copyProgram program).2 := by
  have hsum : checkedAdd programEnd.toUInt64 1 = .ok (programEnd.toUInt64 + 1) :=
    checkedAdd_eq_ok (by decide)
  have hclear := Memory.Checked.clearRange_eq vm.memory programStart.toUInt64 (programEnd.toUInt64 + 1)
  have hstart : programStart.toUInt64.toNat = programStart.toNat := UInt16.toNat_toUInt64 _
  have hstop : (programEnd.toUInt64 + 1).toNat = programEnd.toNat + 1 := by decide
  rw [hstart, hstop] at hclear
  have hbytes : (ByteBlock.ofList program).bytes = program :=
    ByteBlock.bytes_ofList (Nat.lt_of_le_of_lt hsize (by decide))
  have hwrite := Memory.Checked.writeBlock_eq
    (vm.memory.clearRange programStart.toNat (programEnd.toNat + 1)) (.ofList program) programStart
  rw [hbytes] at hwrite
  simp only [Checked.copyProgram, lay, hsum, hclear, hwrite, bind, Except.bind, copyProgram]
  cases Memory.writeBlock _ program programStart with
  | error f => exact ⟨_, rfl, stack, h, rfl⟩
  | ok memory => exact ⟨_, rfl, stack, h, rfl⟩

theorem load_lay (h : stack.Holds vm.stack) (program : List UInt8) :
    ∃ s, (vm.lay stack).load program = .ok ((vm.load program).1, s) ∧
      s.Holds (vm.load program).2 := by
  by_cases hsize : program.length ≤ maxProgramSize
  · have hempty : CallStack.Checked.empty.Holds vm.hardReset.stack := CallStack.Checked.holds_empty
    rw [load_of_fits vm hsize, Checked.load, if_neg (Nat.not_lt.mpr hsize), hardReset_lay]
    exact copyProgram_lay hempty hsize
  · have hlarge : maxProgramSize < program.length := Nat.lt_of_not_le hsize
    rw [load_of_too_large vm hlarge, Checked.load, if_pos hlarge]
    exact ⟨vm.lay stack, rfl, stack, h, rfl⟩

theorem loadFile_lay (h : stack.Holds vm.stack) (files : FileSystem) (path : String) :
    ∃ s, (vm.lay stack).loadFile files path = .ok ((vm.loadFile files path).1, s) ∧
      s.Holds (vm.loadFile files path).2 := by
  rw [Checked.loadFile, loadFile]
  cases files path with
  | ok program => exact load_lay h program
  | error failure => exact ⟨vm.lay stack, rfl, stack, h, rfl⟩

theorem setKey_lay (h : stack.Holds vm.stack) (key : UInt8) (down : Bool) :
    ((vm.lay stack).setKey key down).1 = (vm.setKey key down).1 ∧
      ((vm.lay stack).setKey key down).2.Holds (vm.setKey key down).2 := by
  have hset : Keypad.Checked.setPressed (vm.lay stack).keypad key down =
      vm.keypad.setPressed key down := Keypad.Checked.setPressed_eq ..
  rw [Checked.setKey, hset, setKey]
  cases vm.keypad.setPressed key down with
  | ok keypad => exact ⟨rfl, stack, h, rfl⟩
  | error f => exact ⟨rfl, stack, h, rfl⟩

namespace Checked

variable {s : Checked}

theorem create_eq (random : RandomSource) :
    create random = .ok ((fresh random).lay .empty) := by
  rw [create, Memory.Checked.installFont_eq]
  rfl

/-- **An operation on the arrays is the operation.** -/
theorem perform_eq (h : s.Holds vm) (op : Operation) :
    ∃ s', s.perform op = .ok ((vm.perform op).1, s') ∧ s'.Holds (vm.perform op).2 := by
  obtain ⟨stack, hstack, rfl⟩ := h
  cases op with
  | load program =>
    obtain ⟨s', hload, hholds⟩ := load_lay hstack program
    exact ⟨s', by rw [Checked.perform, hload]; rfl, hholds⟩
  | loadFile files path =>
    obtain ⟨s', hload, hholds⟩ := loadFile_lay hstack files path
    exact ⟨s', by rw [Checked.perform, hload]; rfl, hholds⟩
  | cycle =>
    obtain ⟨s', hcycle, hholds⟩ := cycle_lay hstack
    exact ⟨s', by rw [Checked.perform, hcycle]; rfl, hholds⟩
  | tick =>
    have hkept : vm.tick.2.stack = vm.stack := by
      unfold Vm.tick
      split <;> rfl
    refine ⟨vm.tick.2.lay stack, ?_, stack, hkept ▸ hstack, rfl⟩
    rw [Checked.perform, tick_lay]
    rfl
  | softReset => exact ⟨_, rfl, .empty, CallStack.Checked.holds_empty, rfl⟩
  | hardReset =>
    refine ⟨vm.hardReset.lay .empty, ?_, .empty, CallStack.Checked.holds_empty, rfl⟩
    rw [Checked.perform, hardReset_lay]
    rfl
  | setKey key down =>
    obtain ⟨hanswer, hholds⟩ := setKey_lay hstack key down
    refine ⟨((vm.lay stack).setKey key down).2, ?_, hholds⟩
    show Except.ok (Answer.keySet ((vm.lay stack).setKey key down).1, _) = _
    rw [hanswer]
    rfl
  | releaseKeys | setRedraw | setStrict => exact ⟨_, rfl, stack, hstack, rfl⟩

theorem performAll_eq (h : s.Holds vm) (ops : List Operation) :
    ∃ s', s.performAll ops = .ok ((vm.performAll ops).1, s') ∧ s'.Holds (vm.performAll ops).2 := by
  induction ops generalizing s vm with
  | nil => exact ⟨s, rfl, h⟩
  | cons op ops ih =>
    obtain ⟨after, hperform, hafter⟩ := perform_eq h op
    obtain ⟨last, hrest, hlast⟩ := ih hafter
    refine ⟨last, ?_, hlast⟩
    rw [performAll, hperform]
    simp only [bind, Except.bind, hrest]
    rfl

/-- Memory may be filled in any way. -/
theorem Holds.withMemory (h : s.Holds vm) (m : Memory) :
    Holds { s with memory := m } { vm with memory := m } := by
  obtain ⟨stack, hstack, rfl⟩ := h
  exact ⟨stack, hstack, rfl⟩

end Checked

/-- **The machine never aborts.** It is created, and then carries out any operations with any arguments,
also after memory has been filled in any way; the answers are those of the machine, and the arrays hold
it. -/
theorem machine_never_aborts (random : RandomSource) (ops ops' : List Operation) (m : Memory) :
    ∃ s s' s'' : Checked,
      Checked.create random = .ok s ∧
      s.performAll ops = .ok (((fresh random).performAll ops).1, s') ∧
      s'.Holds ((fresh random).performAll ops).2 ∧
      { s' with memory := m }.performAll ops' =
        .ok (({ ((fresh random).performAll ops).2 with memory := m }.performAll ops').1, s'') ∧
      s''.Holds ({ ((fresh random).performAll ops).2 with memory := m }.performAll ops').2 := by
  have hfresh : Checked.Holds ((fresh random).lay .empty) (fresh random) :=
    ⟨.empty, CallStack.Checked.holds_empty, rfl⟩
  obtain ⟨s', hrun, hreached⟩ := Checked.performAll_eq hfresh ops
  obtain ⟨s'', hrest, hlast⟩ := Checked.performAll_eq (hreached.withMemory m) ops'
  exact ⟨_, s', s'', Checked.create_eq random, hrun, hreached, hrest, hlast⟩

-- Arrays that hold no machine may abort: the pointer of this call stack has left its array.
example : CallStack.Checked.pop ⟨Vector.replicate 16 0, 17⟩ = .error (.indexOutOfRange 16 16) := by
  decide

end Vm

end Chip8
