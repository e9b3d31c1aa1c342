import Chip8.Proofs.View
import Mathlib.Data.Nat.Bitwise

/-!
# The instruction table

The table has a row for each instruction: what it needs, and the complete view of the machine after
it. A row says nothing about decoding, about the order in which components are changed or about how a
sprite is drawn. Every instruction that does not fault has a row, and a cycle gives what the row says.

* **`Effect`**: the rows; `Transition`: the row of a word, or none;
* **`execute_eq_ok_iff_effect`**: executing an instruction is its row, from `execute_of_effect` and
  `exists_effect`;
* `AsksRedraw`: the words that ask for a redraw;
* **`cycle_follows_table`**: a cycle that proceeds is the transition of the word at the program
  counter.
-/

namespace Chip8

open Instruction (Denotes)

/-- **The rows of the table.** -/
inductive Effect (s : View) : Instruction → Outcome → View → Prop
  | clearScreen : Effect s .clearScreen .executed
    { s.next with lit := fun _ => false, redraw := true }
  | ret {a : UInt16} {rest : List UInt16} (h : s.frames = a :: rest) : Effect s .ret .executed
    { s with pc := a, frames := rest, redraw := true }
  | jump (nnn : Address) : Effect s (.jump nnn) .executed { s with pc := nnn.toWord }
  | call (nnn : Address) (h : s.frames.length < 16) : Effect s (.call nnn) .executed
    { s with pc := nnn.toWord, frames := (s.pc + 2) :: s.frames }
  | skipIfEqual (x : Register) (nn : UInt8) : Effect s (.skipIfEqual x nn) .executed
    (s.skip (s.reg x = nn))
  | skipIfNotEqual (x : Register) (nn : UInt8) : Effect s (.skipIfNotEqual x nn) .executed
    (s.skip (s.reg x ≠ nn))
  | skipIfRegistersEqual (x y : Register) : Effect s (.skipIfRegistersEqual x y) .executed
    (s.skip (s.reg x = s.reg y))
  | load (x : Register) (nn : UInt8) : Effect s (.load x nn) .executed (s.next.write x nn)
  | add (x : Register) (nn : UInt8) : Effect s (.add x nn) .executed
    (s.next.write x (s.reg x + nn))
  | copy (x y : Register) : Effect s (.copy x y) .executed (s.next.write x (s.reg y))
  | or (x y : Register) : Effect s (.or x y) .executed (s.next.write x (s.reg x ||| s.reg y))
  | and (x y : Register) : Effect s (.and x y) .executed (s.next.write x (s.reg x &&& s.reg y))
  | xor (x y : Register) : Effect s (.xor x y) .executed (s.next.write x (s.reg x ^^^ s.reg y))
  | addRegisters (x y : Register) : Effect s (.addRegisters x y) .executed
    ((s.next.write x (s.reg x + s.reg y)).write flagRegister
      (if 255 < (s.reg x).toNat + (s.reg y).toNat then 1 else 0))
  | sub (x y : Register) : Effect s (.sub x y) .executed
    (s.next.writeAfterFlag (s.reg x > s.reg y) x fun v => v x - v y)
  | shiftRight (x : Register) : Effect s (.shiftRight x) .executed
    (s.next.writeAfterFlag ((s.reg x).toNat.testBit 0) x fun v => v x >>> 1)
  | subReversed (x y : Register) : Effect s (.subReversed x y) .executed
    (s.next.writeAfterFlag (s.reg y > s.reg x) x fun v => v y - v x)
  | shiftLeft (x : Register) : Effect s (.shiftLeft x) .executed
    (s.next.writeAfterFlag ((s.reg x).toNat.testBit 7) x fun v => v x <<< 1)
  | skipIfRegistersNotEqual (x y : Register) : Effect s (.skipIfRegistersNotEqual x y) .executed
    (s.skip (s.reg x ≠ s.reg y))
  | loadIndex (nnn : Address) : Effect s (.loadIndex nnn) .executed
    { s.next with i := nnn.toWord }
  | jumpOffset (nnn : Address) : Effect s (.jumpOffset nnn) .executed
    { s with pc := UInt16.ofNat (nnn.val + (s.reg 0).toNat) }
  | random (x : Register) (nn : UInt8) : Effect s (.random x nn) .executed
    { s.next.write x ((RandomSource.word s.random.key s.random.position).toUInt8 &&& nn) with
      random := { s.random with position := s.random.position + 1 } }
  | draw (x y : Register) (n : Fin 16) (h : s.i.toNat + n.val ≤ 4096) {hit : Bool}
    (hhit : hit = true ↔ ∃ p, s.sprite x y n p ∧ s.lit p = true) : Effect s (.draw x y n) .executed
    { s.next.write flagRegister (if hit then 1 else 0) with
      lit := fun p => s.lit p ^^ decide (s.sprite x y n p), redraw := true }
  | skipIfKeyPressed (x : Register) : Effect s (.skipIfKeyPressed x) .executed
    (s.skip (s.down (View.keyOf (s.reg x)) = true))
  | skipIfKeyNotPressed (x : Register) : Effect s (.skipIfKeyNotPressed x) .executed
    (s.skip (s.down (View.keyOf (s.reg x)) = false))
  | readDelay (x : Register) : Effect s (.readDelay x) .executed (s.next.write x s.delay)
  | takeKey (x : Register) {key : Fin 16} (h : s.down key = true)
    (hleast : ∀ q < key, s.down q = false) : Effect s (.waitForKey x) .executed
    { s.next.write x (UInt8.ofNat key.val) with down := Function.update s.down key false }
  | waitForKey (x : Register) (h : ∀ key, s.down key = false) :
    Effect s (.waitForKey x) .waitingForKey s
  | setDelay (x : Register) : Effect s (.setDelay x) .executed { s.next with delay := s.reg x }
  | setSound (x : Register) : Effect s (.setSound x) .executed { s.next with sound := s.reg x }
  | addIndex (x : Register) : Effect s (.addIndex x) .executed
    { s.next with i := s.i + (s.reg x).toUInt16 }
  | fontSprite (x : Register) : Effect s (.fontSprite x) .executed
    { s.next with i := UInt16.ofNat ((s.reg x).toNat * 5), redraw := true }
  | largeFontSprite (x : Register) : Effect s (.largeFontSprite x) .executed s.next
  | storeBcd (x : Register) (h : s.i.toNat + 3 ≤ 4096) : Effect s (.storeBcd x) .executed
    { s.next with byte := s.stored [s.reg x / 100, s.reg x / 10 % 10, s.reg x % 10] }
  | storeRegisters (x : Register) (h : s.i.toNat + (x.val + 1) ≤ 4096) :
    Effect s (.storeRegisters x) .executed
    { s.next with byte := s.stored (((List.finRange 16).take (x.val + 1)).map s.reg) }
  | loadRegisters (x : Register) (h : s.i.toNat + (x.val + 1) ≤ 4096) :
    Effect s (.loadRegisters x) .executed
    { s.next with reg := fun r => if r ≤ x then s.byte (s.i.toNat + r.val) else s.reg r }

/-- **The transition of a word.** A word that fits no pattern is reported and skipped. -/
inductive Transition (s : View) (w : UInt16) : Outcome → View → Prop
  | row {i : Instruction} {o : Outcome} {s' : View} (hw : Denotes w i) (he : Effect s i o s') :
    Transition s w o s'
  | unknown (hw : ∀ i, ¬ Denotes w i) (hs : s.strict = false) :
    Transition s w (.unknownOpcode w) s.next

namespace Vm

variable {vm vm' : Vm} {i : Instruction} {o : Outcome} {s' : View}

/-! ## Each row is carried out -/

theorem and_mask_ne_zero {b mask : UInt8} {k : Nat} (hmask : mask.toNat = 2 ^ k) :
    (b &&& mask != 0) = true ↔ b.toNat.testBit k = true := by
  rw [bne_iff_ne, ne_eq, ← UInt8.toNat_inj, UInt8.toNat_and, hmask, Nat.and_comm, Nat.two_pow_and]
  cases b.toNat.testBit k <;> simp

theorem getD_map_range (f : Nat → UInt8) (m k : Nat) (b : UInt8) :
    ((List.range m).map f)[k]?.getD b = if k < m then f k else b := by
  by_cases h : k < m <;> simp [h]

theorem exists_done {t : Vm} (ht : t.view = s') :
    ∃ vm', done t = .ok .executed vm' ∧ vm'.view = s' := ⟨t, rfl, ht⟩

/-- **A row is carried out.** -/
theorem execute_of_effect (h : Effect vm.view i o s') :
    ∃ vm', vm.advance.execute i = .ok o vm' ∧ vm'.view = s' := by
  cases h with
  | clearScreen =>
    have hlit : Display.blank.lit = fun _ => false := funext Display.lit_blank
    exact exists_done (congrArg (fun lit => { vm.view.next with lit := lit, redraw := true }) hlit)
  | @ret a rest h =>
    have hb : rest.length ≤ stackSize := by
      have hlen : vm.stack.frames.length = rest.length + 1 := by
        rw [show vm.stack.frames = a :: rest from h, List.length_cons]
      have := vm.stack.bounded
      omega
    have hpop : vm.advance.stack.pop = .ok (a, ⟨rest, hb⟩) := CallStack.pop_eq_ok.mpr h
    exact ⟨_, attempt_eq_ok.mpr ⟨rfl, _, hpop, rfl⟩, rfl⟩
  | jump nnn => exact exists_done rfl
  | call nnn h =>
    have hpush : vm.advance.stack.push vm.advance.pc = .ok ⟨vm.advance.pc :: vm.stack.frames, h⟩ :=
      CallStack.push_eq_ok.mpr ⟨h, rfl⟩
    exact ⟨_, attempt_eq_ok.mpr ⟨rfl, _, hpush, rfl⟩, rfl⟩
  | skipIfEqual | skipIfRegistersEqual => exact exists_done (view_skipIf vm beq_iff_eq)
  | skipIfNotEqual | skipIfRegistersNotEqual => exact exists_done (view_skipIf vm bne_iff_ne)
  | skipIfKeyPressed x =>
    have hkey : vm.advance.keyDown x = true ↔ vm.view.down (View.keyOf (vm.view.reg x)) = true := by
      rw [keyDown_eq]
      rfl
    exact exists_done (view_skipIf vm hkey)
  | skipIfKeyNotPressed x =>
    have hkey : (!vm.advance.keyDown x) = true ↔
        vm.view.down (View.keyOf (vm.view.reg x)) = false := by
      rw [keyDown_eq, Bool.not_eq_true']
      rfl
    exact exists_done (view_skipIf vm hkey)
  | load | add | copy | or | and | xor | readDelay => exact exists_done (view_setReg ..)
  | addRegisters x y =>
    refine exists_done ?_
    rw [addRegisters, view_setFlag, view_setReg, toUInt8_eq_ite decide_eq_true_iff]
    rfl
  | sub x y =>
    exact exists_done (view_setReg_setFlag vm.advance decide_eq_true_iff x fun v => v x - v y)
  | subReversed x y =>
    exact exists_done (view_setReg_setFlag vm.advance decide_eq_true_iff x fun v => v y - v x)
  | shiftRight x =>
    have hbit := and_mask_ne_zero (b := vm.reg x) (show (1 : UInt8).toNat = 2 ^ 0 from rfl)
    exact exists_done (view_setReg_setFlag vm.advance hbit x fun v => v x >>> 1)
  | shiftLeft x =>
    have hbit := and_mask_ne_zero (b := vm.reg x) (show (0x80 : UInt8).toNat = 2 ^ 7 from rfl)
    exact exists_done (view_setReg_setFlag vm.advance hbit x fun v => v x <<< 1)
  | jumpOffset nnn =>
    have hpc : nnn.toWord + (vm.reg offsetRegister).toUInt16 =
        UInt16.ofNat (nnn.val + (vm.reg offsetRegister).toNat) := by
      apply UInt16.toNat_inj.mp
      rw [UInt16.toNat_add, Address.toNat_toWord, UInt8.toNat_toUInt16, UInt16.toNat_ofNat']
    exact exists_done (congrArg (fun pc => { vm.view with pc := pc }) hpc)
  | random x nn =>
    refine exists_done ?_
    rw [drawRandom, view_setReg]
    rfl
  | draw x y n h hhit =>
    have hread := Memory.readBlock_eq_ok (m := vm.memory).mpr ⟨h, rfl⟩
    exact ⟨_, attempt_eq_ok.mpr ⟨rfl, _, hread, rfl⟩, view_drawSprite vm.advance hhit⟩
  | @takeKey x key h hleast =>
    have hfirst : vm.advance.keypad.firstPressed = some key :=
      Keypad.firstPressed_eq_some.mpr ⟨h, hleast⟩
    refine ⟨_, waitForKey_of_some hfirst x, ?_⟩
    refine (view_releaseKey (vm.advance.setReg x (UInt8.ofNat key.val)) key).trans ?_
    rw [view_setReg]
    rfl
  | waitForKey x h =>
    have hfirst : vm.advance.keypad.firstPressed = none := Keypad.firstPressed_eq_none.mpr h
    exact ⟨_, waitForKey_of_none hfirst x, view_rewind_advance vm⟩
  | fontSprite x =>
    have hi : glyphAddress (vm.reg x) = UInt16.ofNat ((vm.reg x).toNat * 5) := by
      rw [glyphAddress, Nat.zero_add, Nat.mul_comm]
    exact exists_done (congrArg (fun i => { vm.view.next with i := i, redraw := true }) hi)
  | storeBcd x h =>
    have hwrite : vm.memory.writeBlock (decimalDigits (vm.reg x)) vm.i =
        .ok (vm.memory.storeAll vm.i.toNat (decimalDigits (vm.reg x))) :=
      Memory.writeBlock_eq_ok.mpr ⟨h, rfl⟩
    refine ⟨_, attempt_eq_ok.mpr ⟨rfl, _, hwrite, rfl⟩, ?_⟩
    exact view_storeAll vm.advance h
  | storeRegisters x h =>
    have hlen : vm.i.toNat + (vm.regsUpTo x).length ≤ memorySize := by
      rw [length_regsUpTo]
      exact h
    have hwrite := Memory.writeBlock_eq_ok (m := vm.memory).mpr ⟨hlen, rfl⟩
    refine ⟨_, attempt_eq_ok.mpr ⟨rfl, _, hwrite, rfl⟩, ?_⟩
    refine (view_storeAll vm.advance hlen).trans ?_
    rw [regsUpTo_eq]
    rfl
  | loadRegisters x h =>
    have hread := Memory.readBlock_eq_ok (m := vm.memory).mpr ⟨h, rfl⟩
    refine ⟨_, attempt_eq_ok.mpr ⟨rfl, _, hread, rfl⟩, ?_⟩
    refine (view_setRegs vm.advance _).trans ?_
    have hreg : (fun r : Register =>
        ((List.range (x.val + 1)).map fun k => vm.memory.byte (vm.i.toNat + k))[r.val]?.getD
          (vm.reg r)) =
        fun r => if r ≤ x then vm.memory.byte (vm.i.toNat + r.val) else vm.reg r := by
      funext r
      rw [getD_map_range]
      exact if_congr Nat.lt_succ_iff rfl rfl
    exact congrArg (fun reg => { vm.view.next with reg := reg }) hreg
  | loadIndex | setDelay | setSound | addIndex | largeFontSprite => exact exists_done rfl

/-! ## Each instruction has a row -/

/-- The instructions without a row at a machine are those that fault at it. -/
theorem exists_effect (h : ∀ f, ¬ Raises vm.stack.depth vm.i i f) :
    ∃ o s', Effect vm.view i o s' := by
  cases i with
  | ret =>
    cases hframes : vm.view.frames with
    | nil =>
      have hdepth : vm.stack.depth = 0 := congrArg List.length hframes
      exact absurd (.ret hdepth) (h _)
    | cons a rest => exact ⟨_, _, .ret hframes⟩
  | call nnn =>
    have hle := vm.stack.depth_le
    have hne : vm.stack.depth ≠ 16 := fun hfull => h _ (.call nnn hfull)
    exact ⟨_, _, .call nnn (Nat.lt_of_le_of_ne hle hne)⟩
  | draw x y n =>
    have hi : vm.i.toNat + n.val ≤ 4096 := Nat.le_of_not_lt fun hi => h _ (.draw x y n hi)
    have hn : n.val ≤ 32 := by omega
    exact ⟨_, _, .draw x y n hi (vm.display.drawSprite_fst hn _)⟩
  | waitForKey x =>
    cases hfirst : vm.keypad.firstPressed with
    | none => exact ⟨_, _, .waitForKey x (Keypad.firstPressed_eq_none.mp hfirst)⟩
    | some key =>
      obtain ⟨hdown, hleast⟩ := Keypad.firstPressed_eq_some.mp hfirst
      exact ⟨_, _, .takeKey x hdown hleast⟩
  | storeBcd x => exact ⟨_, _, .storeBcd x (Nat.le_of_not_lt fun hi => h _ (.storeBcd x hi))⟩
  | storeRegisters x =>
    exact ⟨_, _, .storeRegisters x (Nat.le_of_not_lt fun hi => h _ (.storeRegisters x hi))⟩
  | loadRegisters x =>
    exact ⟨_, _, .loadRegisters x (Nat.le_of_not_lt fun hi => h _ (.loadRegisters x hi))⟩
  | _ => exact ⟨_, _, by constructor⟩

/-- **Executing an instruction is its row.** -/
theorem execute_eq_ok_iff_effect :
    vm.advance.execute i = .ok o vm' ↔ Effect vm.view i o vm'.view := by
  constructor
  · intro h
    have hraises : ∀ f, ¬ Raises vm.stack.depth vm.i i f := by
      intro f hf
      have herr : vm.advance.execute i = .error f vm.advance := execute_eq_error.mpr ⟨hf, rfl⟩
      rw [h] at herr
      cases herr
    obtain ⟨o₁, s₁, he⟩ := exists_effect hraises
    obtain ⟨vm₁, h₁, rfl⟩ := execute_of_effect he
    rw [h] at h₁
    cases h₁
    exact he
  · intro he
    obtain ⟨vm₁, h₁, hview⟩ := execute_of_effect he
    rw [h₁, view_injective hview]

/-- Proceeding is the transition of the word at the program counter. -/
theorem proceeds_iff_transition : Proceeds vm o vm' ↔ Transition vm.view vm.word o vm'.view := by
  constructor
  · intro h
    cases h with
    | executed hw he => exact .row hw (execute_eq_ok_iff_effect.mp he)
    | skipped hw hs => exact .unknown hw hs
  · intro h
    generalize hs' : vm'.view = s' at h
    cases h with
    | row hw he =>
      rw [← hs'] at he
      exact .executed hw (execute_eq_ok_iff_effect.mpr he)
    | unknown hw hs =>
      have hadvance : vm' = vm.advance := view_injective hs'
      rw [hadvance]
      exact .skipped hw hs

end Vm

/-! ## Redraws and reports -/

/-- The instructions that ask for a redraw. -/
def Instruction.redraws : Instruction → Bool
  | .clearScreen | .ret | .draw .. | .fontSprite _ => true
  | _ => false

/-- **The words that ask for a redraw.** -/
inductive AsksRedraw : UInt16 → Prop
  | clearScreen : AsksRedraw 0x00E0
  | ret : AsksRedraw 0x00EE
  | draw (x y : Register) (n : Fin 16) : AsksRedraw (wordXYN 0xD x y n.val)
  | fontSprite (x : Register) : AsksRedraw (wordXNN 0xF x 0x29)

theorem AsksRedraw.exists_denotes {w : UInt16} (h : AsksRedraw w) :
    ∃ i, Denotes w i ∧ i.redraws = true := by
  cases h with
  | clearScreen => exact ⟨_, .clearScreen, rfl⟩
  | ret => exact ⟨_, .ret, rfl⟩
  | draw x y n => exact ⟨_, .draw x y n, rfl⟩
  | fontSprite x => exact ⟨_, .fontSprite x, rfl⟩

theorem asksRedraw_iff {w : UInt16} {i : Instruction} (hw : Denotes w i) :
    AsksRedraw w ↔ i.redraws = true := by
  constructor
  · intro h
    obtain ⟨j, hj, hredraws⟩ := h.exists_denotes
    rw [hw.unique hj]
    exact hredraws
  · intro h
    cases hw with
    | clearScreen => exact .clearScreen
    | ret => exact .ret
    | draw x y n => exact .draw x y n
    | fontSprite x => exact .fontSprite x
    | _ => cases h

theorem Effect.redraw_eq {s s' : View} {i : Instruction} {o : Outcome} (h : Effect s i o s') :
    s'.redraw = (s.redraw || i.redraws) := by
  cases h with
  | clearScreen | ret | draw | fontSprite => exact (Bool.or_true _).symm
  | _ => exact (Bool.or_false _).symm

theorem Transition.redraw_iff {s s' : View} {w : UInt16} {o : Outcome} (h : Transition s w o s') :
    s'.redraw = true ↔ s.redraw = true ∨ AsksRedraw w := by
  cases h with
  | row hw he => rw [he.redraw_eq, Bool.or_eq_true, asksRedraw_iff hw]
  | unknown hw hs =>
    have hno : ¬ AsksRedraw w := by
      intro h
      obtain ⟨i, hi, -⟩ := h.exists_denotes
      exact hw i hi
    simp only [View.next, hno, or_false]

theorem Transition.unknownOpcode_iff {s s' : View} {w w' : UInt16} {o : Outcome}
    (h : Transition s w o s') :
    o = .unknownOpcode w' ↔ w' = w ∧ s.strict = false ∧ ∀ i, ¬ Denotes w i := by
  cases h with
  | row hw he =>
    have hne : o ≠ .unknownOpcode w' := by cases he <;> nofun
    simp only [hne, false_iff]
    rintro ⟨-, -, hno⟩
    exact hno _ hw
  | unknown hw hs => simp [hs, hw, eq_comm]

/-! ## Cycles -/

namespace Vm

/-- **The cycles of a running machine.** A cycle that does not fault is the transition of the word at
the program counter, in every component. It reports the words that fit no pattern, and those alone,
and a redraw is asked for by four kinds of words. -/
theorem cycle_follows_table {vm : Vm} (hrun : vm.runState = .running) (hpc : vm.pc ≤ 0xFFE) :
    (∀ o vm', vm.cycle = (.ok o, vm') ↔ Transition vm.view vm.word o vm'.view) ∧
    (∀ w, vm.cycle.1 = .ok (.unknownOpcode w) ↔
      w = vm.word ∧ vm.strict = false ∧ ∀ i, ¬ Denotes vm.word i) ∧
    ∀ o vm', vm.cycle = (.ok o, vm') →
      (vm'.redraw = true ↔ vm.redraw = true ∨ AsksRedraw vm.word) := by
  have hfetch : vm.pc.toNat + 2 ≤ memorySize := by
    have hle := UInt16.le_iff_toNat_le.mp hpc
    exact Nat.add_le_add_right hle 2
  have htable : ∀ o vm', vm.cycle = (.ok o, vm') ↔ Transition vm.view vm.word o vm'.view := by
    intro o vm'
    rw [cycle_eq_ok_iff hrun, and_iff_right hfetch, proceeds_iff_transition]
  refine ⟨htable, ?_, ?_⟩
  · intro w
    constructor
    · intro h
      have hcycle : vm.cycle = (.ok (.unknownOpcode w), vm.cycle.2) := Prod.ext h rfl
      exact ((htable _ _).mp hcycle).unknownOpcode_iff.mp rfl
    · rintro ⟨rfl, hs, hw⟩
      have hcycle := (htable (.unknownOpcode vm.word) vm.advance).mpr (.unknown hw hs)
      exact congrArg Prod.fst hcycle
  · intro o vm' h
    exact ((htable o vm').mp h).redraw_iff

/-- About to subtract the flag register, which holds 3, from a register that holds 5. -/
def subtractingFlag : Vm :=
  { fresh (.ofSeed 0) with
    memory := Memory.initial.storeAll 0x200 [0x80, 0xF5]
    v := (zeroRegs.put offsetRegister 5).put flagRegister 3
    runState := .running }

/-- The flag is written first, so it is 1 that is subtracted. -/
theorem cycle_follows_table_sub_flag :
    subtractingFlag.runState = .running ∧ subtractingFlag.pc ≤ 0xFFE ∧
      subtractingFlag.cycle = (.ok .executed, { subtractingFlag with
        pc := 0x202, v := (zeroRegs.put offsetRegister 4).put flagRegister 1 }) := by
  have hpc : subtractingFlag.pc ≤ 0xFFE := by decide
  have hword : subtractingFlag.word = wordXYN 8 offsetRegister flagRegister 5 := by decide +kernel
  have hw : Denotes subtractingFlag.word (.sub offsetRegister flagRegister) := by
    rw [hword]
    exact .sub _ _
  have hrow := Effect.sub (s := subtractingFlag.view) offsetRegister flagRegister
  refine ⟨rfl, hpc, ((cycle_follows_table rfl hpc).1 _ _).mpr (.row hw ?_)⟩
  convert hrow using 1
  refine View.ext rfl (funext ?_) rfl rfl rfl rfl rfl rfl rfl rfl rfl rfl rfl
  decide +kernel

end Vm

end Chip8
