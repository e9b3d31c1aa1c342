import Chip8.Proofs.Table
import Chip8.Vm.Operation

/-!
# Cycles and loads in a run

A cycle does nothing, takes a transition of the table, or faults, and a load replaces the machine or
leaves it as it is. Both are said here once for use in runs.

* **`Cycled`**, `cycle_eq_iff`: the three courses of a cycle;
* `Effect.runState_eq`, `Effect.lit_eq`: what instructions leave alone;
* **`loaded`**, `load_eq`: the machine after an accepted program, and when a program is accepted;
* `runState_cycle`, `runState_load`, …: what starts and halts the machine;
* `exists_effect_of_ne`: what changes in a cycle is changed by an instruction;
* **`Performed`**, `performed`: the courses of an operation;
* `view_softReset`, `view_hardReset`, `view_loaded`: resets and loads as changes of the view;
* `Vm.booted`, `load_fresh`, `performAll_load_fresh`: a fresh machine with its first program.
-/

namespace Chip8

open Instruction (Denotes)

/-! ## What instructions leave alone -/

namespace Effect

variable {s s' : View} {i : Instruction} {o : Outcome}

/-- No instruction halts the machine. -/
theorem runState_eq (h : Effect s i o s') : s'.runState = s.runState := by
  cases h <;> rfl

/-- An instruction that asks for no redraw leaves the display alone. -/
theorem lit_eq (h : Effect s i o s') (hi : i.redraws = false) : s'.lit = s.lit := by
  cases h with
  | clearScreen | draw => cases hi
  | _ => rfl

end Effect

namespace Transition

variable {s s' : View} {w : UInt16} {o : Outcome}

theorem runState_eq (h : Transition s w o s') : s'.runState = s.runState := by
  cases h with
  | row hw he => exact he.runState_eq
  | unknown hw hs => rfl

/-- After a transition without a request to redraw the display is what it was, and none was asked for
before. -/
theorem lit_eq (h : Transition s w o s') (hredraw : s'.redraw = false) :
    s.redraw = false ∧ s'.lit = s.lit := by
  cases h with
  | row hw he =>
    rw [he.redraw_eq, Bool.or_eq_false_iff] at hredraw
    exact ⟨hredraw.1, he.lit_eq hredraw.2⟩
  | unknown hw hs => exact ⟨hredraw, rfl⟩

end Transition

namespace Vm

variable {vm vm' : Vm}

/-! ## The courses of a cycle -/

/-- **The courses of a cycle.** -/
inductive Cycled (vm : Vm) : Except Fault Outcome → Vm → Prop
  | idle (hrun : vm.runState = .halted) : Cycled vm (.ok .halted) vm
  | moved {o : Outcome} {vm' : Vm} (hrun : vm.runState = .running) (hpc : vm.pc.toNat + 2 ≤ 4096)
    (h : Transition vm.view vm.word o vm'.view) : Cycled vm (.ok o) vm'
  | faulted {f : Fault} (hrun : vm.runState = .running) (h : Faults vm f) :
    Cycled vm (.error f) { vm with runState := .halted }

/-- **A cycle takes one of its courses.** -/
theorem cycle_eq_iff {answer : Except Fault Outcome} :
    vm.cycle = (answer, vm') ↔ Cycled vm answer vm' := by
  constructor
  · intro h
    cases hrun : vm.runState with
    | halted =>
      rw [cycle_of_halted hrun] at h
      cases h
      exact .idle hrun
    | running =>
      cases answer with
      | ok o =>
        obtain ⟨hpc, hp⟩ := (cycle_eq_ok_iff hrun).mp h
        exact .moved hrun hpc (proceeds_iff_transition.mp hp)
      | error f =>
        obtain ⟨-, hf, rfl⟩ := cycle_eq_error_iff.mp h
        exact .faulted hrun hf
  · intro h
    cases h with
    | idle hrun => exact cycle_of_halted hrun
    | moved hrun hpc h => exact (cycle_eq_ok_iff hrun).mpr ⟨hpc, proceeds_iff_transition.mpr h⟩
    | faulted hrun hf => exact cycle_eq_error_iff.mpr ⟨hrun, hf, rfl⟩

/-! ## Loads -/

/-- The machine that a program of fitting size has been loaded into. -/
def loaded (vm : Vm) (program : List UInt8) : Vm :=
  let cleared := vm.hardReset.memory.clearRange programStart.toNat (programEnd.toNat + 1)
  { vm.hardReset with
    memory := cleared.storeAll programStart.toNat program
    runState := .running
    redraw := true }

/-- **A load accepts every program of fitting size**, and refuses the others before it does anything. -/
theorem load_eq (vm : Vm) (program : List UInt8) :
    vm.load program =
      if program.length ≤ maxProgramSize then (.ok program.length, vm.loaded program)
      else (.error (.programTooLarge program.length), vm) := by
  by_cases h : program.length ≤ maxProgramSize
  · have hfits : programStart.toNat + program.length ≤ memorySize := by
      have : maxProgramSize = memorySize - programStart.toNat := rfl
      have : programStart.toNat ≤ memorySize := by decide
      omega
    have hwrite := Memory.writeBlock_eq_ok
      (m := vm.hardReset.memory.clearRange programStart.toNat (programEnd.toNat + 1)).mpr ⟨hfits, rfl⟩
    rw [if_pos h, load_of_fits vm h, copyProgram, hwrite]
    rfl
  · rw [if_neg h, load_of_too_large vm (Nat.lt_of_not_le h)]

/-- The memory that a program is loaded into: the font, the bytes below the program as they were, the
program, and zeros. -/
def image (m : Memory) (program : List UInt8) (a : Nat) : UInt8 :=
  if a < 80 then fontBytes[a]?.getD 0
  else if a < 512 then m.byte a
  else program[a - 512]?.getD 0

/-- A hard reset loads no program. -/
theorem byte_hardReset (vm : Vm) (a : Nat) : vm.hardReset.memory.byte a = image vm.memory [] a := by
  refine (Memory.byte_installFont _ a).trans ?_
  rw [Memory.byte_clearRange, image, List.getElem?_nil, Option.getD_none]
  have hlen : fontBytes.length = 80 := length_fontBytes
  have hstart : programStart.toNat = 512 := rfl
  by_cases hglyph : a < 80
  · have hsome := List.getElem?_eq_getElem (show a < fontBytes.length by omega)
    rw [if_pos hglyph, hsome, Option.getD_some, Option.getD_some]
  · rw [if_neg hglyph, List.getElem?_eq_none (by omega), Option.getD_none, hstart]
    by_cases hlow : a < 512
    · rw [if_pos hlow, if_neg (by omega)]
    · rw [if_neg hlow]
      by_cases hsize : a < memorySize
      · rw [if_pos (by omega)]
      · rw [if_neg (by omega), Memory.byte_of_ge _ (Nat.le_of_not_lt hsize)]

theorem byte_loaded {program : List UInt8} (h : program.length ≤ maxProgramSize) (a : Nat) :
    (vm.loaded program).memory.byte a = image vm.memory program a := by
  have hle : program.length ≤ 3584 := h
  have hfits : 512 + program.length ≤ 4096 := by omega
  refine (Memory.byte_storeAll _ program hfits a).trans ?_
  rw [Memory.byte_clearRange, byte_hardReset, image, image]
  have hstart : programStart.toNat = 512 := rfl
  by_cases hlow : a < 512
  · have hcleared : ¬ (programStart.toNat ≤ a ∧ a < programEnd.toNat + 1) := by omega
    rw [if_pos hlow, if_neg hcleared]
    simp only [if_pos hlow]
  · have hglyph : ¬ a < 80 := by omega
    simp only [if_neg hlow, if_neg hglyph, List.getElem?_nil, Option.getD_none, ite_self]

/-! ## The run state -/

theorem runState_load (vm : Vm) (program : List UInt8) :
    (vm.load program).2.runState =
      if (vm.load program).1.isOk then .running else vm.runState := by
  rw [load_eq]
  split <;> rfl

theorem runState_loadFile (vm : Vm) (files : FileSystem) (path : String) :
    (vm.loadFile files path).2.runState =
      if (vm.loadFile files path).1.isOk then .running else vm.runState := by
  unfold loadFile
  split
  · exact runState_load ..
  · rfl

/-- Only a fault changes the run state in a cycle. -/
theorem runState_cycle (vm : Vm) :
    vm.cycle.2.runState = if vm.cycle.1.isOk then vm.runState else .halted := by
  rcases hcycle : vm.cycle with ⟨answer, after⟩
  cases cycle_eq_iff.mp hcycle with
  | idle hrun => rfl
  | moved hrun hpc ht => exact ht.runState_eq
  | faulted hrun hfault => rfl

/-- **What a cycle changes is changed by an instruction**, program counter and run state apart. -/
theorem exists_effect_of_ne {α : Type} {f : View → α} (hpc : ∀ s : View, f s.next = f s)
    (hrun : ∀ (s : View) (r : RunState), f { s with runState := r } = f s)
    (h : f vm.cycle.2.view ≠ f vm.view) :
    ∃ i o, vm.cycle.1 = .ok o ∧ Denotes vm.word i ∧ Effect vm.view i o vm.cycle.2.view := by
  rcases hcycle : vm.cycle with ⟨answer, after⟩
  rw [hcycle] at h
  cases cycle_eq_iff.mp hcycle with
  | idle => exact absurd rfl h
  | faulted => exact absurd (hrun vm.view .halted) h
  | @moved o after _ _ ht =>
    change f after.view ≠ f vm.view at h
    change ∃ i o', _ ∧ _ ∧ Effect vm.view i o' after.view
    generalize after.view = s at ht h ⊢
    cases ht with
    | unknown => exact absurd (hpc vm.view) h
    | @row i _ _ hw he => exact ⟨i, o, rfl, hw, he⟩

theorem runState_tick (vm : Vm) : vm.tick.2.runState = vm.runState := by
  unfold tick
  split <;> simp [*]

theorem runState_setKey (vm : Vm) (key : UInt8) (down : Bool) :
    (vm.setKey key down).2.runState = vm.runState := by
  unfold setKey
  split <;> rfl

/-! ## The courses of an operation -/

/-- The operation is a reset, or loads a program that is accepted. -/
def restarts (vm : Vm) : Operation → Bool
  | .softReset | .hardReset => true
  | .load program => (vm.load program).1.isOk
  | .loadFile files path => (vm.loadFile files path).1.isOk
  | _ => false

/-- The operation loads a program. -/
def Operation.isLoad : Operation → Bool
  | .load _ | .loadFile .. => true
  | _ => false

/-- **What an operation makes of a machine.** A load replaces the machine or leaves it as it is. -/
inductive Performed (vm : Vm) : Operation → Vm → Prop
  | cycle : Performed vm .cycle vm.cycle.2
  | tick : Performed vm .tick
    { vm with delay := vm.tick.2.delay, sound := vm.tick.2.sound }
  | loaded {op : Operation} {program : List UInt8} (hop : op.isLoad = true)
    (hrestarts : vm.restarts op = true) (hfits : program.length ≤ maxProgramSize) :
    Performed vm op (vm.loaded program)
  | refused {op : Operation} (hop : op.isLoad = true) (hrestarts : vm.restarts op = false) :
    Performed vm op vm
  | softReset : Performed vm .softReset vm.softReset
  | hardReset : Performed vm .hardReset vm.hardReset
  | setKey (key : UInt8) (down : Bool) (keypad : Keypad) :
    Performed vm (.setKey key down) { vm with keypad := keypad }
  | releaseKeys : Performed vm .releaseKeys vm.releaseKeys
  | setRedraw (on : Bool) : Performed vm (.setRedraw on) (vm.setRedraw on)
  | setStrict (on : Bool) : Performed vm (.setStrict on) (vm.setStrict on)

theorem tick_snd (vm : Vm) :
    vm.tick.2 = { vm with delay := vm.tick.2.delay, sound := vm.tick.2.sound } := by
  unfold tick
  split <;> rfl

theorem performed_of_load {op : Operation} {program : List UInt8} (hop : op.isLoad = true)
    (hanswer : vm.restarts op = (vm.load program).1.isOk) :
    Performed vm op (vm.load program).2 := by
  rw [load_eq] at hanswer ⊢
  by_cases hfits : program.length ≤ maxProgramSize
  · rw [if_pos hfits] at hanswer ⊢
    exact .loaded hop hanswer hfits
  · rw [if_neg hfits] at hanswer ⊢
    exact .refused hop hanswer

/-- **Every operation takes one of these courses.** -/
theorem performed (vm : Vm) (op : Operation) : Performed vm op (vm.perform op).2 := by
  cases op with
  | cycle => exact .cycle
  | tick =>
    have htick : (vm.perform .tick).2 = vm.tick.2 := rfl
    rw [htick, tick_snd]
    exact .tick
  | load program => exact performed_of_load rfl rfl
  | loadFile files path =>
    cases hpath : files path with
    | ok program =>
      simp only [perform, loadFile, hpath]
      exact performed_of_load rfl (by simp only [restarts, loadFile, hpath])
    | error failure =>
      simp only [perform, loadFile, hpath]
      exact .refused rfl (by simp only [restarts, loadFile, hpath]; rfl)
  | softReset => exact .softReset
  | hardReset => exact .hardReset
  | setKey key down =>
    cases hkey : vm.keypad.setPressed key down with
    | ok keypad =>
      simp only [perform, setKey, hkey]
      exact .setKey key down keypad
    | error fault =>
      simp only [perform, setKey, hkey]
      exact .setKey key down vm.keypad
  | releaseKeys => exact .releaseKeys
  | setRedraw on => exact .setRedraw on
  | setStrict on => exact .setStrict on

/-! ## Resets and loads as changes of the view -/

theorem view_softReset (vm : Vm) :
    vm.softReset.view = { vm.view with
      reg := fun _ => 0
      i := 0
      pc := 0x200
      lit := fun _ => false
      delay := 0
      sound := 0
      frames := []
      redraw := true } := by
  have hreg : vm.softReset.reg = fun _ => 0 := funext fun r => Vector.get_constant 0 r
  have hlit : vm.softReset.display.lit = fun _ => false := funext Display.lit_blank
  rw [view, hreg, hlit]
  simp only [softReset, CallStack.empty, view]

theorem view_hardReset (vm : Vm) :
    vm.hardReset.view = { vm.softReset.view with
      byte := image vm.memory []
      runState := .halted } := by
  have hbyte : vm.hardReset.memory.byte = image vm.memory [] := funext (byte_hardReset vm)
  have hreg : vm.hardReset.reg = fun _ => 0 := funext fun r => Vector.get_constant 0 r
  have hlit : vm.hardReset.display.lit = fun _ => false := funext Display.lit_blank
  rw [view_softReset, view, hbyte, hreg, hlit]
  simp only [hardReset, softReset, CallStack.empty, view]

/-- **The machine after a load.** Memory apart, only the keypad, the strictness and the random source
are those from before. -/
theorem view_loaded {program : List UInt8} (h : program.length ≤ maxProgramSize) :
    (vm.loaded program).view = { vm.softReset.view with
      byte := image vm.memory program
      runState := .running } := by
  have hbyte : (vm.loaded program).memory.byte = image vm.memory program := funext (byte_loaded h)
  have hreg : (vm.loaded program).reg = fun _ => 0 := funext fun r => Vector.get_constant 0 r
  have hlit : (vm.loaded program).display.lit = fun _ => false := funext Display.lit_blank
  rw [view_softReset, view, hbyte, hreg, hlit]
  simp only [loaded, hardReset, softReset, CallStack.empty, view]

/-- A machine with its first program, which finds memory cleared. -/
def booted (random : RandomSource) (program : List UInt8) : Vm :=
  { fresh random with
    memory := Memory.initial.storeAll 512 program
    redraw := true
    runState := .running }

theorem loaded_fresh (random : RandomSource) {program : List UInt8}
    (h : program.length ≤ maxProgramSize) : (fresh random).loaded program = booted random program := by
  have hle : program.length ≤ 3584 := h
  have hfits : 512 + program.length ≤ memorySize := Nat.add_le_add_left hle 512
  have hlen : fontBytes.length = 80 := length_fontBytes
  have hbyte : image Memory.initial program = (Memory.initial.storeAll 512 program).byte := by
    funext a
    rw [Memory.byte_storeAll _ _ hfits, Memory.byte_initial, image, Memory.byte_initial]
    by_cases hlow : a < 512
    · simp only [if_pos hlow, ite_self]
    · rw [if_neg (by omega), if_neg hlow, if_neg hlow, List.getElem?_eq_none (l := fontBytes) (by omega),
        Option.getD_none]
  have hreg : (fresh random).reg = fun _ => 0 := funext fun r => Vector.get_constant 0 r
  have hlit : (fresh random).display.lit = fun _ => false := funext Display.lit_blank
  apply view_injective
  rw [view_loaded h, view_softReset]
  exact View.ext hbyte hreg.symm rfl rfl hlit.symm rfl rfl rfl rfl rfl rfl rfl rfl

theorem load_fresh (random : RandomSource) {program : List UInt8}
    (h : program.length ≤ maxProgramSize) :
    (fresh random).load program = (.ok program.length, booted random program) := by
  rw [load_eq, if_pos h, loaded_fresh random h]

/-! ## Runs -/

theorem performAll_load {program : List UInt8} {size : Nat}
    (h : vm.load program = (.ok size, vm')) (ops : List Operation) :
    vm.performAll (.load program :: ops) =
      (.loaded (.ok size) :: (vm'.performAll ops).1, (vm'.performAll ops).2) := by
  rw [performAll_cons, perform, h]
  rfl

theorem performAll_load_fresh (random : RandomSource) {program : List UInt8}
    (h : program.length ≤ maxProgramSize) (ops : List Operation) :
    ((fresh random).performAll (.load program :: ops)).2 =
      ((booted random program).performAll ops).2 := by
  rw [performAll_load (load_fresh random h)]

end Vm

end Chip8
