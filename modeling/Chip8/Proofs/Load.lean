import Chip8.Proofs.Hidden

/-!
# What survives a load

A load clears the program and restores the font, but the bytes between them are never cleared. So two
machines that load the same program may still differ there, and nowhere else; what they do is the same
until one of these bytes is read.

* `Scratch`: the addresses between font and program;
* `Vm.SameOutside`: machines that differ at most in the bytes at some addresses;
* `Vm.readsAll`, **`performAll_sameOutside`**: runs that read none of these bytes;
* **`load_forgets`**: what a load makes equal; `load_keeps_stored_byte`: what it does not.
-/

namespace Chip8

open View (Alike)

/-- The addresses between the font and the program. -/
def Scratch (a : Nat) : Prop := 80 ≤ a ∧ a < 512

instance : DecidablePred Scratch := fun _ => inferInstanceAs (Decidable (_ ∧ _))

namespace Vm

variable {S : Nat → Prop} {vm vm' : Vm}

/-- **Machines that differ at most in the bytes at some addresses.** -/
structure SameOutside (S : Nat → Prop) (vm vm' : Vm) : Prop where
  byte : ∀ a, ¬ S a → vm'.memory.byte a = vm.memory.byte a
  others : vm' = { vm with memory := vm'.memory }

theorem sameOutside_iff : SameOutside S vm vm' ↔ Alike { byte := S } vm.view vm'.view := by
  constructor
  · intro h
    obtain ⟨m, rfl⟩ : ∃ m, vm' = { vm with memory := m } := ⟨_, h.others⟩
    exact ⟨h.byte, fun _ => rfl, fun _ => rfl, fun _ => rfl, fun _ => rfl, rfl⟩
  · intro h
    refine ⟨h.byte, view_injective ?_⟩
    have hdelay : vm'.delay = vm.delay := h.delay id
    have hsound : vm'.sound = vm.sound := h.sound id
    have hredraw : vm'.redraw = vm.redraw := h.redraw id
    have hstrict : vm'.strict = vm.strict := h.strict id
    rw [h.others]
    simp only [View.patch, view, hdelay, hsound, hredraw, hstrict]
    rfl

def operationReads (vm : Vm) : Operation → List Nat
  | .cycle => vm.cycleReads
  | _ => []

/-- **The addresses that a run reads.** -/
def readsAll (vm : Vm) : List Operation → List Nat
  | [] => []
  | op :: ops => vm.operationReads op ++ (vm.perform op).2.readsAll ops

/-- **Runs that read no byte in which two machines differ** answer the same, and the machines still
differ at most in these bytes. -/
theorem performAll_sameOutside (h : SameOutside S vm vm') {ops : List Operation}
    (hreads : ∀ a ∈ vm.readsAll ops, ¬ S a) :
    (vm'.performAll ops).1 = (vm.performAll ops).1 ∧
      SameOutside S (vm.performAll ops).2 (vm'.performAll ops).2 := by
  -- On the operations: after the first, the machines are again the same outside these addresses.
  induction ops generalizing vm vm' with
  | nil => exact ⟨rfl, h⟩
  | cons op ops ih =>
    have hblind : op = .cycle → vm.Blind { byte := S } := by
      rintro rfl
      exact ⟨fun a ha => hreads a (List.mem_append_left _ ha), nofun, nofun⟩
    obtain ⟨hanswer, hal⟩ := perform_alike (sameOutside_iff.mp h) op hblind
    obtain ⟨hanswers, hsame⟩ :=
      ih (sameOutside_iff.mpr hal) fun a ha => hreads a (List.mem_append_right _ ha)
    rw [performAll_cons, performAll_cons, hanswer nofun, hanswers]
    exact ⟨rfl, hsame⟩

/-! ## Loads -/

section Loads

variable {m m' : Memory} {program : List UInt8} {a : Nat}

theorem image_of_scratch (ha : Scratch a) : image m program a = m.byte a := by
  rw [image, if_neg (Nat.not_lt.mpr ha.1), if_pos ha.2]

theorem image_of_not_scratch (ha : ¬ Scratch a) : image m' program a = image m program a := by
  rw [image, image]
  by_cases hglyph : a < 80
  · rw [if_pos hglyph, if_pos hglyph]
  · have hstart : ¬ a < 512 := fun hlt => ha ⟨Nat.le_of_not_lt hglyph, hlt⟩
    simp only [if_neg hglyph, if_neg hstart]

theorem loaded_sameOutside (hfits : program.length ≤ maxProgramSize)
    (hrandom : vm'.random = vm.random) (hstrict : vm'.strict = vm.strict)
    (hkeypad : vm'.keypad = vm.keypad) :
    SameOutside Scratch (vm.loaded program) (vm'.loaded program) := by
  rw [sameOutside_iff, view_loaded hfits, view_loaded hfits, view_softReset, view_softReset]
  refine ⟨fun a => image_of_not_scratch, fun _ => rfl, fun _ => rfl, fun _ => rfl, fun _ => hstrict, ?_⟩
  simp only [View.patch, view, hrandom, hkeypad]

end Loads

/-- **What a load makes equal.** Machines with the same random source, strictness and keys that load
the same program are the same outside the bytes between font and program, which stay as they were. As
long as none of these bytes is read, everything that is done to the machines then has the same answers,
and if they were the same before, it has them for ever. -/
theorem load_forgets (hrandom : vm'.random = vm.random) (hstrict : vm'.strict = vm.strict)
    (hkeypad : vm'.keypad = vm.keypad) {program : List UInt8} (hfits : program.length ≤ maxProgramSize) :
    ∃ loaded loaded', vm.load program = (.ok program.length, loaded) ∧
      vm'.load program = (.ok program.length, loaded') ∧ SameOutside Scratch loaded loaded' ∧
      (∀ a, Scratch a → loaded.memory.byte a = vm.memory.byte a ∧
        loaded'.memory.byte a = vm'.memory.byte a) ∧
      (∀ ops, (∀ a ∈ loaded.readsAll ops, ¬ Scratch a) →
        (loaded'.performAll ops).1 = (loaded.performAll ops).1 ∧
          SameOutside Scratch (loaded.performAll ops).2 (loaded'.performAll ops).2) ∧
      ((∀ a, Scratch a → vm'.memory.byte a = vm.memory.byte a) →
        ∀ ops, loaded'.performAll ops = loaded.performAll ops) := by
  have hsame := loaded_sameOutside hfits hrandom hstrict hkeypad
  refine ⟨vm.loaded program, vm'.loaded program, ?_, ?_, hsame, ?_, ?_, ?_⟩
  · rw [load_eq, if_pos hfits]
  · rw [load_eq, if_pos hfits]
  · intro a ha
    rw [byte_loaded hfits, byte_loaded hfits, image_of_scratch ha, image_of_scratch ha]
    exact ⟨rfl, rfl⟩
  · exact fun ops hreads => performAll_sameOutside hsame hreads
  · intro hbytes ops
    have hmemory : (vm'.loaded program).memory = (vm.loaded program).memory := by
      apply Memory.ext_byte
      intro a _
      by_cases ha : Scratch a
      · rw [byte_loaded hfits, byte_loaded hfits, image_of_scratch ha, image_of_scratch ha,
          hbytes a ha]
      · exact hsame.byte a ha
    rw [hsame.others, hmemory]

def poke (vm : Vm) (a : Nat) (b : UInt8) : Vm := { vm with memory := vm.memory.store a b }

/-- A fresh machine and one with a byte stored at 0x100 answer the same to a program and its first
cycle. -/
theorem load_forgets_fresh :
    (((fresh (.ofSeed 0)).poke 0x100 0xAB).performAll [.load [0x12, 0x00], .cycle]).1 =
      ((fresh (.ofSeed 0)).performAll [.load [0x12, 0x00], .cycle]).1 := by
  have hfits : [0x12, (0x00 : UInt8)].length ≤ maxProgramSize := by decide
  have hrandom : ((fresh (.ofSeed 0)).poke 0x100 0xAB).random = (fresh (.ofSeed 0)).random := rfl
  obtain ⟨loaded, loaded', hload, hload', -, -, hrun, -⟩ := load_forgets hrandom rfl rfl hfits
  have hbooted : loaded = booted (.ofSeed 0) [0x12, 0x00] := by
    rewrite [load_fresh _ hfits] at hload
    exact (congrArg Prod.snd hload).symm
  have hreads : ∀ a ∈ (booted (.ofSeed 0) [0x12, 0x00]).readsAll [.cycle], ¬ Scratch a := by
    decide +kernel
  subst hbooted
  rewrite [performAll_load hload, performAll_load hload', (hrun [.cycle] hreads).1]
  rfl

/-- Stores 0xAB between font and program, at 0x100. -/
def storingProgram : List UInt8 := [0xA1, 0x00, 0x60, 0xAB, 0xF0, 0x55]

/-- A byte that a program stored between font and program is there after the next load: this machine,
which ran a program, and a fresh one agree in all that a load does not replace. -/
theorem load_keeps_stored_byte :
    ∃ used, used = ((fresh (.ofSeed 0)).performAll
        [.load storingProgram, .cycle, .cycle, .cycle]).2 ∧
      used.random = (fresh (.ofSeed 0)).random ∧ used.strict = (fresh (.ofSeed 0)).strict ∧
      used.keypad = (fresh (.ofSeed 0)).keypad ∧
      (used.load []).2 ≠ ((fresh (.ofSeed 0)).load []).2 := by
  have hfits : storingProgram.length ≤ maxProgramSize := by decide
  have hempty : ([] : List UInt8).length ≤ maxProgramSize := by decide
  refine ⟨_, (performAll_load_fresh (.ofSeed 0) hfits [.cycle, .cycle, .cycle]).symm,
    by decide +kernel, by decide +kernel, by decide +kernel, ?_⟩
  have hused : ((booted (.ofSeed 0) storingProgram).performAll
      [.cycle, .cycle, .cycle]).2.memory.byte 0x100 = 0xAB := by decide +kernel
  have hunused : (fresh (.ofSeed 0)).memory.byte 0x100 = 0 := by decide +kernel
  -- From here on only these two bytes of the machines matter.
  generalize ((booted (.ofSeed 0) storingProgram).performAll [.cycle, .cycle, .cycle]).2 = used at *
  generalize fresh (.ofSeed 0) = unused at *
  intro hsame
  have hbyte := congrArg (fun vm : Vm => vm.memory.byte 0x100) hsame
  simp only [load_eq, if_pos hempty, byte_loaded hempty] at hbyte
  have hscratch : Scratch 0x100 := by decide
  rw [image_of_scratch hscratch, image_of_scratch hscratch, hused, hunused] at hbyte
  exact absurd hbyte (by decide)

end Vm

end Chip8
