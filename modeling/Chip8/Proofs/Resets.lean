import Chip8.Proofs.Load
import Chip8.Proofs.Stores

/-!
# Loads and resets one after the other

A load forgets what was loaded before it, and a reset what was reset. All that they keep of a machine
are its keys, its strictness, its random source and the bytes between font and program, and they keep
these alike; so of a row of loads and resets only the last load counts.

* `Vm.Renewed`, `renewed_loaded`: the machine after a load;
* **`Vm.Akin`**: machines that agree in what loads and resets keep, with `akin_perform`,
  `akin_performAll`;
* `Akin.load_eq`, `Akin.hardReset_eq`: what makes them the same;
* **`loads_and_resets`**.
-/

namespace Chip8

namespace Vm

/-- The operation is a reset, or loads a program. -/
def Operation.isRestart : Operation → Bool
  | .softReset | .hardReset => true
  | op => op.isLoad

variable {vm vm' vm'' : Vm} {program : List UInt8} {op : Operation} {ops : List Operation}

/-! ## The machine after a load -/

/-- **A machine that a program has been loaded into**: memory holds the font, the bytes below the program
as they were, the program, and zeros; keys, strictness and random source are those from before. -/
structure Renewed (vm : Vm) (program : List UInt8) (after : Vm) : Prop where
  font : after.memory.HasFont
  scratch : ∀ a, Scratch a → after.memory.byte a = vm.memory.byte a
  atStart : after.memory.readBlock 0x200 program.length = .ok program
  zeros : ∀ a, 0x200 + program.length ≤ a → a ≤ 0xFFF → after.memory.byte a = 0
  others : after = { vm with
    memory := after.memory
    v := zeroRegs
    i := 0
    pc := 0x200
    display := .blank
    delay := 0
    sound := 0
    stack := .empty
    redraw := true
    runState := .running }

theorem readBlock_loaded (h : program.length ≤ maxProgramSize) :
    (vm.loaded program).memory.readBlock 0x200 program.length = .ok program := by
  have hle : program.length ≤ 3584 := h
  refine Memory.readBlock_eq_ok.mpr ⟨Nat.add_le_add_left hle 512, ?_⟩
  apply List.ext_getElem
  · rw [List.length_map, List.length_range]
  · intro k hk _
    rewrite [List.getElem_map, List.getElem_range, byte_loaded h]
    change program[k] = image vm.memory program (512 + k)
    rw [image, if_neg (by omega), if_neg (by omega), Nat.add_sub_cancel_left,
      List.getElem?_eq_getElem hk, Option.getD_some]

theorem renewed_loaded (h : program.length ≤ maxProgramSize) :
    vm.Renewed program (vm.loaded program) where
  font := hasFont_of_image (byte_loaded h)
  scratch := fun a ha => by rw [byte_loaded h, image_of_scratch ha]
  atStart := readBlock_loaded h
  zeros := fun a ha _ => by
    rewrite [byte_loaded h, image, if_neg (by omega), if_neg (by omega),
      List.getElem?_eq_none (by omega)]
    rfl
  others := by simp only [loaded, hardReset, softReset]

/-! ## Machines that agree in what loads and resets keep -/

/-- **Machines that agree in what loads and resets keep.** -/
structure Akin (vm vm' : Vm) : Prop where
  keypad : vm'.keypad = vm.keypad
  strict : vm'.strict = vm.strict
  random : vm'.random = vm.random
  scratch : ∀ a, Scratch a → vm'.memory.byte a = vm.memory.byte a

namespace Akin

theorem refl (vm : Vm) : Akin vm vm := ⟨rfl, rfl, rfl, fun _ _ => rfl⟩

theorem trans (h : Akin vm vm') (h' : Akin vm' vm'') : Akin vm vm'' where
  keypad := h'.keypad.trans h.keypad
  strict := h'.strict.trans h.strict
  random := h'.random.trans h.random
  scratch := fun a ha => (h'.scratch a ha).trans (h.scratch a ha)

theorem image_eq (h : Akin vm vm') (program : List UInt8) :
    image vm'.memory program = image vm.memory program := by
  funext a
  by_cases ha : Scratch a
  · rw [image_of_scratch ha, image_of_scratch ha, h.scratch a ha]
  · exact image_of_not_scratch ha

theorem softReset_view (h : Akin vm vm') (byte : Nat → UInt8) (runState : RunState) :
    { vm'.softReset.view with byte := byte, runState := runState } =
      { vm.softReset.view with byte := byte, runState := runState } := by
  rw [view_softReset, view_softReset]
  simp only [view, h.keypad, h.strict, h.random]

theorem hardReset_eq (h : Akin vm vm') : vm'.hardReset = vm.hardReset := by
  apply view_injective
  rewrite [view_hardReset, view_hardReset, h.image_eq]
  exact h.softReset_view _ _

theorem load_eq (h : Akin vm vm') (hfits : program.length ≤ maxProgramSize) :
    vm'.load program = vm.load program := by
  have hloaded : vm'.loaded program = vm.loaded program := by
    apply view_injective
    rewrite [view_loaded hfits, view_loaded hfits, h.image_eq]
    exact h.softReset_view _ _
  rewrite [Vm.load_eq, Vm.load_eq, if_pos hfits, if_pos hfits, hloaded]
  rfl

end Akin

theorem akin_softReset (vm : Vm) : Akin vm vm.softReset := ⟨rfl, rfl, rfl, fun _ _ => rfl⟩

theorem akin_hardReset (vm : Vm) : Akin vm vm.hardReset where
  keypad := by simp only [hardReset, softReset]
  strict := by simp only [hardReset, softReset]
  random := by simp only [hardReset, softReset]
  scratch := fun a ha => by rw [byte_hardReset, image_of_scratch ha]

theorem Renewed.akin (h : vm.Renewed program vm') : Akin vm vm' where
  keypad := by rw [h.others]
  strict := by rw [h.others]
  random := by rw [h.others]
  scratch := h.scratch

/-- **A load or a reset keeps what they all keep.** -/
theorem akin_perform (h : op.isRestart = true) : Akin vm (vm.perform op).2 := by
  have hperformed := vm.performed op
  generalize (vm.perform op).2 = after at hperformed ⊢
  cases hperformed with
  | loaded _ _ hfits => exact (renewed_loaded hfits).akin
  | refused => exact .refl vm
  | softReset => exact vm.akin_softReset
  | hardReset => exact vm.akin_hardReset
  | _ => cases h

theorem akin_performAll (h : ∀ op ∈ ops, op.isRestart = true) : Akin vm (vm.performAll ops).2 := by
  induction ops generalizing vm with
  | nil => exact .refl vm
  | cons op ops ih =>
    obtain ⟨hfirst, hrest⟩ := List.forall_mem_cons.mp h
    exact (akin_perform hfirst).trans (ih hrest)

/-! ## Every machine -/

theorem softReset_softReset (vm : Vm) : vm.softReset.softReset = vm.softReset := rfl

/-- **Loads and resets.** A program of fitting size is loaded byte for byte, into a machine of which only
keys, strictness and random source are kept. Loads and resets before it do not matter; a reset that
follows the same reset does nothing, and of two different ones the hard reset counts. -/
theorem loads_and_resets (vm : Vm) :
    (∀ program : List UInt8, program.length ≤ 3584 →
      (∃ after, vm.load program = (.ok program.length, after) ∧ vm.Renewed program after) ∧
        vm.softReset.load program = vm.load program ∧
        vm.hardReset.load program = vm.load program ∧
        (∀ other size loaded, vm.load other = (.ok size, loaded) →
          loaded.load program = vm.load program) ∧
        ∀ ops : List Operation, (∀ op ∈ ops, op.isRestart = true) →
          (vm.performAll ops).2.load program = vm.load program) ∧
      vm.softReset.softReset = vm.softReset ∧ vm.hardReset.hardReset = vm.hardReset ∧
      vm.softReset.hardReset = vm.hardReset ∧ vm.hardReset.softReset = vm.hardReset := by
  have hsoft := vm.akin_softReset
  have hhard := vm.akin_hardReset
  refine ⟨fun program hprogram => ?_, vm.softReset_softReset, hhard.hardReset_eq,
    hsoft.hardReset_eq, ?_⟩
  · have hfits : program.length ≤ maxProgramSize := hprogram
    have hloaded : vm.load program = (.ok program.length, vm.loaded program) := by
      rewrite [load_eq, if_pos hfits]
      rfl
    refine ⟨⟨_, hloaded, renewed_loaded hfits⟩, hsoft.load_eq hfits, hhard.load_eq hfits, ?_,
      fun ops hops => (akin_performAll hops).load_eq hfits⟩
    intro other size loaded hload
    have hakin : Akin vm (vm.perform (.load other)).2 := akin_perform rfl
    have hafter : (vm.perform (.load other)).2 = loaded := congrArg Prod.snd hload
    rewrite [hafter] at hakin
    exact hakin.load_eq hfits
  · rw [hardReset, softReset_softReset]

/-- The largest program. -/
def largestProgram : List UInt8 := List.replicate 3584 0xAB

/-- The largest program goes up to the last byte of memory, and it does not matter whether another one was
loaded before and reset. -/
theorem loads_and_resets_largest :
    (booted (.ofSeed 0) [0x12, 0x00]).load largestProgram =
      (fresh (.ofSeed 0)).load largestProgram ∧
    ((fresh (.ofSeed 0)).performAll [.load [0x12, 0x00], .softReset]).2.load largestProgram =
      (fresh (.ofSeed 0)).load largestProgram ∧
    ∃ after, (fresh (.ofSeed 0)).load largestProgram = (.ok 3584, after) ∧
      after.memory.byte 0xFFF = 0xAB := by
  have hlength : largestProgram.length = 3584 := List.length_replicate
  have hother : (fresh (.ofSeed 0)).load [0x12, 0x00] = (.ok 2, booted (.ofSeed 0) [0x12, 0x00]) :=
    load_fresh _ (by decide)
  have hrestarts : ∀ op ∈ [Operation.load [0x12, 0x00], .softReset], op.isRestart = true := by
    simp [Operation.isRestart, Operation.isLoad]
  obtain ⟨hprogram, -⟩ := (fresh (.ofSeed 0)).loads_and_resets
  obtain ⟨⟨after, hload, hrenewed⟩, -, -, hforgets, hrow⟩ := hprogram largestProgram hlength.le
  refine ⟨hforgets [0x12, 0x00] 2 _ hother, hrow _ hrestarts, after, ?_, ?_⟩
  · rewrite [hload, hlength]
    rfl
  · obtain ⟨-, hbytes⟩ := Memory.readBlock_eq_ok.mp hrenewed.atStart
    have hlast : largestProgram[3583]? = some (after.memory.byte (0x200 + 3583)) := by
      rewrite [hbytes, hlength, List.getElem?_map, List.getElem?_range (by decide)]
      rfl
    rewrite [largestProgram, List.getElem?_replicate, if_pos (by decide)] at hlast
    exact (Option.some.inj hlast).symm

end Vm

end Chip8
