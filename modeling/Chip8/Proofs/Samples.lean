import Chip8.Proofs.Stores

/-!
# Random bytes along runs

The random words of a machine form one stream. An instruction that asks for a random byte takes the next
word of it, and nothing else takes a word or goes back in it. So the random bytes of a run are those of the
stream in their order, whatever is loaded, reset or halted in between.

* `RandomSource.stream`, `RandomSource.skip`: the words to come, and the source behind some of them;
* **`Sample`**, `Vm.sample`, `Vm.samples`: the random bytes that operations and runs take;
* `random_perform`, `byte_of_sample`: one operation;
* `random_performAll`, `byte_of_samples`: runs;
* **`samples_follow_stream`**.
-/

namespace Chip8

open Instruction (Denotes)

/-! ## Streams -/

namespace RandomSource

/-- **The words to come**, counted from zero. -/
def stream (r : RandomSource) (j : Nat) : UInt32 := word r.key (r.position + j)

/-- The source after some words have been taken. -/
def skip (r : RandomSource) (n : Nat) : RandomSource := { r with position := r.position + n }

theorem skip_skip (r : RandomSource) (m n : Nat) : (r.skip m).skip n = r.skip (m + n) :=
  congrArg (RandomSource.mk r.key) (Nat.add_assoc ..)

theorem stream_skip (r : RandomSource) (n j : Nat) : (r.skip n).stream j = r.stream (n + j) :=
  congrArg (word r.key) (Nat.add_assoc ..)

end RandomSource

/-- **A random byte that an instruction takes.** -/
structure Sample where
  register : Register
  mask : UInt8
  /-- What is in the register after the instruction. -/
  byte : UInt8
  deriving DecidableEq, Repr

namespace Vm

/-- **The random byte that an operation takes**, if it is a cycle that executes the instruction for it. -/
def sample (vm : Vm) : Operation → Option Sample
  | .cycle =>
    match vm.executing with
    | some (.random x nn) => some ⟨x, nn, vm.cycle.2.reg x⟩
    | _ => none
  | _ => none

/-- **The random bytes that a run takes**, oldest first. -/
def samples (vm : Vm) : List Operation → List Sample
  | [] => []
  | op :: ops => (vm.sample op).toList ++ (vm.perform op).2.samples ops

variable {vm : Vm} {op : Operation} {ops : List Operation} {x : Register} {nn : UInt8} {s : Sample}
  {j : Nat}

/-! ## One operation -/

theorem sample_eq_some_iff : vm.sample op = some s ↔
    op = .cycle ∧ vm.executing = some (.random s.register s.mask) ∧
      vm.cycle.2.reg s.register = s.byte := by
  constructor
  · intro h
    cases op with
    | cycle =>
      simp only [sample] at h
      split at h
      next x nn hx =>
        cases h
        exact ⟨rfl, hx, rfl⟩
      next => cases h
    | _ => cases h
  · rintro ⟨rfl, hx, hbyte⟩
    rw [sample]
    simp only [hx, hbyte]

/-- **The instruction for a random byte takes the next word.** -/
theorem cycle_of_random (h : vm.executing = some (.random x nn)) :
    vm.cycle.2.reg x = (vm.random.stream 0).toUInt8 &&& nn ∧
      vm.cycle.2.random = vm.random.skip 1 := by
  have heffect := effect_of_executing h
  generalize vm.cycle.2 = after at heffect ⊢
  generalize hafter : after.view = s at heffect
  cases heffect
  have hreg : after.reg = _ := congrArg View.reg hafter
  have hrandom : after.random = _ := congrArg View.random hafter
  refine ⟨?_, hrandom⟩
  rw [hreg]
  exact Function.update_self ..

/-- No other cycle takes a word. -/
theorem random_cycle_of_not_random (h : ∀ x nn, vm.executing ≠ some (.random x nn)) :
    vm.cycle.2.random = vm.random := by
  by_contra hne
  obtain ⟨i, o, hanswer, hw, heffect⟩ :=
    exists_effect_of_ne (f := View.random) (fun _ => rfl) (fun _ _ => rfl) hne
  change vm.cycle.2.view.random ≠ vm.view.random at hne
  generalize vm.cycle.2.view = s at heffect hne
  cases heffect with
  | random x nn => exact h x nn (executing_eq_some_iff.mpr ⟨hanswer, hw⟩)
  | _ => exact hne rfl

/-- Cycles apart, nothing that is done to a machine takes a word. -/
theorem random_perform_of_ne_cycle (h : op ≠ .cycle) : (vm.perform op).2.random = vm.random := by
  have hperformed := vm.performed op
  generalize (vm.perform op).2 = after at hperformed ⊢
  cases hperformed with
  | cycle => exact absurd rfl h
  | loaded => simp only [loaded, hardReset, softReset]
  | hardReset => simp only [hardReset, softReset]
  | _ => rfl

theorem random_perform_of_none (h : vm.sample op = none) :
    (vm.perform op).2.random = vm.random := by
  by_cases hcycle : op = .cycle
  · subst hcycle
    refine random_cycle_of_not_random fun x nn hx => ?_
    have hsome : vm.sample .cycle = some ⟨x, nn, vm.cycle.2.reg x⟩ :=
      sample_eq_some_iff.mpr ⟨rfl, hx, rfl⟩
    rw [hsome] at h
    cases h
  · exact random_perform_of_ne_cycle hcycle

/-- **An operation takes as many words as random bytes.** -/
theorem random_perform (vm : Vm) (op : Operation) :
    (vm.perform op).2.random = vm.random.skip (vm.sample op).toList.length := by
  cases hsample : vm.sample op with
  | none => exact random_perform_of_none hsample
  | some s =>
    obtain ⟨rfl, hx, -⟩ := sample_eq_some_iff.mp hsample
    exact (cycle_of_random hx).2

theorem byte_of_sample (h : vm.sample op = some s) :
    s.byte = (vm.random.stream 0).toUInt8 &&& s.mask := by
  obtain ⟨-, hx, hbyte⟩ := sample_eq_some_iff.mp h
  rw [← hbyte, (cycle_of_random hx).1]

/-! ## Runs -/

/-- **A run takes as many words as random bytes.** -/
theorem random_performAll (vm : Vm) (ops : List Operation) :
    (vm.performAll ops).2.random = vm.random.skip (vm.samples ops).length := by
  induction ops generalizing vm with
  | nil => rfl
  | cons op ops ih =>
    rw [performAll_cons, ih, random_perform, RandomSource.skip_skip, samples, List.length_append]

/-- **The random bytes of a run are those of the stream**, in their order. -/
theorem byte_of_samples (h : (vm.samples ops)[j]? = some s) :
    s.byte = (vm.random.stream j).toUInt8 &&& s.mask := by
  induction ops generalizing vm j with
  | nil => cases h
  | cons op ops ih =>
    rw [samples] at h
    have hrandom := vm.random_perform op
    cases hsample : vm.sample op with
    | none =>
      rw [hsample] at h hrandom
      rw [ih h, hrandom]
      rfl
    | some first =>
      rw [hsample] at h hrandom
      cases j with
      | zero =>
        cases h
        exact byte_of_sample hsample
      | succ j =>
        -- The word that the first operation takes is not met again.
        rw [ih h, hrandom, RandomSource.stream_skip, Nat.add_comm]
        rfl

theorem samples_load_fresh (random : RandomSource) {program : List UInt8}
    (h : program.length ≤ maxProgramSize) (ops : List Operation) :
    (fresh random).samples (.load program :: ops) = (booted random program).samples ops := by
  rw [samples, perform, load_fresh random h]
  rfl

/-! ## Every machine -/

theorem denotes_random_iff {w : UInt16} : Denotes w (.random x nn) ↔ w = wordXNN 0xC x nn := by
  constructor
  · intro hw
    cases hw
    rfl
  · rintro rfl
    exact .random x nn

/-- **Random bytes follow the stream.**
* Over the whole life of a machine, the random byte number `j` that an instruction takes is the low byte of
  the word number `j` of its source, under the mask of the instruction; and as many words are taken as
  random bytes.
* A random byte is taken by each cycle that executes `Cxnn`, into the register that it names.
* Nothing else that is done to a machine takes a word: no cycle that faults, waits, is idle, skips a word
  or executes something else, and no other operation. -/
theorem samples_follow_stream :
    (∀ (random : RandomSource) (ops : List Operation),
      (∀ (j : Nat) (s : Sample), ((fresh random).samples ops)[j]? = some s →
        s.byte = (random.stream j).toUInt8 &&& s.mask) ∧
      ((fresh random).performAll ops).2.random =
        random.skip ((fresh random).samples ops).length) ∧
    (∀ (vm : Vm) (op : Operation) (s : Sample), vm.sample op = some s ↔
      op = .cycle ∧ (vm.cycle.1 = .ok .executed ∧ vm.word = wordXNN 0xC s.register s.mask) ∧
        vm.cycle.2.reg s.register = s.byte) ∧
    ∀ (vm : Vm) (op : Operation),
      (op = .cycle → vm.cycle.1 = .ok .executed → ∀ x nn, vm.word ≠ wordXNN 0xC x nn) →
      (vm.perform op).2.random = vm.random := by
  refine ⟨?_, ?_, ?_⟩
  · intro random ops
    exact ⟨fun _ _ => byte_of_samples, random_performAll _ ops⟩
  · intro vm op s
    rw [sample_eq_some_iff, executing_eq_some_iff, denotes_random_iff]
  · intro vm op hother
    by_cases hcycle : op = .cycle
    · subst hcycle
      refine random_cycle_of_not_random fun x nn hx => ?_
      obtain ⟨hexecuted, hw⟩ := executing_eq_some_iff.mp hx
      exact hother rfl hexecuted x nn (denotes_random_iff.mp hw)
    · exact random_perform_of_ne_cycle hcycle

/-- Takes two random bytes, the second under a mask, and then returns although nothing has been called. -/
def randomProgram : List UInt8 := [0xC0, 0xFF, 0xC1, 0x0F, 0x00, 0xEE]

/-- A run with a reset after the first random byte, and with a fault and an idle cycle at its end. -/
def randomRun : List Operation :=
  [.cycle, .tick, .softReset, .cycle, .setKey 3 true, .cycle, .cycle, .cycle]

/-- The three random bytes of the run are the first three of the stream, the last one under its mask. The
reset takes none, nor do the fault and the idle cycle. -/
theorem samples_follow_stream_past_reset :
    (fresh (.ofSeed 8)).samples (.load randomProgram :: randomRun) =
        [⟨0, 0xFF, 0xB2⟩, ⟨0, 0xFF, 0x03⟩, ⟨1, 0x0F, 0x0D⟩] ∧
      ((RandomSource.ofSeed 8).stream 2).toUInt8 &&& 0x0F = 0x0D ∧
      ((fresh (.ofSeed 8)).performAll (.load randomProgram :: randomRun)).2.random =
        (RandomSource.ofSeed 8).skip 3 ∧
      ((booted (.ofSeed 8) randomProgram).perform .softReset).2.random = .ofSeed 8 := by
  have hsamples : (fresh (.ofSeed 8)).samples (.load randomProgram :: randomRun) =
      [⟨0, 0xFF, 0xB2⟩, ⟨0, 0xFF, 0x03⟩, ⟨1, 0x0F, 0x0D⟩] := by
    rewrite [samples_load_fresh _ (by decide)]
    decide +kernel
  obtain ⟨hruns, -, hothers⟩ := samples_follow_stream
  obtain ⟨hbytes, hwords⟩ := hruns (.ofSeed 8) (.load randomProgram :: randomRun)
  rewrite [hsamples] at hbytes hwords
  exact ⟨hsamples, (hbytes 2 _ rfl).symm, hwords, hothers _ .softReset fun h => by cases h⟩

end Vm

end Chip8
