import Chip8.Proofs.Run

/-!
# Hidden parts

Machines that differ only in parts that are hidden take the same steps, as long as no step reads a
hidden part: bytes at some addresses, a timer, the request to redraw, the strictness. A hidden part
may change on the way; nothing else comes to depend on it.

* `Hidden`, **`View.Alike`**: the parts that may differ, and views that differ in them only;
* `View.reads`, `Vm.cycleReads`: the addresses that an instruction and a cycle read;
* `Effect.alike`: instructions keep views alike;
* `Vm.Blind`, **`Vm.cycle_alike`**: cycles that read no hidden part keep machines alike.
-/

namespace Chip8

open Instruction (Denotes)

/-- **Parts of a machine that may differ**; none unless said. -/
structure Hidden where
  /-- The bytes at these addresses. -/
  byte : Nat → Prop := fun _ => False
  delay : Prop := False
  sound : Prop := False
  redraw : Prop := False
  strict : Prop := False

namespace View

/-- A view that has the parts that can be hidden from another one. -/
def patch (s u : View) : View :=
  { s with byte := u.byte, delay := u.delay, sound := u.sound, redraw := u.redraw, strict := u.strict }

/-- **Views that differ in hidden parts only.** -/
structure Alike (H : Hidden) (s t : View) : Prop where
  byte : ∀ a, ¬ H.byte a → t.byte a = s.byte a
  delay : ¬ H.delay → t.delay = s.delay
  sound : ¬ H.sound → t.sound = s.sound
  redraw : ¬ H.redraw → t.redraw = s.redraw
  strict : ¬ H.strict → t.strict = s.strict
  others : t = s.patch t

/-- The addresses that an instruction reads. -/
def reads (s : View) : Instruction → List Nat
  | .draw _ _ n => List.range' s.i.toNat n.val
  | .loadRegisters x => List.range' s.i.toNat (x.val + 1)
  | _ => []

variable {H : Hidden} {s t : View}

theorem stored_congr {bytes : List UInt8} {a : Nat} (hi : t.i = s.i) (h : t.byte a = s.byte a) :
    t.stored bytes a = s.stored bytes a := by
  rw [stored, stored, hi, h]

theorem sprite_congr {x y : Register} {n : Fin 16} {p : Pixel} (hreg : t.reg = s.reg)
    (hi : t.i = s.i) (h : ∀ r < n.val, t.byte (s.i.toNat + r) = s.byte (s.i.toNat + r)) :
    t.sprite x y n p ↔ s.sprite x y n p := by
  unfold sprite Display.Covers
  rw [hreg, hi]
  refine exists_congr fun r => and_congr_right fun hr => ?_
  simp only [h r hr]

end View

open View (Alike)

/-- **Instructions keep views alike** if they read no hidden part. -/
theorem Effect.alike {H : Hidden} {s s' t : View} {i : Instruction} {o : Outcome}
    (he : Effect s i o s') (h : Alike H s t) (hbyte : ∀ a ∈ s.reads i, ¬ H.byte a)
    (hdelay : H.delay → ∀ x, i ≠ .readDelay x) : ∃ t', Effect t i o t' ∧ Alike H s' t' := by
  obtain ⟨u, rfl⟩ : ∃ u, t = s.patch u := ⟨t, h.others⟩
  cases he with
  | clearScreen =>
    exact ⟨_, .clearScreen, h.byte, h.delay, h.sound, fun _ => rfl, h.strict, rfl⟩
  | ret hf => exact ⟨_, .ret hf, h.byte, h.delay, h.sound, fun _ => rfl, h.strict, rfl⟩
  | call nnn hf => exact ⟨_, .call nnn hf, h.byte, h.delay, h.sound, h.redraw, h.strict, rfl⟩
  | draw x y n hi hhit =>
    -- The rows of the sprite are read, so both views place the same pixels.
    have hsame : ∀ p, (s.patch u).sprite x y n p ↔ s.sprite x y n p := by
      intro p
      refine View.sprite_congr rfl rfl fun k hk => h.byte _ (hbyte _ ?_)
      exact List.mem_range'_1.mpr ⟨Nat.le_add_right _ _, Nat.add_lt_add_left hk _⟩
    have hhit' := hhit.trans (exists_congr fun p => and_congr_left' (hsame p).symm)
    refine ⟨_, .draw (s := s.patch u) x y n hi hhit', ?_⟩
    have hlit : (fun p => s.lit p ^^ decide ((s.patch u).sprite x y n p)) =
        fun p => s.lit p ^^ decide (s.sprite x y n p) := by
      funext p
      rw [decide_eq_decide.mpr (hsame p)]
    refine ⟨h.byte, h.delay, h.sound, fun _ => rfl, h.strict, ?_⟩
    exact View.ext rfl rfl rfl rfl hlit rfl rfl rfl rfl rfl rfl rfl rfl
  | readDelay x =>
    have hd : u.delay = s.delay := h.delay fun hH => hdelay hH x rfl
    refine ⟨_, .readDelay x, h.byte, h.delay, h.sound, h.redraw, h.strict, ?_⟩
    exact congrArg (fun d => (s.patch u).next.write x d) hd
  | takeKey x hk hleast =>
    exact ⟨_, .takeKey x hk hleast, h.byte, h.delay, h.sound, h.redraw, h.strict, rfl⟩
  | waitForKey x hk =>
    exact ⟨_, .waitForKey x hk, h.byte, h.delay, h.sound, h.redraw, h.strict, rfl⟩
  | setDelay x => exact ⟨_, .setDelay x, h.byte, fun _ => rfl, h.sound, h.redraw, h.strict, rfl⟩
  | setSound x => exact ⟨_, .setSound x, h.byte, h.delay, fun _ => rfl, h.redraw, h.strict, rfl⟩
  | fontSprite x =>
    exact ⟨_, .fontSprite x, h.byte, h.delay, h.sound, fun _ => rfl, h.strict, rfl⟩
  | storeBcd x hi =>
    exact ⟨_, .storeBcd x hi, fun a ha => View.stored_congr rfl (h.byte a ha), h.delay, h.sound,
      h.redraw, h.strict, rfl⟩
  | storeRegisters x hi =>
    exact ⟨_, .storeRegisters x hi, fun a ha => View.stored_congr rfl (h.byte a ha), h.delay,
      h.sound, h.redraw, h.strict, rfl⟩
  | loadRegisters x hi =>
    refine ⟨_, .loadRegisters x hi, h.byte, h.delay, h.sound, h.redraw, h.strict, ?_⟩
    refine View.ext rfl (funext fun k => ?_) rfl rfl rfl rfl rfl rfl rfl rfl rfl rfl rfl
    refine ite_congr rfl (fun hk => h.byte _ (hbyte _ ?_)) fun _ => rfl
    exact List.mem_range'_1.mpr ⟨Nat.le_add_right _ _, Nat.add_lt_add_left (Nat.lt_succ_of_le hk) _⟩
  | _ =>
    -- The other rows read nothing that can be hidden, and keep what is hidden as it is.
    refine ⟨_, by constructor, ?_⟩
    exact ⟨h.byte, h.delay, h.sound, h.redraw, h.strict, rfl⟩

namespace Vm

variable {H : Hidden} {vm vm' : Vm}

/-- The next cycle fetches a word. -/
def fetches (vm : Vm) : Bool := vm.isRunning && vm.pc.toNat + 2 ≤ memorySize

/-- **The addresses that the next cycle reads**: those of the word at the program counter and those
that its instruction reads. -/
def cycleReads (vm : Vm) : List Nat :=
  if vm.fetches then
    vm.pc.toNat :: (vm.pc.toNat + 1) :: ((Instruction.decode vm.word).map vm.view.reads).getD []
  else []

theorem fetches_of_running (hrun : vm.runState = .running) (hpc : vm.pc.toNat + 2 ≤ 4096) :
    vm.fetches = true := by
  simp only [fetches, isRunning, hrun, Bool.and_eq_true, decide_eq_true_eq]
  exact ⟨rfl, hpc⟩

/-- **The next cycle reads no hidden part.** The strictness is read at words that denote nothing. -/
structure Blind (H : Hidden) (vm : Vm) : Prop where
  byte : ∀ a ∈ vm.cycleReads, ¬ H.byte a
  delay : H.delay → vm.fetches = true → ∀ x, ¬ Denotes vm.word (.readDelay x)
  strict : H.strict → vm.fetches = true → ∃ i, Denotes vm.word i

theorem word_alike (h : Alike H vm.view vm'.view) (hblind : vm.Blind H) (hf : vm.fetches = true) :
    vm'.word = vm.word := by
  have hpc : vm'.pc = vm.pc := congrArg View.pc h.others
  have hreads : ∀ a ∈ [vm.pc.toNat, vm.pc.toNat + 1], vm'.memory.byte a = vm.memory.byte a := by
    intro a ha
    refine h.byte a (hblind.byte a ?_)
    rw [cycleReads, if_pos hf]
    exact List.mem_append_left _ ha
  rw [word, word, hpc, hreads _ List.mem_cons_self, hreads _ (by simp)]

theorem Blind.reads {i : Instruction} (hblind : vm.Blind H) (hf : vm.fetches = true)
    (hw : Denotes vm.word i) : ∀ a ∈ vm.view.reads i, ¬ H.byte a := by
  intro a ha
  refine hblind.byte a ?_
  rw [cycleReads, if_pos hf, Instruction.decode_of_denotes hw]
  exact List.mem_cons_of_mem _ (List.mem_cons_of_mem _ ha)

theorem Blind.strict_eq (h : Alike H vm.view vm'.view) (hblind : vm.Blind H)
    (hf : vm.fetches = true) (hw : ∀ i, ¬ Denotes vm.word i) : vm'.strict = vm.strict := by
  refine h.strict fun hH => ?_
  obtain ⟨i, hi⟩ := hblind.strict hH hf
  exact hw i hi

theorem faults_alike {f : Fault} (h : Alike H vm.view vm'.view) (hblind : vm.Blind H)
    (hrun : vm.runState = .running) (hfault : Faults vm f) : Faults vm' f := by
  have hpc : vm'.pc = vm.pc := congrArg View.pc h.others
  have hi : vm'.i = vm.i := congrArg View.i h.others
  have hdepth : vm'.stack.depth = vm.stack.depth :=
    congrArg List.length (congrArg View.frames h.others)
  cases hfault with
  | fetch hout =>
    rw [← hpc] at hout ⊢
    exact .fetch hout
  | raised hin hw hf =>
    rw [← word_alike h hblind (fetches_of_running hrun hin)] at hw
    rw [← hpc] at hin
    rw [← hdepth, ← hi] at hf
    exact .raised hin hw hf
  | unknown hin hw hs =>
    have hfetch := fetches_of_running hrun hin
    rw [← hblind.strict_eq h hfetch hw] at hs
    rw [← word_alike h hblind hfetch] at hw ⊢
    rw [← hpc] at hin
    exact .unknown hin hw hs

/-- **Cycles that read no hidden part keep machines alike**, and answer the same. -/
theorem cycle_alike (h : Alike H vm.view vm'.view) (hblind : vm.Blind H) :
    vm'.cycle.1 = vm.cycle.1 ∧ Alike H vm.cycle.2.view vm'.cycle.2.view := by
  have hrun' : vm'.runState = vm.runState := congrArg View.runState h.others
  have hpc' : vm'.pc = vm.pc := congrArg View.pc h.others
  rcases hc : vm.cycle with ⟨answer, after⟩
  cases cycle_eq_iff.mp hc with
  | idle hrun =>
    rw [cycle_of_halted (hrun'.trans hrun)]
    exact ⟨rfl, h⟩
  | moved hrun hpc ht =>
    have hf := fetches_of_running hrun hpc
    -- The word is read, so both machines take the transition of the same word.
    have hw' := word_alike h hblind hf
    have hpc₂ : vm'.pc.toNat + 2 ≤ 4096 := hpc' ▸ hpc
    generalize after.view = s at ht
    cases ht with
    | row hw he =>
      obtain ⟨t, het, hal⟩ := he.alike h (hblind.reads hf hw)
        fun hH x hx => hblind.delay hH hf x (hx ▸ hw)
      obtain ⟨after', -, hview⟩ := execute_of_effect het
      rw [← hview] at het hal
      rw [← hw'] at hw
      rw [cycle_eq_iff.mpr (.moved (hrun'.trans hrun) hpc₂ (.row hw het))]
      exact ⟨rfl, hal⟩
    | unknown hw hstrict =>
      have hstrict' : vm'.strict = false := (hblind.strict_eq h hf hw).trans hstrict
      rw [← hw'] at hw ⊢
      have ht : Transition vm'.view vm'.word (.unknownOpcode vm'.word) vm'.advance.view :=
        .unknown hw hstrict'
      rw [cycle_eq_iff.mpr (.moved (hrun'.trans hrun) hpc₂ ht)]
      refine ⟨rfl, h.byte, h.delay, h.sound, h.redraw, h.strict, ?_⟩
      exact congrArg View.next h.others
  | faulted hrun hfault =>
    have hfault' := faults_alike h hblind hrun hfault
    rw [cycle_eq_iff.mpr (.faulted (hrun'.trans hrun) hfault')]
    refine ⟨rfl, h.byte, h.delay, h.sound, h.redraw, h.strict, ?_⟩
    exact congrArg (fun v => { v with runState := .halted }) h.others

/-- Where no byte is hidden, machines that are alike differ in timers, request and strictness. -/
theorem eq_of_alike (h : Alike H vm.view vm'.view) (hbyte : ∀ a, ¬ H.byte a) :
    vm' = { vm with
      delay := vm'.delay, sound := vm'.sound, redraw := vm'.redraw, strict := vm'.strict } := by
  apply view_injective
  have hsame : vm'.view.byte = vm.view.byte := funext fun a => h.byte a (hbyte a)
  rw [h.others, View.patch, hsame]
  rfl

/-! ## Operations -/

theorem keypad_alike (h : Alike H vm.view vm'.view) : vm'.keypad = vm.keypad := by
  apply Keypad.ext
  exact Vector.ext_get fun key => congrFun (congrArg View.down h.others) key

theorem softReset_alike (h : Alike H vm.view vm'.view) :
    Alike H vm.softReset.view vm'.softReset.view := by
  rw [view_softReset, view_softReset]
  refine ⟨h.byte, fun _ => rfl, fun _ => rfl, fun _ => rfl, h.strict, ?_⟩
  rw [h.others]
  rfl

theorem image_alike (h : Alike H vm.view vm'.view) (program : List UInt8) {a : Nat}
    (ha : ¬ H.byte a) : image vm'.memory program a = image vm.memory program a := by
  have hbyte : vm'.memory.byte a = vm.memory.byte a := h.byte a ha
  rw [image, image, hbyte]

theorem hardReset_alike (h : Alike H vm.view vm'.view) :
    Alike H vm.hardReset.view vm'.hardReset.view := by
  have hsoft := softReset_alike h
  rw [view_hardReset, view_hardReset]
  refine ⟨fun a => image_alike h _, hsoft.delay, hsoft.sound, hsoft.redraw, hsoft.strict, ?_⟩
  rw [hsoft.others]
  rfl

theorem load_alike (h : Alike H vm.view vm'.view) (program : List UInt8) :
    (vm'.load program).1 = (vm.load program).1 ∧
      Alike H (vm.load program).2.view (vm'.load program).2.view := by
  rw [load_eq, load_eq]
  by_cases hfits : program.length ≤ maxProgramSize
  · have hsoft := softReset_alike h
    rw [if_pos hfits, if_pos hfits]
    refine ⟨rfl, ?_⟩
    rw [view_loaded hfits, view_loaded hfits]
    refine ⟨fun a => image_alike h _, hsoft.delay, hsoft.sound, hsoft.redraw, hsoft.strict, ?_⟩
    rw [hsoft.others]
    rfl
  · rw [if_neg hfits, if_neg hfits]
    exact ⟨rfl, h⟩

theorem loadFile_alike (h : Alike H vm.view vm'.view) (files : FileSystem) (path : String) :
    (vm'.loadFile files path).1 = (vm.loadFile files path).1 ∧
      Alike H (vm.loadFile files path).2.view (vm'.loadFile files path).2.view := by
  cases hpath : files path with
  | ok program => simpa only [loadFile, hpath] using load_alike h program
  | error failure => simpa only [loadFile, hpath, true_and] using h

theorem tick_alike (h : Alike H vm.view vm'.view) :
    (¬ H.sound → vm'.tick.1 = vm.tick.1) ∧ Alike H vm.tick.2.view vm'.tick.2.view := by
  have hrun' : vm'.runState = vm.runState := congrArg View.runState h.others
  cases hrun : vm.runState with
  | halted =>
    rw [tick_of_halted hrun, tick_of_halted (hrun'.trans hrun)]
    exact ⟨fun _ => rfl, h⟩
  | running =>
    have hdelay : ¬ H.delay → vm'.delay = vm.delay := h.delay
    have hsound : ¬ H.sound → vm'.sound = vm.sound := h.sound
    simp only [tick, hrun', hrun]
    refine ⟨fun hH => by rw [hsound hH], h.byte, fun hH => ?_, fun hH => ?_, h.redraw, h.strict, ?_⟩
    · exact congrArg (fun d : UInt8 => if 0 < d then d - 1 else 0) (hdelay hH)
    · exact congrArg (fun u : UInt8 => if 0 < u then u - 1 else 0) (hsound hH)
    · exact congrArg (fun v : View => { v with
        delay := if 0 < vm'.delay then vm'.delay - 1 else 0
        sound := if 0 < vm'.sound then vm'.sound - 1 else 0
        runState := .running }) h.others

theorem setKey_alike (h : Alike H vm.view vm'.view) (key : UInt8) (down : Bool) :
    (vm'.setKey key down).1 = (vm.setKey key down).1 ∧
      Alike H (vm.setKey key down).2.view (vm'.setKey key down).2.view := by
  have hkeypad := keypad_alike h
  cases hkey : vm.keypad.setPressed key down with
  | ok keypad =>
    simp only [setKey, hkeypad, hkey, true_and]
    refine ⟨h.byte, h.delay, h.sound, h.redraw, h.strict, ?_⟩
    exact congrArg (fun v : View => { v with down := keypad.isDown }) h.others
  | error fault => simpa only [setKey, hkeypad, hkey, true_and] using h

/-- **Operations keep machines alike** if no cycle reads a hidden part, and answer the same unless a
tick counts a hidden sound timer. -/
theorem perform_alike (h : Alike H vm.view vm'.view) (op : Operation)
    (hblind : op = .cycle → vm.Blind H) :
    ((H.sound → op ≠ .tick) → (vm'.perform op).1 = (vm.perform op).1) ∧
      Alike H (vm.perform op).2.view (vm'.perform op).2.view := by
  cases op with
  | load program =>
    obtain ⟨hanswer, hal⟩ := load_alike h program
    exact ⟨fun _ => congrArg Answer.loaded hanswer, hal⟩
  | loadFile files path =>
    obtain ⟨hanswer, hal⟩ := loadFile_alike h files path
    exact ⟨fun _ => congrArg Answer.loaded hanswer, hal⟩
  | cycle =>
    obtain ⟨hanswer, hal⟩ := cycle_alike h (hblind rfl)
    exact ⟨fun _ => congrArg Answer.cycled hanswer, hal⟩
  | tick =>
    obtain ⟨hanswer, hal⟩ := tick_alike h
    exact ⟨fun hne => congrArg Answer.ticked (hanswer fun hH => hne hH rfl), hal⟩
  | softReset => exact ⟨fun _ => rfl, softReset_alike h⟩
  | hardReset => exact ⟨fun _ => rfl, hardReset_alike h⟩
  | setKey key down =>
    obtain ⟨hanswer, hal⟩ := setKey_alike h key down
    exact ⟨fun _ => congrArg Answer.keySet hanswer, hal⟩
  | releaseKeys =>
    refine ⟨fun _ => rfl, h.byte, h.delay, h.sound, h.redraw, h.strict, ?_⟩
    exact congrArg (fun v : View => { v with down := Keypad.released.isDown }) h.others
  | setRedraw on =>
    refine ⟨fun _ => rfl, h.byte, h.delay, h.sound, fun _ => rfl, h.strict, ?_⟩
    exact congrArg (fun v : View => { v with redraw := on }) h.others
  | setStrict on =>
    refine ⟨fun _ => rfl, h.byte, h.delay, h.sound, h.redraw, fun _ => rfl, ?_⟩
    exact congrArg (fun v : View => { v with strict := on }) h.others

end Vm

end Chip8
