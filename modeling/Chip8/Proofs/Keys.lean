import Chip8.Proofs.ProgramCounter
import Chip8.Proofs.Timers

/-!
# Waiting for keys

An instruction that waits for a key takes the lowest key that is down: the key goes into a register and
is up again. While no key is down the instruction is executed again and changes nothing. So a row of
such instructions takes the keys that are down in ascending order, each of them once, and then waits.
Only the surroundings press keys, and only they and these instructions release them.

* `Keypad.pressed`: the keys that are down, in ascending order;
* **`cycle_of_pressed`**, `cycle_of_released`: the cycle of an instruction that waits for a key;
* `Vm.lowered`, `performAll_waiting`: cycles and ticks while no key is down;
* `Memory.WaitsAt`, `Vm.keyless`, **`performAll_waitsAt`**: a row of these instructions in runs without
  key events;
* `KeyEvent`, `Vm.keyEvents`, **`isDown_performAll`**: the last event of a key tells whether it is down;
* **`keys_are_taken`**.
-/

namespace Chip8

open Instruction (Denotes)

/-! ## The keys that are down -/

namespace Keypad

variable {k : Keypad} {key : Fin 16} {rest : List (Fin 16)}

/-- **The keys that are down**, in ascending order. -/
def pressed (k : Keypad) : List (Fin 16) := (List.finRange 16).filter k.isDown

theorem mem_pressed : key ∈ k.pressed ↔ k.isDown key = true := by
  simp [pressed]

theorem pairwise_pressed (k : Keypad) : k.pressed.Pairwise (· < ·) :=
  (List.pairwise_lt_finRange 16).filter _

theorem firstPressed_eq_head? (k : Keypad) : k.firstPressed = k.pressed.head? :=
  (List.head?_filter ..).symm

theorem pressed_eq_nil : k.pressed = [] ↔ ∀ key, k.isDown key = false := by
  simp [pressed, List.filter_eq_nil_iff]

/-- Without its lowest key the others are down. -/
theorem pressed_set_false (h : k.pressed = key :: rest) : (k.set key false).pressed = rest := by
  have hdown : (k.set key false).isDown = fun q => q != key && k.isDown q := by
    funext q
    rw [isDown_set]
    by_cases hq : key = q
    · simp [hq]
    · simp [hq, Ne.symm hq]
  have habove : ∀ q ∈ rest, (q != key) = true := by
    intro q hq
    have hlt := List.rel_of_pairwise_cons (h ▸ k.pairwise_pressed) hq
    simp [(Fin.ne_of_lt hlt).symm]
  calc (k.set key false).pressed = k.pressed.filter (· != key) := by
        rw [pressed, hdown, pressed, List.filter_filter]
    _ = rest := by
        rw [h, List.filter_cons_of_neg (by simp), List.filter_eq_self.mpr habove]

end Keypad

/-- **From an address on there are instructions that wait for a key**, one for each register. -/
def Memory.WaitsAt (m : Memory) (a : Nat) : List Register → Prop
  | [] => True
  | x :: xs => wordOfBytes (m.byte a) (m.byte (a + 1)) = wordXNN 0xF x 0x0A ∧ m.WaitsAt (a + 2) xs

namespace Vm

variable {vm vm' : Vm} {x : Register} {xs : List Register} {key : Fin 16} {op : Operation}
  {ops : List Operation} {c t : Nat}

/-! ## One cycle -/

/-- A register takes a key, which is up after that, and execution goes on behind the word. -/
def takeKey (vm : Vm) (x : Register) (key : Fin 16) : Vm :=
  { vm.setReg x (UInt8.ofNat key.val) with
    keypad := vm.keypad.set key false
    pc := vm.pc + 2 }

/-- A word that waits for a key ends in a byte that is not zero, so none of it lies behind memory. -/
theorem pc_le_of_waits (hword : vm.word = wordXNN 0xF x 0x0A) : vm.pc.toNat + 2 ≤ 4096 := by
  by_contra hpc
  have hzero : vm.memory.byte (vm.pc.toNat + 1) = 0 :=
    Memory.byte_of_ge _ (show 0x1000 ≤ vm.pc.toNat + 1 by omega)
  have hvalue := congrArg UInt16.toNat hword
  rw [word, toNat_wordOfBytes, hzero, toNat_wordXNN (by decide)] at hvalue
  have hlow : (0x0A : UInt8).toNat = 10 := rfl
  have hnone : (0 : UInt8).toNat = 0 := rfl
  omega

/-- **An instruction that waits for a key takes the lowest one that is down.** -/
theorem cycle_of_pressed (hrun : vm.runState = .running) (hword : vm.word = wordXNN 0xF x 0x0A)
    {rest : List (Fin 16)} (hpressed : vm.keypad.pressed = key :: rest) :
    vm.cycle = (.ok .executed, vm.takeKey x key) := by
  have hfirst : vm.keypad.firstPressed = some key := by
    rw [Keypad.firstPressed_eq_head?, hpressed, List.head?_cons]
  have hw : Denotes vm.word (.waitForKey x) := hword ▸ .waitForKey x
  have hfirst' : vm.advance.keypad.firstPressed = some key := hfirst
  have he : vm.advance.execute (.waitForKey x) = .ok .executed (vm.takeKey x key) :=
    waitForKey_of_some hfirst' x
  exact (cycle_eq_ok_iff hrun).mpr ⟨pc_le_of_waits hword, .executed hw he⟩

/-- **Without a key that is down it changes nothing.** -/
theorem cycle_of_released (hrun : vm.runState = .running) (hword : vm.word = wordXNN 0xF x 0x0A)
    (hpressed : vm.keypad.pressed = []) : vm.cycle = (.ok .waitingForKey, vm) := by
  have hfirst : vm.keypad.firstPressed = none := by
    rw [Keypad.firstPressed_eq_head?, hpressed, List.head?_nil]
  have hw : Denotes vm.word (.waitForKey x) := hword ▸ .waitForKey x
  have hfirst' : vm.advance.keypad.firstPressed = none := hfirst
  have he : vm.advance.execute (.waitForKey x) = .ok .waitingForKey vm := by
    have hwait := waitForKey_of_none hfirst' x
    rwa [view_injective (view_rewind_advance vm)] at hwait
  exact (cycle_eq_ok_iff hrun).mpr ⟨pc_le_of_waits hword, .executed hw he⟩

/-! ## Cycles and ticks while no key is down -/

/-- Both timers lowered by a number, but not below zero. -/
def lowered (vm : Vm) (n : Nat) : Vm :=
  { vm with
    delay := UInt8.ofNat (vm.delay.toNat - n)
    sound := UInt8.ofNat (vm.sound.toNat - n) }

theorem lowered_zero (vm : Vm) : vm.lowered 0 = vm := by
  simp [lowered]

theorem ofNat_sub_sub (b : UInt8) (m n : Nat) :
    UInt8.ofNat ((UInt8.ofNat (b.toNat - m)).toNat - n) = UInt8.ofNat (b.toNat - (m + n)) := by
  have hlt : b.toNat - m < 256 := Nat.lt_of_le_of_lt (Nat.sub_le ..) b.toNat_lt
  rw [UInt8.toNat_ofNat_of_lt' hlt, Nat.sub_sub]

theorem lowered_lowered (vm : Vm) (m n : Nat) : (vm.lowered m).lowered n = vm.lowered (m + n) := by
  simp only [lowered, ofNat_sub_sub]

theorem tick_snd_of_running (hrun : vm.runState = .running) : vm.tick.2 = vm.lowered 1 := by
  have hdown : ∀ b : UInt8, (if 0 < b then b - 1 else 0) = UInt8.ofNat (b.toNat - 1) := by
    intro b
    rw [← toNat_countDown, UInt8.ofNat_toNat]
  simp only [tick, hrun, hdown, lowered]

/-- **While no key is down, cycles wait**, and ticks lower the timers. -/
theorem performAll_waiting (hrun : vm.runState = .running) (hword : vm.word = wordXNN 0xF x 0x0A)
    (hup : vm.keypad.pressed = []) (h : Interleaved c t ops) :
    outcomes (vm.performAll ops).1 = List.replicate c (.ok .waitingForKey) ∧
      (vm.performAll ops).2 = vm.lowered t := by
  induction h generalizing vm with
  | nil => exact ⟨rfl, (lowered_zero vm).symm⟩
  | @cycle c t ops _ ih =>
    obtain ⟨houtcomes, hstate⟩ := ih hrun hword hup
    rw [performAll_cons, perform, cycle_of_released hrun hword hup]
    exact ⟨congrArg (Except.ok Outcome.waitingForKey :: ·) houtcomes, hstate⟩
  | @tick c t ops _ ih =>
    have htick := tick_snd_of_running hrun
    -- The tick leaves the word, the keys and the run state alone.
    obtain ⟨houtcomes, hstate⟩ := @ih (vm.lowered 1) hrun hword hup
    rw [lowered_lowered, Nat.add_comm] at hstate
    rw [← htick] at houtcomes hstate
    exact ⟨houtcomes, hstate⟩

/-! ## Runs without key events -/

/-- The operation presses or releases keys. -/
def Operation.isKeyEvent : Operation → Bool
  | .setKey .. | .releaseKeys => true
  | _ => false

/-- The operation is a cycle. -/
def Operation.isCycle : Operation → Bool
  | .cycle => true
  | _ => false

/-- How many cycles a run has. -/
def cyclesIn (ops : List Operation) : Nat := ops.countP Operation.isCycle

/-- **A run has no key events**, and goes on with the program that it starts with. -/
def keyless (vm : Vm) : List Operation → Bool
  | [] => true
  | op :: ops => !op.isKeyEvent && !vm.restarts op && (vm.perform op).2.keyless ops

theorem keyless_cons : vm.keyless (op :: ops) = true ↔
    (op.isKeyEvent = false ∧ vm.restarts op = false) ∧ (vm.perform op).2.keyless ops = true := by
  simp [keyless]

theorem cyclesIn_cons (op : Operation) (ops : List Operation) :
    cyclesIn (op :: ops) = cyclesIn ops + if op.isCycle then 1 else 0 := List.countP_cons

theorem outcome_of_not_cycle (vm : Vm) (hcycle : op.isCycle = false) :
    (vm.perform op).1.outcome? = none := by
  cases op with
  | cycle => cases hcycle
  | _ => rfl

theorem isTick_of_isLoad (h : op.isLoad = true) : op.isTick = false := by
  cases op with
  | load | loadFile => rfl
  | _ => cases h

/-- Between the cycles of such a run only timers, request to redraw and strictness change. -/
theorem perform_between (hrun : vm.runState = .running) (hcycle : op.isCycle = false)
    (hkey : op.isKeyEvent = false) (hrestart : vm.restarts op = false) :
    ∃ redraw strict, (vm.perform op).2 =
      { vm.lowered (if op.isTick then 1 else 0) with redraw := redraw, strict := strict } := by
  have hperformed := vm.performed op
  generalize (vm.perform op).2 = after at hperformed ⊢
  have hzero : vm = vm.lowered 0 := vm.lowered_zero.symm
  cases hperformed with
  | cycle => cases hcycle
  | setKey | releaseKeys => cases hkey
  | softReset | hardReset => cases hrestart
  | tick => exact ⟨vm.redraw, vm.strict, vm.tick_snd.symm.trans (tick_snd_of_running hrun)⟩
  | loaded _ hrestarts _ =>
    rw [hrestart] at hrestarts
    cases hrestarts
  | refused hop _ =>
    rw [isTick_of_isLoad hop]
    exact ⟨vm.redraw, vm.strict, hzero⟩
  | setRedraw on => exact ⟨on, vm.strict, congrArg (fun s : Vm => { s with redraw := on }) hzero⟩
  | setStrict on => exact ⟨vm.redraw, on, congrArg (fun s : Vm => { s with strict := on }) hzero⟩

/-! ## A row of instructions that wait -/

/-- What the first registers of a row take: the keys that are down, in ascending order. -/
def takes (vm : Vm) (xs : List Register) (n : Nat) : List (Register × Fin 16) :=
  (xs.zip vm.keypad.pressed).take n

theorem takes_of_released (h : vm.keypad.pressed = []) (xs : List Register) (n : Nat) :
    vm.takes xs n = [] := by
  rw [takes, h, List.zip_nil_right, List.take_nil]

theorem takes_of_pressed {rest : List (Fin 16)} (h : vm.keypad.pressed = key :: rest) (x : Register)
    (xs : List Register) (n : Nat) :
    vm.takes (x :: xs) (n + 1) = (x, key) :: (vm.takeKey x key).takes xs n := by
  have hfewer : (vm.takeKey x key).keypad.pressed = rest := Keypad.pressed_set_false h
  rw [takes, takes, h, hfewer, List.zip_cons_cons, List.take_succ_cons]

/-- Registers that take keys, one after the other. -/
def takeAll (v : Vector UInt8 16) (taken : List (Register × Fin 16)) : Vector UInt8 16 :=
  taken.foldl (fun v t => v.put t.1 (UInt8.ofNat t.2.val)) v

/-- The register that took a key last holds it. -/
theorem get_takeAll (v : Vector UInt8 16) {taken : List (Register × Fin 16)}
    (h : taken.getLast? = some (x, key)) : (takeAll v taken).get x = UInt8.ofNat key.val := by
  obtain ⟨before, rfl⟩ := List.getLast?_eq_some_iff.mp h
  rw [takeAll, List.foldl_append]
  exact Vector.get_put_self ..

theorem waitsAt_takeKey (hword : vm.word = wordXNN 0xF x 0x0A)
    (h : vm.memory.WaitsAt (vm.pc.toNat + 2) xs) :
    (vm.takeKey x key).memory.WaitsAt (vm.takeKey x key).pc.toNat xs := by
  have hpc := pc_le_of_waits hword
  have hnext : vm.advance.pc.toNat = vm.pc.toNat + 2 := toNat_pc_advance (by omega)
  exact hnext ▸ h

theorem pc_add_ofNat (pc : UInt16) (n : Nat) :
    pc + 2 + UInt16.ofNat (2 * n) = pc + UInt16.ofNat (2 * (n + 1)) := by
  rw [UInt16.add_assoc, Nat.mul_succ, Nat.add_comm (2 * n), UInt16.ofNat_add]
  rfl

/-- **What a row does in a run**: its registers take keys, and after that cycles wait. -/
structure Served (vm : Vm) (taken : List (Register × Fin 16)) (ops : List Operation) : Prop where
  answers : outcomes (vm.performAll ops).1 =
    List.replicate taken.length (.ok .executed) ++
      List.replicate (cyclesIn ops - taken.length) (.ok .waitingForKey)
  pressed : (vm.performAll ops).2.keypad.pressed = vm.keypad.pressed.drop taken.length
  /-- The request to redraw and the strictness belong to the surroundings. -/
  state : (vm.performAll ops).2 = { vm.lowered (ticksIn ops) with
    v := takeAll vm.v taken
    keypad := (vm.performAll ops).2.keypad
    pc := vm.pc + UInt16.ofNat (2 * taken.length)
    redraw := (vm.performAll ops).2.redraw
    strict := (vm.performAll ops).2.strict }

theorem eq_cycle_of_isCycle (h : op.isCycle = true) : op = .cycle := by
  cases op with
  | cycle => rfl
  | _ => cases h

section Served

variable {taken : List (Register × Fin 16)}

theorem served_nil (vm : Vm) : Served vm [] [] where
  answers := rfl
  pressed := rfl
  state := by
    rw [performAll_nil, show ticksIn [] = 0 from rfl, lowered_zero]
    exact Vm.ext rfl rfl rfl (UInt16.add_zero vm.pc).symm rfl rfl rfl rfl rfl rfl rfl rfl rfl

theorem Served.between {redraw strict : Bool} (hcycle : op.isCycle = false)
    (hstate : (vm.perform op).2 =
      { vm.lowered (if op.isTick then 1 else 0) with redraw := redraw, strict := strict })
    (h : Served (vm.perform op).2 taken ops) : Served vm taken (op :: ops) where
  answers := by
    rw [performAll_cons, outcomes, List.filterMap_cons_none (outcome_of_not_cycle vm hcycle),
      cyclesIn_cons, hcycle]
    exact h.answers
  pressed := by
    have hpressed := h.pressed
    rw [hstate] at hpressed
    rw [performAll_cons, hstate]
    exact hpressed
  state := by
    have hafter := h.state
    rw [hstate] at hafter
    rw [performAll_cons, hstate, ticksIn_cons, Nat.add_comm, ← lowered_lowered]
    exact hafter

theorem Served.take (hrun : vm.runState = .running) (hword : vm.word = wordXNN 0xF x 0x0A)
    {rest : List (Fin 16)} (hpressed : vm.keypad.pressed = key :: rest)
    (h : Served (vm.takeKey x key) taken ops) : Served vm ((x, key) :: taken) (.cycle :: ops) := by
  have hcycle := cycle_of_pressed hrun hword hpressed
  have hrun' : vm.performAll (.cycle :: ops) =
      (.cycled (.ok .executed) :: ((vm.takeKey x key).performAll ops).1,
        ((vm.takeKey x key).performAll ops).2) := by
    rw [performAll_cons, perform, hcycle]
    rfl
  refine ⟨?_, ?_, ?_⟩
  · rw [hrun', cyclesIn_cons, List.length_cons]
    refine (congrArg (Except.ok Outcome.executed :: ·) h.answers).trans ?_
    rw [List.replicate_succ, Operation.isCycle, if_pos rfl, Nat.add_sub_add_right]
    rfl
  · rw [hrun', hpressed, List.length_cons, List.drop_succ_cons]
    rw [← Keypad.pressed_set_false hpressed]
    exact h.pressed
  · rw [hrun', List.length_cons, ← pc_add_ofNat]
    exact h.state

theorem Served.wait (hrun : vm.runState = .running) (hword : vm.word = wordXNN 0xF x 0x0A)
    (hpressed : vm.keypad.pressed = []) (h : Served vm [] ops) : Served vm [] (.cycle :: ops) := by
  have hrun' : vm.performAll (.cycle :: ops) =
      (.cycled (.ok .waitingForKey) :: (vm.performAll ops).1, (vm.performAll ops).2) := by
    rw [performAll_cons, perform, cycle_of_released hrun hword hpressed]
    rfl
  refine ⟨?_, ?_, ?_⟩
  · rw [hrun', cyclesIn_cons]
    exact congrArg (Except.ok Outcome.waitingForKey :: ·) h.answers
  · rw [hrun']
    exact h.pressed
  · rw [hrun']
    exact h.state

end Served

/-- **A row of instructions that wait for a key**, in a run without key events that does not leave it:
the keys that are down are taken in ascending order, and then the machine waits. -/
theorem performAll_waitsAt (hrun : vm.runState = .running) (hrow : vm.memory.WaitsAt vm.pc.toNat xs)
    (hkeyless : vm.keyless ops = true)
    (hinside : cyclesIn ops ≤ xs.length ∨ vm.keypad.pressed.length < xs.length) :
    Served vm (vm.takes xs (cyclesIn ops)) ops := by
  induction ops generalizing vm xs with
  | nil => exact served_nil vm
  | cons op ops ih =>
    obtain ⟨⟨hkey, hrestart⟩, hrest⟩ := keyless_cons.mp hkeyless
    rw [cyclesIn_cons] at hinside
    cases hcycle : op.isCycle with
    | false =>
      obtain ⟨redraw, strict, hstate⟩ := perform_between hrun hcycle hkey hrestart
      rw [hcycle, if_neg Bool.false_ne_true, Nat.add_zero] at hinside
      have hserved : Served (vm.perform op).2 ((vm.perform op).2.takes xs (cyclesIn ops)) ops := by
        refine ih ?_ ?_ hrest ?_
        · rw [hstate]
          exact hrun
        · rw [hstate]
          exact hrow
        · rw [hstate]
          exact hinside
      have htakes : (vm.perform op).2.takes xs (cyclesIn ops) = vm.takes xs (cyclesIn (op :: ops)) := by
        rw [hstate, cyclesIn_cons, hcycle]
        rfl
      rw [htakes] at hserved
      exact hserved.between hcycle hstate
    | true =>
      obtain rfl := eq_cycle_of_isCycle hcycle
      rw [hcycle, if_pos rfl] at hinside
      change vm.cycle.2.keyless ops = true at hrest
      cases xs with
      | nil => simp at hinside
      | cons x xs =>
        have hword : vm.word = wordXNN 0xF x 0x0A := hrow.1
        cases hpressed : vm.keypad.pressed with
        | nil =>
          rw [cycle_of_released hrun hword hpressed] at hrest
          have hserved := ih hrun hrow hrest (.inr (hpressed ▸ Nat.succ_pos xs.length))
          rw [takes_of_released hpressed] at hserved ⊢
          exact hserved.wait hrun hword hpressed
        | cons key rest =>
          rw [cycle_of_pressed hrun hword hpressed] at hrest
          have hfewer : (vm.takeKey x key).keypad.pressed = rest := Keypad.pressed_set_false hpressed
          have hinside' : cyclesIn ops ≤ xs.length ∨
              (vm.takeKey x key).keypad.pressed.length < xs.length := by
            rw [hpressed, List.length_cons, List.length_cons] at hinside
            rw [hfewer]
            omega
          have hserved := @ih (vm.takeKey x key) xs hrun (waitsAt_takeKey hword hrow.2) hrest hinside'
          rw [cyclesIn_cons, hcycle, if_pos rfl, takes_of_pressed hpressed]
          exact hserved.take hrun hword hpressed

/-! ## The events of a key -/

/-- **What happens to a key.** -/
inductive KeyEvent where
  | press
  | release
  /-- All keys are released. -/
  | releaseAll
  /-- An instruction takes the key. -/
  | consume
  deriving DecidableEq, Repr

/-- The key that the next cycle takes. -/
def consumed (vm : Vm) : Option (Fin 16) :=
  match vm.executing with
  | some (.waitForKey _) => vm.keypad.firstPressed
  | _ => none

/-- **What an operation does to a key**, if anything. -/
def keyEvent (vm : Vm) (key : Fin 16) : Operation → Option KeyEvent
  | .setKey named down =>
    if named.toNat = key.val then some (if down then .press else .release) else none
  | .releaseKeys => some .releaseAll
  | .cycle => if vm.consumed = some key then some .consume else none
  | _ => none

/-- **What happens to a key in a run**, oldest first. -/
def keyEvents (vm : Vm) (key : Fin 16) : List Operation → List KeyEvent
  | [] => []
  | op :: ops => (vm.keyEvent key op).toList ++ (vm.perform op).2.keyEvents key ops

theorem keypad_of_down (h : vm'.keypad.isDown = vm.keypad.isDown) : vm'.keypad = vm.keypad :=
  Keypad.ext (Vector.ext_get fun key => congrFun h key)

theorem consumed_of_not_waiting (h : ∀ x, vm.executing ≠ some (.waitForKey x)) :
    vm.consumed = none := by
  unfold consumed
  split
  next x hx => exact absurd hx (h x)
  next => rfl

/-- Cycles that execute no instruction that waits for a key leave the keys alone. -/
theorem keypad_cycle_of_not_waiting (h : ∀ x, vm.executing ≠ some (.waitForKey x)) :
    vm.cycle.2.keypad = vm.keypad := by
  apply keypad_of_down
  by_contra hne
  obtain ⟨i, o, hanswer, hw, heffect⟩ :=
    exists_effect_of_ne (f := View.down) (fun _ => rfl) (fun _ _ => rfl) hne
  change vm.cycle.2.view.down ≠ vm.view.down at hne
  generalize vm.cycle.2.view = s at heffect hne
  cases heffect with
  | takeKey x => exact h x (executing_eq_some_iff.mpr ⟨hanswer, hw⟩)
  | _ => exact hne rfl

theorem word_of_denotes {w : UInt16} (h : Denotes w (.waitForKey x)) : w = wordXNN 0xF x 0x0A := by
  cases h
  rfl

/-- An instruction that waits for a key is executed when there is one, and takes the lowest. -/
theorem exists_pressed_of_executing (h : vm.executing = some (.waitForKey x)) :
    ∃ key, vm.consumed = some key ∧ vm.cycle.2 = vm.takeKey x key := by
  obtain ⟨hexecuted, hw⟩ := executing_eq_some_iff.mp h
  have hrun := (runState_of_executing h).1
  have hword := word_of_denotes hw
  cases hpressed : vm.keypad.pressed with
  | nil =>
    rw [cycle_of_released hrun hword hpressed] at hexecuted
    cases hexecuted
  | cons key rest =>
    refine ⟨key, ?_, ?_⟩
    · rw [consumed, h]
      exact vm.keypad.firstPressed_eq_head?.trans (congrArg List.head? hpressed)
    · rw [cycle_of_pressed hrun hword hpressed]

/-- A cycle releases the key that it takes. -/
theorem isDown_cycle (vm : Vm) (key : Fin 16) : vm.cycle.2.keypad.isDown key =
    if vm.consumed = some key then false else vm.keypad.isDown key := by
  by_cases hwait : ∃ x, vm.executing = some (.waitForKey x)
  · obtain ⟨x, hx⟩ := hwait
    obtain ⟨taken, hconsumed, hafter⟩ := exists_pressed_of_executing hx
    rw [hconsumed, hafter, takeKey, Keypad.isDown_set]
    exact if_congr (Option.some_inj.symm) rfl rfl
  · have hnone := not_exists.mp hwait
    rw [keypad_cycle_of_not_waiting hnone, consumed_of_not_waiting hnone, if_neg (by simp)]

/-- Resets and loads leave the keys alone, and so do ticks. -/
theorem keypad_perform (vm : Vm) (op : Operation) (hkey : op.isKeyEvent = false)
    (hcycle : op.isCycle = false) : (vm.perform op).2.keypad = vm.keypad := by
  have hperformed := vm.performed op
  generalize (vm.perform op).2 = after at hperformed ⊢
  cases hperformed with
  | cycle => cases hcycle
  | setKey | releaseKeys => cases hkey
  | loaded => simp only [loaded, hardReset, softReset]
  | hardReset => simp only [hardReset, softReset]
  | _ => rfl

/-- **An operation leaves a key down** if it presses it, or if it does nothing to a key that was
down. -/
theorem isDown_perform (vm : Vm) (key : Fin 16) (op : Operation) :
    (vm.perform op).2.keypad.isDown key =
      ((vm.keyEvent key op).map (· == .press)).getD (vm.keypad.isDown key) := by
  cases op with
  | cycle =>
    refine (isDown_cycle vm key).trans ?_
    rw [keyEvent]
    split <;> rfl
  | setKey named down =>
    change (vm.setKey named down).2.keypad.isDown key = _
    rw [keyEvent]
    by_cases hexists : named.toNat < 16
    · simp only [setKey, Keypad.setPressed, dif_pos hexists, Keypad.isDown_set, Fin.ext_iff]
      by_cases hnamed : named.toNat = key.val
      · rw [if_pos hnamed, if_pos hnamed]
        cases down <;> rfl
      · rw [if_neg hnamed, if_neg hnamed]
        rfl
    · -- The byte names no key.
      have hother : named.toNat ≠ key.val := fun hnamed => hexists (hnamed ▸ key.isLt)
      simp only [setKey, Keypad.setPressed, dif_neg hexists, if_neg hother]
      rfl
  | releaseKeys => exact Keypad.isDown_released key
  | tick | load | loadFile | softReset | hardReset | setRedraw | setStrict =>
    exact congrArg (Keypad.isDown · key) (keypad_perform vm _ rfl rfl)

/-- **The last event of a key** tells whether it is down after a run. -/
theorem isDown_performAll (vm : Vm) (key : Fin 16) (ops : List Operation) :
    (vm.performAll ops).2.keypad.isDown key =
      ((vm.keyEvents key ops).getLast?.map (· == .press)).getD (vm.keypad.isDown key) := by
  induction ops generalizing vm with
  | nil => rfl
  | cons op ops ih =>
    rw [performAll_cons, ih, isDown_perform, keyEvents, List.getLast?_append]
    cases (vm.perform op).2.keyEvents key ops |>.getLast? with
    | some event => rfl
    | none => cases vm.keyEvent key op <;> rfl

/-! ## Every machine -/

theorem reg_of_served {taken : List (Register × Fin 16)} (h : Served vm taken ops)
    (hlast : taken.getLast? = some (x, key)) :
    (vm.performAll ops).2.reg x = UInt8.ofNat key.val := by
  rw [h.state]
  exact get_takeAll vm.v hlast

/-- **Keys are taken in ascending order.**
* While no key is down, an instruction that waits for a key waits in every cycle, and only ticks change
  anything: they lower the timers.
* If keys are down it takes the lowest one, and nothing else changes.
* A row of such instructions, in a run without key events, takes the keys that are down in ascending
  order, each of them once, and then waits. Whatever register took a key last holds it.
* Nothing else that is done to a machine changes its keys, key events apart.
* In every run of a fresh machine a key is down just if its last event was a press. -/
theorem keys_are_taken :
    (∀ (vm : Vm) (x : Register) (c t : Nat) (ops : List Operation), vm.runState = .running →
      vm.word = wordXNN 0xF x 0x0A → (∀ key, vm.keypad.isDown key = false) → Interleaved c t ops →
      outcomes (vm.performAll ops).1 = List.replicate c (.ok .waitingForKey) ∧
        (vm.performAll ops).2 = vm.lowered t) ∧
    (∀ (vm : Vm) (x : Register), vm.runState = .running → vm.word = wordXNN 0xF x 0x0A →
      (∃ key, vm.keypad.isDown key = true) →
      ∃ key, vm.keypad.isDown key = true ∧ (∀ q < key, vm.keypad.isDown q = false) ∧
        vm.cycle = (.ok .executed, vm.takeKey x key)) ∧
    (∀ (vm : Vm) (xs : List Register) (ops : List Operation), vm.runState = .running →
      vm.memory.WaitsAt vm.pc.toNat xs → vm.keyless ops = true →
      (cyclesIn ops ≤ xs.length ∨ vm.keypad.pressed.length < xs.length) →
      vm.keypad.pressed.Pairwise (· < ·) ∧
        (∀ key, key ∈ vm.keypad.pressed ↔ vm.keypad.isDown key = true) ∧
        Served vm (vm.takes xs (cyclesIn ops)) ops ∧
        ∀ x key, (vm.takes xs (cyclesIn ops)).getLast? = some (x, key) →
          (vm.performAll ops).2.reg x = UInt8.ofNat key.val) ∧
    (∀ (vm : Vm) (op : Operation), op.isKeyEvent = false →
      (op = .cycle → ∀ x, vm.executing ≠ some (.waitForKey x)) →
      (vm.perform op).2.keypad = vm.keypad) ∧
    ∀ (random : RandomSource) (ops : List Operation) (key : Fin 16),
      ((fresh random).performAll ops).2.keypad.isDown key = true ↔
        ((fresh random).keyEvents key ops).getLast? = some .press := by
  refine ⟨?_, ?_, ?_, ?_, ?_⟩
  · intro vm x c t ops hrun hword hup
    exact performAll_waiting hrun hword (Keypad.pressed_eq_nil.mpr hup)
  · rintro vm x hrun hword ⟨down, hdown⟩
    cases hpressed : vm.keypad.pressed with
    | nil =>
      rw [Keypad.pressed_eq_nil.mp hpressed down] at hdown
      cases hdown
    | cons key rest =>
      have hfirst : vm.keypad.firstPressed = some key := by
        rw [Keypad.firstPressed_eq_head?, hpressed, List.head?_cons]
      obtain ⟨hkey, hleast⟩ := Keypad.firstPressed_eq_some.mp hfirst
      exact ⟨key, hkey, hleast, cycle_of_pressed hrun hword hpressed⟩
  · intro vm xs ops hrun hrow hkeyless hinside
    have hserved := performAll_waitsAt hrun hrow hkeyless hinside
    exact ⟨vm.keypad.pairwise_pressed, fun _ => Keypad.mem_pressed, hserved,
      fun _ _ => reg_of_served hserved⟩
  · intro vm op hkey hwait
    cases hcycle : op.isCycle with
    | false => exact keypad_perform vm op hkey hcycle
    | true =>
      obtain rfl := eq_cycle_of_isCycle hcycle
      exact keypad_cycle_of_not_waiting (hwait rfl)
  · intro random ops key
    have hup : (fresh random).keypad.isDown key = false := Keypad.isDown_released key
    rw [isDown_performAll, hup]
    cases ((fresh random).keyEvents key ops).getLast? <;> simp

/-- Three instructions that wait for a key. -/
def keyRow : Vm := booted (.ofSeed 0) [0xF0, 0x0A, 0xF1, 0x0A, 0xF2, 0x0A]

/-- The row while the keys 7 and 3 are down. -/
def pressedRow : Vm := (keyRow.performAll [.setKey 7 true, .setKey 3 true]).2

/-- Without keys the row waits. With them the first cycle takes 3, the second takes 7, and the third
finds no key; a reset takes none. -/
theorem keys_are_taken_in_row :
    outcomes (keyRow.performAll [.cycle, .tick, .cycle]).1 =
      [.ok .waitingForKey, .ok .waitingForKey] ∧
    pressedRow.cycle = (.ok .executed, pressedRow.takeKey 0 3) ∧
    (pressedRow.performAll [.cycle, .tick, .cycle]).2.reg 1 = 7 ∧
    outcomes (pressedRow.performAll [.cycle, .tick, .cycle, .cycle]).1 =
      [.ok .executed, .ok .executed, .ok .waitingForKey] ∧
    (pressedRow.perform .softReset).2.keypad = pressedRow.keypad := by
  obtain ⟨hwaiting, htaking, hrow, hothers, -⟩ := keys_are_taken
  have hwaits : pressedRow.memory.WaitsAt pressedRow.pc.toNat [0, 1, 2] := by
    refine ⟨?_, ?_, ?_, trivial⟩ <;> decide +kernel
  have hrun : pressedRow.runState = .running := by decide +kernel
  have htaken : pressedRow.takes [0, 1, 2] 3 = [(0, 3), (1, 7)] := by decide +kernel
  refine ⟨?_, ?_, ?_, ?_, hothers pressedRow .softReset rfl fun h => by cases h⟩
  · have hup : ∀ key, keyRow.keypad.isDown key = false := by decide +kernel
    exact (hwaiting keyRow 0 2 1 [.cycle, .tick, .cycle] rfl (by decide +kernel) hup
      (.cycle (.tick (.cycle .nil)))).1
  · obtain ⟨key, hdown, hleast, hcycle⟩ := htaking pressedRow 0 hrun hwaits.1 ⟨3, by decide +kernel⟩
    have hkeys : ∀ key, pressedRow.keypad.isDown key = true →
        (∀ q < key, pressedRow.keypad.isDown q = false) → key = 3 := by decide +kernel
    rw [← hkeys key hdown hleast]
    exact hcycle
  · obtain ⟨-, -, -, hlast⟩ := hrow pressedRow [0, 1, 2] [.cycle, .tick, .cycle] hrun hwaits
      (by decide +kernel) (by decide +kernel)
    exact hlast 1 7 (by decide +kernel)
  · obtain ⟨-, -, hserved, -⟩ := hrow pressedRow [0, 1, 2] [.cycle, .tick, .cycle, .cycle] hrun hwaits
      (by decide +kernel) (by decide +kernel)
    refine hserved.answers.trans ?_
    rw [show cyclesIn [.cycle, .tick, .cycle, .cycle] = 3 from rfl, htaken]
    rfl

end Vm

end Chip8
