import Chip8.Proofs.Configuration

/-!
# After the program is removed

Once the user has removed the program, nothing that the user asks for makes the machine run again: the
drivers are stopped, and the resets and rate changes that would start them again do so only if they
were running.

* **`Vm.Unloaded`**: a machine without a program, with `unloaded_hardReset`;
* `Unloaded.softReset_eq`, `Unloaded.hardReset_eq`: resets only ask for a redraw then;
* `Emulator.Unrevived`: emulators that differ at most in what the user still reaches;
* `Session.handleAll`, `unrevived_handle`: events one after the other, and what each of them changes;
* **`stopped_for_good`**.
-/

namespace Chip8

namespace Vm

variable {vm : Vm}

/-! ## Machines without a program -/

/-- **A machine without a program**, as a hard reset leaves it. -/
structure Unloaded (vm : Vm) : Prop where
  halted : vm.runState = .halted
  v : vm.v = zeroRegs
  i : vm.i = 0
  pc : vm.pc = 0x200
  delay : vm.delay = 0
  sound : vm.sound = 0
  stack : vm.stack = .empty
  display : vm.display = .blank
  font : ∀ a < 80, vm.memory.byte a = fontBytes[a]?.getD 0
  cleared : ∀ a, 0x200 ≤ a → vm.memory.byte a = 0

theorem unloaded_hardReset (vm : Vm) : vm.hardReset.Unloaded where
  halted := rfl
  v := rfl
  i := rfl
  pc := rfl
  delay := rfl
  sound := rfl
  stack := rfl
  display := rfl
  font := fun a ha => by rw [byte_hardReset, image, if_pos ha]
  cleared := fun a ha => by
    rw [byte_hardReset, image, if_neg (by omega), if_neg (by omega)]
    rfl

/-- A reset has nothing left to clear. -/
theorem Unloaded.softReset_eq (h : vm.Unloaded) : vm.softReset = vm.setRedraw true :=
  Vm.ext rfl h.v.symm h.i.symm h.pc.symm h.display.symm h.delay.symm h.sound.symm rfl h.stack.symm
    rfl rfl rfl rfl

theorem Unloaded.memory_hardReset (h : vm.Unloaded) : vm.hardReset.memory = vm.memory := by
  refine Memory.ext_byte fun a _ => ?_
  rw [byte_hardReset, image]
  by_cases hglyph : a < 80
  · rw [if_pos hglyph, h.font a hglyph]
  · rw [if_neg hglyph]
    by_cases hlow : a < 512
    · rw [if_pos hlow]
    · rw [if_neg hlow, h.cleared a (Nat.le_of_not_lt hlow)]
      rfl

theorem Unloaded.hardReset_eq (h : vm.Unloaded) : vm.hardReset = vm.setRedraw true :=
  Vm.ext h.memory_hardReset h.v.symm h.i.symm h.pc.symm h.display.symm h.delay.symm h.sound.symm rfl
    h.stack.symm rfl h.halted.symm rfl rfl

theorem Unloaded.of_input (h : vm.Unloaded) (keypad : Keypad) (redraw : Bool) :
    Unloaded { vm with keypad := keypad, redraw := redraw } :=
  ⟨h.halted, h.v, h.i, h.pc, h.delay, h.sound, h.stack, h.display, h.font, h.cleared⟩

end Vm

namespace Emulator

variable {g e e' : Emulator} {action : Action}

/-! ## Emulators without a program -/

/-- **Emulators that differ at most in the keys, the request to redraw, the instruction rate and the
log.** -/
def Unrevived (g e : Emulator) : Prop :=
  e = { g with
    vm := { g.vm with keypad := e.vm.keypad, redraw := e.vm.redraw }
    config := { g.config with cyclesPerSecond := e.config.cyclesPerSecond }
    journal := e.journal }

namespace Unrevived

theorem of_eq (keypad : Keypad) (redraw : Bool) (rate : UInt32) (journal : List LogEntry)
    (h : e = { g with
      vm := { g.vm with keypad := keypad, redraw := redraw }
      config := { g.config with cyclesPerSecond := rate }
      journal := journal }) : Unrevived g e := by
  rw [Unrevived, h]

theorem of_sameButLog (h : SameButLog g e) : Unrevived g e :=
  .of_eq g.vm.keypad g.vm.redraw g.config.cyclesPerSecond e.journal h

theorem trans (h : Unrevived g e) (h' : Unrevived e e') : Unrevived g e' := by
  rw [Unrevived, h', h]

theorem drivers_eq (h : Unrevived g e) : e.drivers = g.drivers := by
  rw [h]

theorem unloaded (h : Unrevived g e) (hg : g.vm.Unloaded) : e.vm.Unloaded := by
  rw [h]
  exact hg.of_input _ _

end Unrevived

/-- **An emulator whose program was removed.** Its drivers do not run. -/
structure Unloaded (e : Emulator) : Prop where
  drivers : e.drivers = none
  machine : e.vm.Unloaded

theorem stop_of_not_running (h : e.drivers = none) : e.stop = e := by
  simp only [stop, h]

theorem unloaded_hardReset (e : Emulator) : e.hardReset.Unloaded := by
  have hstopped := e.isStarted_stop
  rw [isStarted, Option.isSome_eq_false_iff, Option.isNone_iff_eq_none] at hstopped
  rw [hardReset, note]
  exact ⟨hstopped, Vm.unloaded_hardReset e.stop.vm⟩

namespace Unloaded

theorem of_unrevived (h : g.Unloaded) (hsame : Unrevived g e) : e.Unloaded :=
  ⟨hsame.drivers_eq.trans h.drivers, hsame.unloaded h.machine⟩

theorem restart_eq (h : e.Unloaded) (e' : Emulator) : e'.restart e.isStarted = e' := by
  rw [isStarted, h.drivers]
  rfl

theorem unrevived_softReset (h : e.Unloaded) : Unrevived e e.softReset := by
  rw [softReset, stop_of_not_running h.drivers, h.restart_eq, h.machine.softReset_eq]
  exact .of_eq e.vm.keypad true e.config.cyclesPerSecond e.journal rfl

theorem unrevived_hardReset (h : e.Unloaded) : Unrevived e e.hardReset := by
  rw [hardReset, stop_of_not_running h.drivers, h.machine.hardReset_eq]
  exact .of_eq e.vm.keypad true e.config.cyclesPerSecond (e.journal ++ [.reset]) rfl

theorem unrevived_setSpeed (h : e.Unloaded) (rate : UInt32) : Unrevived e (e.setSpeed rate).2 := by
  rw [setSpeed]
  cases hvalid : Config.validate { e.config with cyclesPerSecond := rate } with
  | error error => exact .of_sameButLog rfl
  | ok =>
    dsimp only
    -- No drivers ran, so none are started for the new rate.
    rw [stop_of_not_running h.drivers, h.restart_eq]
    exact .of_eq e.vm.keypad e.vm.redraw rate e.journal rfl

end Unloaded

theorem unrevived_setKey (e : Emulator) (key : UInt8) (down : Bool) :
    Unrevived e (e.setKey key down).2 := by
  rw [setKey, Vm.setKey]
  cases e.vm.keypad.setPressed key down with
  | error fault => exact .of_sameButLog rfl
  | ok keypad => exact .of_eq keypad e.vm.redraw e.config.cyclesPerSecond e.journal rfl

theorem unrevived_releaseKeys (e : Emulator) : Unrevived e e.releaseKeys :=
  .of_eq .released e.vm.redraw e.config.cyclesPerSecond e.journal rfl

end Emulator

namespace Session

open Emulator (Unrevived)

variable {s s' : Session}

/-! ## Events after the removal -/

/-- **The answers to events handled one after the other, and the session after them.** -/
def handleAll (s : Session) : List UserEvent → List Bool × Session
  | [] => ([], s)
  | event :: events =>
    let (answer, s') := s.handle event
    let (answers, s'') := s'.handleAll events
    (answer :: answers, s'')

theorem handleAll_cons (s : Session) (event : UserEvent) (events : List UserEvent) :
    s.handleAll (event :: events) =
      ((s.handle event).1 :: ((s.handle event).2.handleAll events).1,
        ((s.handle event).2.handleAll events).2) := rfl

/-- Only quitting ends a session. -/
theorem answer_handle (s : Session) {event : UserEvent} (h : event ≠ .quit) :
    (s.handle event).1 = true := by
  cases event with
  | quit => exact absurd rfl h
  | _ => rfl

theorem answers_handleAll (s : Session) {events : List UserEvent} (h : .quit ∉ events) :
    ∀ answer ∈ (s.handleAll events).1, answer = true := by
  induction events generalizing s with
  | nil => exact fun answer hmem => absurd hmem List.not_mem_nil
  | cons event events ih =>
    rw [List.mem_cons, not_or] at h
    rw [handleAll_cons]
    intro answer hmem
    rcases List.mem_cons.mp hmem with rfl | hrest
    · exact s.answer_handle (Ne.symm h.1)
    · exact ih _ h.2 answer hrest

/-- **An event revives nothing.** -/
theorem unrevived_handle (h : s.emulator.Unloaded) (event : UserEvent) :
    Unrevived s.emulator (s.handle event).2.emulator := by
  have hcall : Unrevived s.emulator ((s.call event).elim s.emulator fun action =>
      (s.emulator.act action).2) := by
    cases event with
    | key key => exact s.emulator.unrevived_setKey key true
    | releaseKeys => exact s.emulator.unrevived_releaseKeys
    | speedUp | slowDown => exact h.unrevived_setSpeed _
    | reset => exact h.unrevived_softReset
    | stop => exact h.unrevived_hardReset
    | quit => exact .of_sameButLog rfl
  exact hcall.trans (.of_sameButLog (s.sameButLog_handle event))

theorem unrevived_handleAll (h : s.emulator.Unloaded) (events : List UserEvent) :
    Unrevived s.emulator (s.handleAll events).2.emulator := by
  induction events generalizing s with
  | nil => exact .of_sameButLog rfl
  | cons event events ih =>
    have hstep := unrevived_handle h event
    exact hstep.trans (ih (h.of_unrevived hstep))

theorem unloaded_handle_stop (s : Session) : (s.handle .stop).2.emulator.Unloaded := by
  have hsame := s.sameButLog_handle .stop
  exact s.emulator.unloaded_hardReset.of_unrevived (.of_sameButLog hsame)

/-- **Nothing revives a program that was removed.** Whatever the user asks for after that, short of
quitting, the session goes on with its drivers stopped and its machine halted and cleared: all that
changes is which keys are down, whether a redraw is asked for, the instruction rate and the log. -/
theorem stopped_for_good (s : Session) {events : List UserEvent} (hquit : .quit ∉ events) :
    let stopped := (s.handle .stop).2
    let answers := (s.handleAll (.stop :: events)).1
    let now := (s.handleAll (.stop :: events)).2
    (∀ answer ∈ answers, answer = true) ∧ now.emulator.isStarted = false ∧
      now.emulator.vm.Unloaded ∧ Unrevived stopped.emulator now.emulator := by
  intro stopped answers now
  have hanswers : ∀ answer ∈ answers, answer = true := s.answers_handleAll (by simpa using hquit)
  have hunloaded : stopped.emulator.Unloaded := s.unloaded_handle_stop
  have hunrevived : Unrevived stopped.emulator now.emulator := unrevived_handleAll hunloaded events
  have hnow := hunloaded.of_unrevived hunrevived
  have hstarted : now.emulator.isStarted = false := by
    rw [Emulator.isStarted, hnow.drivers]
    rfl
  exact ⟨hanswers, hstarted, hnow.machine, hunrevived⟩

/-- The events that would restart a program or its drivers leave a removed one removed. -/
theorem stopped_for_good_reset :
    ∃ s : Session, s.emulator.isStarted = true ∧ s.emulator.vm.runState = .running ∧
      let now := (s.handleAll [.stop, .reset, .speedUp, .key 5, .slowDown, .reset]).2
      now.emulator.isStarted = false ∧ now.emulator.vm.runState = .halted := by
  obtain ⟨s, hstarted, hrunning⟩ :
      ∃ s : Session, s.emulator.isStarted = true ∧ s.emulator.vm.runState = .running :=
    ⟨.attach ⟨.booted (.ofSeed 0) [0x12, 0x00], {}, .queue, some {}, [], 0, []⟩, rfl, rfl⟩
  have hquit : .quit ∉ [UserEvent.reset, .speedUp, .key 5, .slowDown, .reset] := by decide
  obtain ⟨-, hstopped, hunloaded, -⟩ := s.stopped_for_good hquit
  exact ⟨s, hstarted, hrunning, hstopped, hunloaded.halted⟩

end Session

end Chip8
