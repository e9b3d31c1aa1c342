import Chip8.Emulator.Action
import Chip8.Vm.Operation

/-!
# Actions and the machine

An action does at most one thing to the machine of an emulator, whatever the drivers do around it.

* `create_eq_ok`: an emulator that was just created;
* `answer_reload`, `vm_reload`, `vm_restart`, `vm_setSpeed`: control and the machine;
* `load_of_stopped`, `takeFrame_eq`, `beginCycle_of_ok`: single actions, with all that they return;
* `Emulator.operation`, **`vm_act`**: what an action does to the machine;
* `SameButLog`: emulators that differ at most in what they have logged.
-/

namespace Chip8

namespace Emulator

theorem create_eq_ok {vm : Vm} {config : Config} {audio : Audio} {e : Emulator}
    (h : create vm config audio = .ok e) :
    e = ⟨vm.setStrict config.strict, config, audio, none, [], 0, []⟩ := by
  rw [create] at h
  cases hvalid : config.validate with
  | error error =>
    rw [hvalid] at h
    cases h
  | ok =>
    rw [hvalid] at h
    cases h
    rfl

theorem vm_restart (e : Emulator) (wasStarted : Bool) : (e.restart wasStarted).vm = e.vm := by
  cases wasStarted with
  | false => rfl
  | true => exact vm_start e

theorem answer_reload (e : Emulator) (change : Vm → Except LoadError Nat × Vm) :
    (e.reload change).1 = (change e.vm).1 := by
  simp only [reload, vm_stop]
  rcases change e.vm with ⟨_ | _, vm⟩ <;> rfl

theorem vm_reload (e : Emulator) (change : Vm → Except LoadError Nat × Vm) :
    (e.reload change).2.vm = (change e.vm).2 := by
  simp only [reload, vm_stop]
  rcases change e.vm with ⟨_ | _, vm⟩
  · exact vm_restart ..
  · exact vm_start _

/-- A program is accepted while the drivers are stopped. -/
theorem load_of_stopped {e : Emulator} {program : List UInt8} {size : Nat} {vm : Vm}
    (hdrivers : e.drivers = none) (h : e.vm.load program = (.ok size, vm)) :
    e.load program = (.ok size, { e with
      vm := vm
      drivers := some {}
      journal := e.journal ++ [.reset, .loadedProgram size,
        .startedDrivers e.config.cyclesPerSecond e.config.timersPerSecond] }) := by
  simp [load, reload, stop, start, note, hdrivers, h, Vm.loadLog]

theorem vm_setSpeed (e : Emulator) (rate : UInt32) : (e.setSpeed rate).2.vm = e.vm := by
  unfold setSpeed
  dsimp only
  split
  · rfl
  · exact (vm_restart ..).trans (vm_stop e)

theorem takeFrame_eq (e : Emulator) :
    e.takeFrame = (if e.vm.redraw then some e.vm.display.pixels else none,
      { e with vm := e.vm.setRedraw false }) := by
  cases hredraw : e.vm.redraw with
  | true => simp only [takeFrame, Vm.takeFrame, hredraw, if_pos]
  | false =>
    -- Nothing asks for a redraw, so clearing the request changes nothing.
    simp only [takeFrame, Vm.takeFrame, hredraw, Bool.false_eq_true, if_false]
    rw [Vm.setRedraw, ← hredraw]

theorem vm_takeFrame (e : Emulator) : e.takeFrame.2.vm = e.vm.setRedraw false := by
  rw [takeFrame_eq]

/-- The instruction driver runs and has sent the fault of its last cycle. -/
def cycleDue (e : Emulator) : Bool :=
  match e.drivers with
  | some { unsentFault := none, .. } => true
  | _ => false

/-- The timer driver runs and has sent the beep of its last tick. -/
def tickDue (e : Emulator) : Bool :=
  match e.drivers with
  | some { unsentBeep := false, .. } => true
  | _ => false

/-- What an action does to the machine, if anything. -/
def operation (e : Emulator) : Action → Option Vm.Operation
  | .load program => some (.load program)
  | .loadFile files path => some (.loadFile files path)
  | .softReset => some .softReset
  | .hardReset => some .hardReset
  | .setKey key down => some (.setKey key down)
  | .releaseKeys => some .releaseKeys
  | .takeFrame => some (.setRedraw false)
  | .beginCycle => if e.cycleDue then some .cycle else none
  | .beginTick => if e.tickDue then some .tick else none
  | _ => none

theorem vm_beginCycle (e : Emulator) :
    e.beginCycle.vm = if e.cycleDue then e.vm.cycle.2 else e.vm := by
  rcases hdrivers : e.drivers with _ | ⟨_ | fault, beep⟩
  · simp [beginCycle, cycleDue, hdrivers]
  · rcases hcycle : e.vm.cycle with ⟨fault | outcome, after⟩
    · simp [beginCycle, cycleDue, hdrivers, hcycle]
    · simp [beginCycle, cycleDue, hdrivers, hcycle]
  · simp [beginCycle, cycleDue, hdrivers]

theorem beginCycle_of_ok {e : Emulator} {o : Outcome} (hdrivers : e.drivers = some {})
    (h : e.vm.cycle.1 = .ok o) : e.beginCycle = { e with vm := e.vm.cycle.2 } := by
  have hcycle : e.vm.cycle = (.ok o, e.vm.cycle.2) := Prod.ext h rfl
  simp only [beginCycle, hdrivers]
  rw [hcycle]

theorem vm_beginTick (e : Emulator) :
    e.beginTick.vm = if e.tickDue then e.vm.tick.2 else e.vm := by
  rcases hdrivers : e.drivers with _ | ⟨fault, _ | _⟩
  · simp [beginTick, tickDue, hdrivers]
  · simp [beginTick, tickDue, hdrivers]
  · simp [beginTick, tickDue, hdrivers]

/-- **What an action does to the machine.** -/
theorem vm_act (e : Emulator) (action : Action) :
    (e.act action).2.vm = (e.operation action).elim e.vm fun op => (e.vm.perform op).2 := by
  cases action with
  | start => exact vm_start e
  | stop => exact vm_stop e
  | load program => exact vm_reload e (·.load program)
  | loadFile files path => exact vm_reload e (·.loadFile files path)
  | softReset =>
    refine (vm_restart ..).trans ?_
    exact congrArg Vm.softReset (vm_stop e)
  | hardReset => exact congrArg Vm.hardReset (vm_stop e)
  | setSpeed rate => exact vm_setSpeed e rate
  | setKey | releaseKeys => rfl
  | takeFrame => exact vm_takeFrame e
  | takeFault =>
    unfold act takeFault
    cases e.faults <;> rfl
  | takeBeep =>
    unfold act takeBeep
    cases e.beeps <;> rfl
  | beginCycle =>
    refine (vm_beginCycle e).trans ?_
    rw [operation]
    cases e.cycleDue <;> rfl
  | beginTick =>
    refine (vm_beginTick e).trans ?_
    rw [operation]
    cases e.tickDue <;> rfl
  | sendFault => exact vm_sendFault e
  | sendBeep => exact vm_sendBeep e

/-- **Emulators that differ at most in what they have logged.** -/
def SameButLog (g e : Emulator) : Prop := e = { g with journal := e.journal }

namespace SameButLog

variable {g e e' : Emulator}

theorem of_eq (journal : List LogEntry) (h : e = { g with journal := journal }) :
    SameButLog g e := by
  rw [SameButLog, h]

theorem trans (h : SameButLog g e) (h' : SameButLog e e') : SameButLog g e' := by
  rw [SameButLog, h', h]

theorem refl (e : Emulator) : SameButLog e e := rfl

theorem note (h : SameButLog g e) (entries : List LogEntry) : SameButLog g (e.note entries) := by
  rw [SameButLog, Emulator.note, h]

theorem drivers_eq (h : SameButLog g e) : e.drivers = g.drivers := by
  rw [h]

end SameButLog

end Emulator

end Chip8
