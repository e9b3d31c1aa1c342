import Chip8.Config
import Chip8.Vm.Report

/-!
# The emulator

A machine with two drivers: one carries out cycles, the other timer ticks, each at its rate. A step
of a driver first works on the machine and then sends the fault or the beep that came of it, and
between the two anything else may happen. Stopping the drivers waits for both to finish their step.

* `Drivers`: what running drivers have not sent yet;
* **`Emulator`**: the machine, its configuration, its drivers and the queues they send to;
* the steps of the drivers: `beginCycle`, `sendFault`, `beginTick`, `sendBeep`;
* control: `create`, `start`, `stop`, `load`, `loadFile`, `softReset`, `hardReset`, `setSpeed`,
  `setKey`, `releaseKeys`, `takeFrame`, `takeFault`, `takeBeep`.
-/

namespace Chip8

/-- Where beeps go. -/
inductive Audio where
  /-- They are swallowed. -/
  | mute
  /-- They are queued. -/
  | queue
  deriving DecidableEq, Repr

/-- Running drivers, by what they have not sent yet. -/
structure Drivers where
  /-- The fault of the cycle just carried out. -/
  unsentFault : Option Fault := none
  /-- The tick just carried out beeped. -/
  unsentBeep : Bool := false
  deriving DecidableEq, Repr

/-- **The emulator.** -/
@[ext]
structure Emulator where
  vm : Vm
  config : Config
  audio : Audio
  /-- The drivers, while they run. -/
  drivers : Option Drivers
  /-- The faults of cycles that nobody has taken, oldest first. -/
  faults : List Fault
  /-- The number of beeps that nobody has taken. -/
  beeps : Nat
  /-- What control has logged, oldest first. -/
  journal : List LogEntry
  deriving DecidableEq

namespace Emulator

/-- **An emulator around a machine**, which follows the configuration from then on. Its drivers are
not running. -/
def create (vm : Vm) (config : Config) (audio : Audio) : Except ConfigError Emulator :=
  config.validate.map fun _ =>
    { vm := vm.setStrict config.strict
      config := config
      audio := audio
      drivers := none
      faults := []
      beeps := 0
      journal := [] }

/-- The drivers are running. -/
def isStarted (e : Emulator) : Bool := e.drivers.isSome

/-- Logs entries. -/
def note (e : Emulator) (entries : List LogEntry) : Emulator :=
  { e with journal := e.journal ++ entries }

/-! ## Steps of the drivers -/

/-- Sends the fault that the instruction driver holds. -/
def sendFault (e : Emulator) : Emulator :=
  match e.drivers with
  | some { unsentFault := some fault, unsentBeep } =>
    { e with drivers := some { unsentBeep }, faults := e.faults ++ [fault] }
  | _ => e

/-- Sends the beep that the timer driver holds. -/
def sendBeep (e : Emulator) : Emulator :=
  match e.drivers with
  | some { unsentFault, unsentBeep := true } =>
    { e with
      drivers := some { unsentFault }
      beeps := match e.audio with
        | .mute => e.beeps
        | .queue => e.beeps + 1 }
  | _ => e

/-- The instruction driver carries out a cycle, unless its last step is unfinished. -/
def beginCycle (e : Emulator) : Emulator :=
  match e.drivers with
  | some { unsentFault := none, unsentBeep } =>
    match e.vm.cycle with
    | (.ok _, vm) => { e with vm := vm }
    | (.error fault, vm) =>
      { e with vm := vm, drivers := some { unsentFault := some fault, unsentBeep } }
  | _ => e

/-- The timer driver carries out a tick, unless its last step is unfinished. -/
def beginTick (e : Emulator) : Emulator :=
  match e.drivers with
  | some { unsentFault, unsentBeep := false } =>
    let (beep, vm) := e.vm.tick
    { e with vm := vm, drivers := some { unsentFault, unsentBeep := beep } }
  | _ => e

/-- A whole step of the instruction driver. -/
def driveCycle (e : Emulator) : Emulator := e.beginCycle.sendFault

/-- A whole step of the timer driver. -/
def driveTick (e : Emulator) : Emulator := e.beginTick.sendBeep

/-! ## Control -/

/-- **Starts the drivers** unless they are running. -/
def start (e : Emulator) : Emulator :=
  match e.drivers with
  | some _ => e
  | none =>
    { e with drivers := some {} }.note
      [.startedDrivers e.config.cyclesPerSecond e.config.timersPerSecond]

/-- **Stops the drivers** if they are running, after both have finished their step. -/
def stop (e : Emulator) : Emulator :=
  match e.drivers with
  | some _ => { e.sendFault.sendBeep with drivers := none }.note [.stoppedDrivers]
  | none => e

/-- Starts the drivers again if they were running before. -/
def restart (e : Emulator) (wasStarted : Bool) : Emulator := if wasStarted then e.start else e

/-- Changes the program while the drivers are stopped. They run after an accepted program, and after
a refused one if they did before. -/
def reload (e : Emulator) (change : Vm → Except LoadError Nat × Vm) :
    Except LoadError Nat × Emulator :=
  let stopped := e.stop
  let (answer, vm) := change stopped.vm
  let changed := { stopped with vm := vm }.note (Vm.loadLog answer)
  match answer with
  | .ok size => (.ok size, changed.start)
  | .error error => (.error error, changed.restart e.isStarted)

/-- **Loads a program** and runs it. -/
def load (e : Emulator) (program : List UInt8) : Except LoadError Nat × Emulator :=
  e.reload (·.load program)

/-- **Loads the program in a file** and runs it. -/
def loadFile (e : Emulator) (files : FileSystem) (path : String) :
    Except LoadError Nat × Emulator :=
  e.reload (·.loadFile files path)

/-- Restarts the program. -/
def softReset (e : Emulator) : Emulator :=
  let stopped := e.stop
  { stopped with vm := stopped.vm.softReset }.restart e.isStarted

/-- Removes the program. The drivers stay stopped until the next one is loaded. -/
def hardReset (e : Emulator) : Emulator :=
  let stopped := e.stop
  { stopped with vm := stopped.vm.hardReset }.note [.reset]

/-- **Changes the instruction rate.** A rate that is refused changes nothing. -/
def setSpeed (e : Emulator) (cyclesPerSecond : UInt32) : Except ConfigError Unit × Emulator :=
  let config := { e.config with cyclesPerSecond := cyclesPerSecond }
  match config.validate with
  | .error error => (.error error, e)
  | .ok () => (.ok (), { e.stop with config := config }.restart e.isStarted)

/-- Presses or releases a key. -/
def setKey (e : Emulator) (key : UInt8) (down : Bool) : Except Fault Unit × Emulator :=
  let (answer, vm) := e.vm.setKey key down
  (answer, { e with vm := vm })

/-- Releases all keys. -/
def releaseKeys (e : Emulator) : Emulator := { e with vm := e.vm.releaseKeys }

/-- The pixels of the display, if they may have changed since they were last taken. -/
def takeFrame (e : Emulator) : Option (Vector Bool pixelCount) × Emulator :=
  let (frame, vm) := e.vm.takeFrame
  (frame, { e with vm := vm })

/-- Takes the oldest fault off its queue. -/
def takeFault (e : Emulator) : Option (Fault × Emulator) :=
  match e.faults with
  | [] => none
  | fault :: rest => some (fault, { e with faults := rest })

/-- Takes a beep off its queue. -/
def takeBeep (e : Emulator) : Option Emulator :=
  match e.beeps with
  | 0 => none
  | n + 1 => some { e with beeps := n }

/-! ## What control leaves alone -/

@[simp]
theorem vm_note (e : Emulator) (entries : List LogEntry) : (e.note entries).vm = e.vm := rfl

@[simp]
theorem vm_sendFault (e : Emulator) : e.sendFault.vm = e.vm := by
  unfold sendFault
  split <;> rfl

@[simp]
theorem vm_sendBeep (e : Emulator) : e.sendBeep.vm = e.vm := by
  unfold sendBeep
  split <;> rfl

@[simp]
theorem vm_start (e : Emulator) : e.start.vm = e.vm := by
  unfold start
  split <;> rfl

@[simp]
theorem vm_stop (e : Emulator) : e.stop.vm = e.vm := by
  unfold stop
  split <;> simp

@[simp]
theorem isStarted_start (e : Emulator) : e.start.isStarted = true := by
  unfold start isStarted
  split <;> simp_all [note]

@[simp]
theorem isStarted_stop (e : Emulator) : e.stop.isStarted = false := by
  unfold stop isStarted
  split <;> simp_all [note]

end Emulator

end Chip8
