import Chip8.Proofs.Lifecycle

/-!
# Control and drivers at the same time

Calls of control take several steps: they wait for the drivers to finish theirs, work on the machine
or on the configuration, and start the drivers again. Here the drivers go on between these steps, and
the queues are read at any time. A call that nothing comes between is the action of the same name.

* `Vm.runState_perform`: an operation makes a machine run if it loads a program;
* `Work`, **`Control`**: what control does between the drivers, and where it is in a call;
* **`Threads`**, `Threads.step`, `Threads.run`: an emulator and its control, and their steps in any
  order;
* **`run_uninterrupted`**: a call that nothing comes between.
-/

namespace Chip8

namespace Vm

/-- The answer of a load that was accepted. -/
def Answer.isAccepted : Answer → Bool
  | .loaded answer => answer.isOk
  | _ => false

/-- An accepted program makes a machine run, and nothing else does. -/
theorem runState_perform (vm : Vm) (op : Operation) :
    ((vm.perform op).1.isAccepted = true ∧ (vm.perform op).2.runState = .running) ∨
      ((vm.perform op).1.isAccepted = false ∧
        ((vm.perform op).2.runState = vm.runState ∨ (vm.perform op).2.runState = .halted)) := by
  cases op with
  | load program =>
    have hrun := runState_load vm program
    cases haccepted : (vm.load program).1.isOk with
    | true => exact .inl ⟨haccepted, hrun.trans (if_pos haccepted)⟩
    | false => exact .inr ⟨haccepted, .inl (hrun.trans (if_neg (Bool.eq_false_iff.mp haccepted)))⟩
  | loadFile files path =>
    have hrun := runState_loadFile vm files path
    cases haccepted : (vm.loadFile files path).1.isOk with
    | true => exact .inl ⟨haccepted, hrun.trans (if_pos haccepted)⟩
    | false => exact .inr ⟨haccepted, .inl (hrun.trans (if_neg (Bool.eq_false_iff.mp haccepted)))⟩
  | cycle =>
    have hrun : (vm.perform .cycle).2.runState = _ := runState_cycle vm
    rw [hrun]
    cases vm.cycle.1.isOk with
    | true => exact .inr ⟨rfl, .inl rfl⟩
    | false => exact .inr ⟨rfl, .inr rfl⟩
  | tick => exact .inr ⟨rfl, .inl (runState_tick vm)⟩
  | hardReset => exact .inr ⟨rfl, .inr rfl⟩
  | setKey key down => exact .inr ⟨rfl, .inl (runState_setKey vm key down)⟩
  | softReset | releaseKeys | setRedraw | setStrict => exact .inr ⟨rfl, .inl rfl⟩

end Vm

namespace Emulator

/-- What control changes while the drivers are stopped. -/
inductive Work where
  | change (op : Vm.Operation)
  | configure (config : Config)

/-- **Where control is in a call.** -/
inductive Control where
  /-- In none. -/
  | idle
  /-- It waits for the drivers to end, and works after that, if there is work. -/
  | joining (work : Option Work) (restart : Bool)
  /-- The drivers have ended. They start again after the work if they are to, or if it was a program
  that is accepted. -/
  | working (work : Work) (restart : Bool)
  /-- It is about to start the drivers. -/
  | starting
  /-- Not all drivers could be started, and it waits for those that were to end. -/
  | failing

/-- Where a call begins. What is no call, or is refused at once, takes a single step. -/
def firstControl (e : Emulator) : Action → Option Control
  | .start => some .starting
  | .stop => some (.joining none false)
  | .load program => some (.joining (some (.change (.load program))) e.isStarted)
  | .loadFile files path => some (.joining (some (.change (.loadFile files path))) e.isStarted)
  | .softReset => some (.joining (some (.change .softReset)) e.isStarted)
  | .hardReset => some (.joining (some (.change .hardReset)) false)
  | .setSpeed rate =>
    let config := { e.config with cyclesPerSecond := rate }
    match config.validate with
    | .ok () => some (.joining (some (.configure config)) e.isStarted)
    | .error _ => none
  | _ => none

/-- The fault that the instruction driver has not sent yet. -/
def unsentFault (e : Emulator) : Option Fault := e.drivers.bind Drivers.unsentFault

/-- The timer driver has not sent its beep yet. -/
def unsentBeep (e : Emulator) : Bool := e.drivers.any Drivers.unsentBeep

/-- Both drivers have finished their steps. -/
def isSettled (e : Emulator) : Bool := e.unsentFault.isNone && !e.unsentBeep

/-- Ends the drivers, if they run. -/
def join (e : Emulator) : Emulator :=
  match e.drivers with
  | some _ => { e with drivers := none }.note [.stoppedDrivers]
  | none => e

/-- Whether a program was accepted, and the emulator after the work. -/
def work (e : Emulator) : Work → Bool × Emulator
  | .change op =>
    let (answer, vm) := e.vm.perform op
    (answer.isAccepted, { e with vm := vm }.note (e.vm.performLog op))
  | .configure config => (false, { e with config := config })

/-- **An emulator and its control.** -/
structure Threads where
  emulator : Emulator
  control : Control

/-- **A step of control, of a driver or of whoever reads a queue.** -/
inductive Move where
  /-- A call begins, if control is in none; everything else happens at once. -/
  | act (action : Action)
  /-- Control goes on in its call, if it can. -/
  | proceed
  /-- The system has no thread for a driver that control is about to start. -/
  | refuse

namespace Threads

/-- Control goes on in its call. It waits while a driver is in the middle of a step. -/
def proceed (t : Threads) : Threads :=
  match t.control with
  | .idle => t
  | .joining work restart =>
    if t.emulator.isSettled then
      ⟨t.emulator.join, work.elim .idle (.working · restart)⟩
    else t
  | .working work restart =>
    let (accepted, e) := t.emulator.work work
    ⟨e, if accepted || restart then .starting else .idle⟩
  | .starting => ⟨t.emulator.start, .idle⟩
  | .failing =>
    if t.emulator.isSettled then ⟨{ t.emulator with drivers := none }, .idle⟩ else t

/-- The effect of a step. -/
def step (t : Threads) : Move → Threads
  | .act action =>
    match t.emulator.firstControl action, t.control with
    | none, _ => { t with emulator := (t.emulator.act action).2 }
    | some control, .idle => { t with control := control }
    | some _, _ => t
  | .proceed => t.proceed
  | .refuse =>
    match t.control, t.emulator.drivers with
    | .starting, none => ⟨{ t.emulator with drivers := some {} }, .failing⟩
    | _, _ => t

/-- **Steps one after the other.** -/
def run (t : Threads) (moves : List Move) : Threads := moves.foldl step t

/-- An emulator whose control is in no call. -/
def idle (e : Emulator) : Threads := ⟨e, .idle⟩

@[simp]
theorem run_nil (t : Threads) : t.run [] = t := rfl

theorem run_cons (t : Threads) (m : Move) (moves : List Move) :
    t.run (m :: moves) = (t.step m).run moves := rfl

end Threads

/-! ## Calls that nothing comes between -/

/-- What follows the beginning of a call if nothing comes between: the drivers finish their steps where
control waits for them, and control goes on to the end. -/
def Control.rest : Control → List Move
  | .joining .. => [.act .sendFault, .act .sendBeep, .proceed, .proceed, .proceed]
  | _ => [.proceed]

/-- An action with nothing between its steps. -/
def uninterrupted (e : Emulator) (action : Action) : List Move :=
  .act action :: (e.firstControl action).elim [] Control.rest

theorem run_atOnce {action : Action} (h : e.firstControl action = none) :
    (Threads.idle e).run (e.uninterrupted action) = .idle (e.act action).2 := by
  rw [uninterrupted, h, Option.elim_none, Threads.run_cons, Threads.run_nil, Threads.step,
    Threads.idle, h]
  rfl

theorem run_call {action : Action} {control : Control}
    (h : e.firstControl action = some control) :
    (Threads.idle e).run (e.uninterrupted action) = Threads.run ⟨e, control⟩ control.rest := by
  rw [uninterrupted, h, Option.elim_some, Threads.run_cons, Threads.step, Threads.idle, h]

theorem isSettled_sent (e : Emulator) : e.sendFault.sendBeep.isSettled = true := by
  rcases hdrivers : e.drivers with _ | ⟨_ | fault, _ | _⟩ <;>
    simp [sendFault, sendBeep, isSettled, unsentFault, unsentBeep, hdrivers]

theorem drivers_of_isSettled {e : Emulator} (h : e.isSettled = true) :
    e.drivers = none ∨ e.drivers = some {} := by
  rcases hdrivers : e.drivers with _ | ⟨_ | fault, _ | _⟩
  · exact .inl rfl
  · exact .inr rfl
  all_goals simp [isSettled, unsentFault, unsentBeep, hdrivers] at h

/-- A rate that begins no call is refused. -/
theorem setSpeed_of_firstControl {e : Emulator} {rate : UInt32}
    (h : e.firstControl (.setSpeed rate) = none) : (e.setSpeed rate).2 = e := by
  rw [firstControl] at h
  rw [setSpeed]
  dsimp only at h ⊢
  split at h
  · cases h
  · next hvalid => rw [hvalid]

/-- Control that waits for drivers to send what they hold stops them. -/
theorem join_sent (e : Emulator) : e.sendFault.sendBeep.join = e.stop := by
  rcases hdrivers : e.drivers with _ | ⟨_ | fault, _ | _⟩ <;>
    simp [sendFault, sendBeep, join, stop, hdrivers]

theorem run_joining (e : Emulator) (work : Option Work) (restart : Bool) :
    Threads.run ⟨e, .joining work restart⟩ (Control.joining work restart).rest =
      Threads.run ⟨e.stop, work.elim .idle (.working · restart)⟩ [.proceed, .proceed] := by
  have hjoin : Threads.proceed ⟨e.sendFault.sendBeep, .joining work restart⟩ =
      ⟨e.stop, work.elim .idle (.working · restart)⟩ := by
    simp only [Threads.proceed, isSettled_sent, join_sent, if_true]
  rw [← hjoin]
  rfl

theorem run_working (e : Emulator) (work : Work) (restart : Bool) :
    Threads.run ⟨e, .working work restart⟩ [.proceed, .proceed] =
      .idle ((e.work work).2.restart ((e.work work).1 || restart)) := by
  rw [Threads.run_cons, Threads.step, Threads.proceed]
  dsimp only
  cases ((e.work work).1 || restart) <;> rfl

theorem work_softReset (e : Emulator) :
    e.work (.change .softReset) = (false, { e with vm := e.vm.softReset }) := by
  simp only [work, note, Vm.perform, Vm.performLog, List.append_nil, Vm.Answer.isAccepted]

theorem reload_eq (e : Emulator) (op : Vm.Operation) (change : Vm → Except LoadError Nat × Vm)
    (hop : ∀ vm, vm.perform op = (change vm).map .loaded id)
    (hlog : ∀ vm, vm.performLog op = Vm.loadLog (change vm).1) :
    (e.reload change).2 = (e.stop.work (.change op)).2.restart
      ((e.stop.work (.change op)).1 || e.isStarted) := by
  simp only [reload, work, hop, hlog]
  rcases change e.stop.vm with ⟨_ | size, vm⟩ <;> rfl

/-- **A call that nothing comes between** is the action. -/
theorem run_uninterrupted (e : Emulator) (action : Action) :
    (Threads.idle e).run (e.uninterrupted action) = .idle (e.act action).2 := by
  cases action with
  | start => rfl
  | stop => exact run_joining e none false
  | load program =>
    refine (run_joining e (some (.change (.load program))) e.isStarted).trans ?_
    refine (run_working ..).trans ?_
    exact congrArg Threads.idle (reload_eq e _ (·.load program) (fun _ => rfl) fun _ => rfl).symm
  | loadFile files path =>
    refine (run_joining e (some (.change (.loadFile files path))) e.isStarted).trans ?_
    refine (run_working ..).trans ?_
    exact congrArg Threads.idle (reload_eq e _ (·.loadFile files path) (fun _ => rfl) fun _ => rfl).symm
  | softReset =>
    refine (run_joining e (some (.change .softReset)) e.isStarted).trans ?_
    refine (run_working ..).trans ?_
    rw [work_softReset]
    rfl
  | hardReset =>
    refine (run_joining e (some (.change .hardReset)) false).trans ?_
    exact run_working ..
  | setSpeed rate =>
    cases hvalid : Config.validate { e.config with cyclesPerSecond := rate } with
    | error refusal =>
      exact run_atOnce (by simp only [firstControl, hvalid])
    | ok =>
      have hfirst : e.firstControl (.setSpeed rate) = some (.joining
          (some (.configure { e.config with cyclesPerSecond := rate })) e.isStarted) := by
        simp only [firstControl, hvalid]
      have hact : (e.act (.setSpeed rate)).2 =
          { e.stop with config := { e.config with cyclesPerSecond := rate } }.restart e.isStarted := by
        simp only [act, setSpeed, hvalid, Prod.map, id]
      refine (run_call hfirst).trans ((run_joining ..).trans ((run_working ..).trans ?_))
      exact congrArg Threads.idle hact.symm
  | setKey | releaseKeys | takeFrame | takeFault | takeBeep => exact run_atOnce rfl
  | beginCycle | sendFault | beginTick | sendBeep => exact run_atOnce rfl

end Emulator

end Chip8
