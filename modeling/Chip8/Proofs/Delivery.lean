import Chip8.Proofs.Threads

/-!
# The way of faults and beeps

A driver sends the fault or the beep of a step after the step, and anything may come between: steps of
the other driver, calls of control, readers of the queues. Whatever comes, faults and beeps arrive.

* `Event`, `Threads.event`, **`Threads.history`**: what happens to faults and beeps in a run;
* `Traffic`, `Traffic.Step`, **`step_traffic`**: the part of an emulator that events depend on, and all
  that a step can do to it;
* `Traffic.Orderly`: only a halted machine has left a fault to be sent, and control works while no
  driver runs; `Traffic.Balanced`: what is sent, queued and taken adds up;
* `Traffic.Run.quiet`, `Traffic.Run.length_raised_le`: a machine that has faulted is silent until the
  next program;
* **`delivery_exact`**: no fault and no beep is lost, comes twice, or comes after the next program.
-/

namespace Chip8

namespace Emulator

/-! ## Events -/

/-- **What happens to faults and beeps.** Cycles return faults and ticks beep, the drivers put them on
their queues, and readers take them off. A program is accepted. -/
inductive Event where
  | raised (fault : Fault)
  | queued (fault : Fault)
  | taken (fault : Fault)
  | beeped
  | beepQueued
  | beepTaken
  | loaded
  deriving DecidableEq, Repr

/-- The faults that cycles returned, oldest first; so are those queued and those taken. -/
def raised (past : List Event) : List Fault :=
  past.filterMap fun | .raised fault => some fault | _ => none

def queued (past : List Event) : List Fault :=
  past.filterMap fun | .queued fault => some fault | _ => none

def taken (past : List Event) : List Fault :=
  past.filterMap fun | .taken fault => some fault | _ => none

@[simp]
theorem raised_append (past later : List Event) :
    raised (past ++ later) = raised past ++ raised later := List.filterMap_append

@[simp]
theorem queued_append (past later : List Event) :
    queued (past ++ later) = queued past ++ queued later := List.filterMap_append

@[simp]
theorem taken_append (past later : List Event) :
    taken (past ++ later) = taken past ++ taken later := List.filterMap_append

theorem raised_toList (occurred : Option Event) :
    (∃ fault, occurred = some (.raised fault)) ∨ raised occurred.toList = [] := by
  rcases occurred with _ | event
  · exact .inr rfl
  · cases event with
    | raised fault => exact .inl ⟨fault, rfl⟩
    | _ => exact .inr rfl

/-- What an action of a driver or of a reader does to faults and beeps. -/
def event (e : Emulator) : Action → Option Event
  | .beginCycle =>
    match e.cycleDue, e.vm.cycle.1 with
    | true, .error fault => some (.raised fault)
    | _, _ => none
  | .sendFault => e.unsentFault.map .queued
  | .takeFault => e.faults.head?.map .taken
  | .beginTick => if e.tickDue && e.vm.tick.1 then some .beeped else none
  | .sendBeep => if e.unsentBeep && e.audio == .queue then some .beepQueued else none
  | .takeBeep => if e.beeps = 0 then none else some .beepTaken
  | _ => none

namespace Threads

/-- What a step does to faults and beeps. -/
def event (t : Threads) : Move → Option Event
  | .act action => t.emulator.event action
  | .proceed =>
    match t.control with
    | .working work _ => if (t.emulator.work work).1 then some .loaded else none
    | _ => none
  | .refuse => none

/-- **What happens in a run**, oldest first. -/
def history (t : Threads) : List Move → List Event
  | [] => []
  | m :: moves => (t.event m).toList ++ (t.step m).history moves

end Threads

/-! ## What a step can do -/

/-- The part of an emulator and its control that events depend on. -/
@[ext]
structure Traffic where
  runState : RunState
  audio : Audio
  drivers : Option Drivers
  faults : List Fault
  beeps : Nat
  /-- Control works on the machine or on the configuration. -/
  atWork : Bool

namespace Traffic

/-- **All that a step can do.** -/
inductive Step (s : Traffic) : Option Event → Traffic → Prop
  | stay : Step s none { s with atWork := false }
  | wait : Step s none s
  | raise {fault : Fault} {beep : Bool} (hrun : s.runState = .running)
      (hdrivers : s.drivers = some ⟨none, beep⟩) :
    Step s (some (.raised fault))
      { s with runState := .halted, drivers := some ⟨some fault, beep⟩ }
  | queue {fault : Fault} {beep : Bool} (hdrivers : s.drivers = some ⟨some fault, beep⟩) :
    Step s (some (.queued fault))
      { s with drivers := some ⟨none, beep⟩, faults := s.faults ++ [fault] }
  | take {fault : Fault} {rest : List Fault} (hfaults : s.faults = fault :: rest) :
    Step s (some (.taken fault)) { s with faults := rest }
  | beep {fault : Option Fault} (hrun : s.runState = .running)
      (hdrivers : s.drivers = some ⟨fault, false⟩) :
    Step s (some .beeped) { s with drivers := some ⟨fault, true⟩ }
  | queueBeep {fault : Option Fault} (haudio : s.audio = .queue)
      (hdrivers : s.drivers = some ⟨fault, true⟩) :
    Step s (some .beepQueued) { s with drivers := some ⟨fault, false⟩, beeps := s.beeps + 1 }
  | swallowBeep {fault : Option Fault} (haudio : s.audio = .mute)
      (hdrivers : s.drivers = some ⟨fault, true⟩) :
    Step s none { s with drivers := some ⟨fault, false⟩ }
  | takeBeep {n : Nat} (hbeeps : s.beeps = n + 1) : Step s (some .beepTaken) { s with beeps := n }
  | start (hdrivers : s.drivers = none) :
    Step s none { s with drivers := some {}, atWork := false }
  | join (hdrivers : s.drivers = none ∨ s.drivers = some {}) (atWork : Bool) :
    Step s none { s with drivers := none, atWork := atWork }
  | load (hwork : s.atWork = true) :
    Step s (some .loaded) { s with runState := .running, atWork := false }
  | change {runState : RunState} (hwork : s.atWork = true)
      (hrun : runState = s.runState ∨ runState = .halted) :
    Step s none { s with runState := runState, atWork := false }

theorem Step.of_eq {s s' : Traffic} {occurred : Option Event} (hevent : occurred = none)
    (h : s' = s) : Step s occurred s' := by
  rw [hevent, h]
  exact .wait

end Traffic

def traffic (e : Emulator) (atWork : Bool) : Traffic where
  runState := e.vm.runState
  audio := e.audio
  drivers := e.drivers
  faults := e.faults
  beeps := e.beeps
  atWork := atWork

def Control.isWorking : Control → Bool
  | .working .. => true
  | _ => false

def Threads.traffic (t : Threads) : Traffic := t.emulator.traffic t.control.isWorking

variable {e : Emulator} {t : Threads}

section Actions

variable (e : Emulator) (atWork : Bool)

theorem step_beginCycle :
    Traffic.Step (e.traffic atWork) (e.event .beginCycle) (e.beginCycle.traffic atWork) := by
  rcases hdrivers : e.drivers with _ | ⟨_ | fault, beep⟩
  · exact .of_eq (by simp [event, cycleDue, hdrivers]) (by simp [beginCycle, hdrivers])
  · rcases hcycle : e.vm.cycle with ⟨fault | outcome, after⟩
    · obtain ⟨hrun, -, rfl⟩ := Vm.cycle_eq_error_iff.mp hcycle
      have hevent : e.event .beginCycle = some (.raised fault) := by
        simp [event, cycleDue, hdrivers, hcycle]
      rw [hevent, beginCycle, hdrivers, hcycle]
      exact .raise hrun hdrivers
    · have hrun := Vm.runState_cycle e.vm
      rw [hcycle] at hrun
      refine .of_eq (by simp [event, cycleDue, hdrivers, hcycle]) ?_
      rw [beginCycle, hdrivers, hcycle]
      exact Traffic.ext hrun rfl hdrivers.symm rfl rfl rfl
  · exact .of_eq (by simp [event, cycleDue, hdrivers]) (by simp [beginCycle, hdrivers])

theorem step_sendFault :
    Traffic.Step (e.traffic atWork) (e.event .sendFault) (e.sendFault.traffic atWork) := by
  rcases hdrivers : e.drivers with _ | ⟨_ | fault, beep⟩
  · exact .of_eq (by simp [event, unsentFault, hdrivers]) (by simp [sendFault, hdrivers])
  · exact .of_eq (by simp [event, unsentFault, hdrivers]) (by simp [sendFault, hdrivers])
  · have hevent : e.event .sendFault = some (.queued fault) := by
      simp [event, unsentFault, hdrivers]
    rw [hevent, sendFault, hdrivers]
    exact .queue hdrivers

theorem step_beginTick :
    Traffic.Step (e.traffic atWork) (e.event .beginTick) (e.beginTick.traffic atWork) := by
  rcases hdrivers : e.drivers with _ | ⟨fault, _ | _⟩
  · exact .of_eq (by simp [event, tickDue, hdrivers]) (by simp [beginTick, hdrivers])
  · have hrun := Vm.runState_tick e.vm
    cases htick : e.vm.tick.1 with
    | false =>
      refine .of_eq (by simp [event, tickDue, hdrivers, htick]) ?_
      rw [beginTick, hdrivers]
      exact Traffic.ext hrun rfl (by simp [traffic, hdrivers, htick]) rfl rfl rfl
    | true =>
      have hrunning : e.vm.runState = .running := by
        cases hrunState : e.vm.runState with
        | running => rfl
        | halted => simp [Vm.tick_of_halted hrunState] at htick
      have hevent : e.event .beginTick = some .beeped := by
        simp [event, tickDue, hdrivers, htick]
      have hafter : e.beginTick.traffic atWork =
          { e.traffic atWork with drivers := some ⟨fault, true⟩ } := by
        rw [beginTick, hdrivers]
        exact Traffic.ext hrun rfl (by simp [traffic, htick]) rfl rfl rfl
      rw [hevent, hafter]
      exact .beep hrunning hdrivers
  · exact .of_eq (by simp [event, tickDue, hdrivers]) (by simp [beginTick, hdrivers])

theorem step_sendBeep :
    Traffic.Step (e.traffic atWork) (e.event .sendBeep) (e.sendBeep.traffic atWork) := by
  rcases hdrivers : e.drivers with _ | ⟨fault, _ | _⟩
  · exact .of_eq (by simp [event, unsentBeep, hdrivers]) (by simp [sendBeep, hdrivers])
  · exact .of_eq (by simp [event, unsentBeep, hdrivers]) (by simp [sendBeep, hdrivers])
  · cases haudio : e.audio with
    | mute =>
      have hevent : e.event .sendBeep = none := by simp [event, haudio]
      have hafter : e.sendBeep = { e with drivers := some ⟨fault, false⟩ } := by
        simp [sendBeep, hdrivers, haudio]
      rw [hevent, hafter]
      exact .swallowBeep haudio hdrivers
    | queue =>
      have hevent : e.event .sendBeep = some .beepQueued := by
        simp [event, unsentBeep, hdrivers, haudio]
      have hafter : e.sendBeep =
          { e with drivers := some ⟨fault, false⟩, beeps := e.beeps + 1 } := by
        simp [sendBeep, hdrivers, haudio]
      rw [hevent, hafter]
      exact .queueBeep haudio hdrivers

theorem step_takeFault :
    Traffic.Step (e.traffic atWork) (e.event .takeFault) ((e.act .takeFault).2.traffic atWork) := by
  cases hfaults : e.faults with
  | nil => exact .of_eq (by simp [event, hfaults]) (by simp [act, takeFault, hfaults])
  | cons fault rest =>
    have hevent : e.event .takeFault = some (.taken fault) := by simp [event, hfaults]
    have hafter : (e.act .takeFault).2 = { e with faults := rest } := by
      simp [act, takeFault, hfaults]
    rw [hevent, hafter]
    exact .take hfaults

theorem step_takeBeep :
    Traffic.Step (e.traffic atWork) (e.event .takeBeep) ((e.act .takeBeep).2.traffic atWork) := by
  cases hbeeps : e.beeps with
  | zero => exact .of_eq (by simp [event, hbeeps]) (by simp [act, takeBeep, hbeeps])
  | succ n =>
    have hevent : e.event .takeBeep = some .beepTaken := by simp [event, hbeeps]
    have hafter : (e.act .takeBeep).2 = { e with beeps := n } := by
      simp [act, takeBeep, hbeeps]
    rw [hevent, hafter]
    exact .takeBeep hbeeps

end Actions

theorem isWorking_firstControl {action : Action} {control : Control}
    (h : e.firstControl action = some control) : control.isWorking = false := by
  cases action with
  | setSpeed rate =>
    rw [firstControl] at h
    dsimp only at h
    split at h <;> cases h
    rfl
  | _ => cases h <;> rfl

theorem event_of_firstControl {action : Action} {control : Control}
    (h : e.firstControl action = some control) : e.event action = none := by
  cases action with
  | beginCycle | sendFault | beginTick | sendBeep | takeFault | takeBeep => cases h
  | _ => rfl

/-- **What an action does at once.** -/
theorem step_act {action : Action} (h : e.firstControl action = none) (atWork : Bool) :
    Traffic.Step (e.traffic atWork) (e.event action) ((e.act action).2.traffic atWork) := by
  cases action with
  | start | stop | load | loadFile | softReset | hardReset => cases h
  | setSpeed rate => exact .of_eq rfl (congrArg (traffic · atWork) (setSpeed_of_firstControl h))
  | setKey key down =>
    exact .of_eq rfl (Traffic.ext (Vm.runState_setKey e.vm key down) rfl rfl rfl rfl rfl)
  | releaseKeys => exact .of_eq rfl rfl
  | takeFrame =>
    have hrun : e.takeFrame.2.vm.runState = e.vm.runState := by
      rw [vm_takeFrame]
      rfl
    exact .of_eq rfl (Traffic.ext hrun rfl rfl rfl rfl rfl)
  | takeFault => exact step_takeFault e atWork
  | takeBeep => exact step_takeBeep e atWork
  | beginCycle => exact step_beginCycle e atWork
  | beginTick => exact step_beginTick e atWork
  | sendFault => exact step_sendFault e atWork
  | sendBeep => exact step_sendBeep e atWork

theorem step_work (e : Emulator) (work : Work) :
    Traffic.Step (e.traffic true) (if (e.work work).1 then some .loaded else none)
      ((e.work work).2.traffic false) := by
  cases work with
  | configure config => exact .stay
  | change op =>
    have hwork : (e.work (.change op)).1 = (e.vm.perform op).1.isAccepted := rfl
    rw [hwork]
    rcases Vm.runState_perform e.vm op with ⟨haccepted, hrun⟩ | ⟨hrefused, hrun⟩
    · have hafter : (e.work (.change op)).2.traffic false =
          { e.traffic true with runState := .running, atWork := false } :=
        Traffic.ext hrun rfl rfl rfl rfl rfl
      rw [haccepted, if_pos rfl, hafter]
      exact .load rfl
    · rw [hrefused]
      exact .change rfl hrun

theorem step_join (h : e.isSettled = true) (atWork : Bool) :
    Traffic.Step (e.traffic false) none (e.join.traffic atWork) := by
  have hafter : e.join.traffic atWork = { e.traffic false with drivers := none, atWork := atWork } := by
    rw [join]
    cases hdrivers : e.drivers with
    | none => exact Traffic.ext rfl rfl hdrivers rfl rfl rfl
    | some drivers => rfl
  rw [hafter]
  exact .join (drivers_of_isSettled h) atWork

theorem step_start (e : Emulator) : Traffic.Step (e.traffic false) none (e.start.traffic false) := by
  rw [start]
  cases hdrivers : e.drivers with
  | none => exact .start hdrivers
  | some drivers => exact .stay

theorem step_proceed (t : Threads) :
    Traffic.Step t.traffic (t.event .proceed) t.proceed.traffic := by
  obtain ⟨e, control⟩ := t
  cases control with
  | idle => exact .wait
  | joining work restart =>
    rw [Threads.proceed]
    cases hsettled : e.isSettled with
    | false => exact .wait
    | true => exact step_join hsettled _
  | working work restart =>
    have hcontrol : (Threads.proceed ⟨e, .working work restart⟩).control.isWorking = false := by
      show (if (e.work work).1 || restart then Control.starting else .idle).isWorking = false
      split <;> rfl
    show Traffic.Step (e.traffic true) _ ((e.work work).2.traffic _)
    rw [hcontrol]
    exact step_work e work
  | starting => exact step_start e
  | failing =>
    rw [Threads.proceed]
    cases hsettled : e.isSettled with
    | false => exact .wait
    | true => exact .join (drivers_of_isSettled hsettled) false

/-- **What a step can do.** -/
theorem step_traffic (t : Threads) (m : Move) :
    Traffic.Step t.traffic (t.event m) (t.step m).traffic := by
  cases m with
  | act action =>
    cases hfirst : t.emulator.firstControl action with
    | none =>
      rw [Threads.step, hfirst]
      exact step_act hfirst t.control.isWorking
    | some control =>
      have hquiet : t.event (.act action) = none := event_of_firstControl hfirst
      have hidle := isWorking_firstControl hfirst
      rw [hquiet, Threads.step, hfirst]
      cases hcontrol : t.control with
      | idle =>
        show Traffic.Step _ _ (t.emulator.traffic control.isWorking)
        rw [hidle]
        exact .stay
      | joining | working | starting | failing => exact .wait
  | proceed => exact step_proceed t
  | refuse =>
    obtain ⟨e, control⟩ := t
    cases control with
    | starting =>
      cases hdrivers : e.drivers with
      | none =>
        rw [Threads.step, hdrivers]
        exact .start hdrivers
      | some drivers =>
        rw [Threads.step, hdrivers]
        exact .wait
    | idle | joining | working | failing => exact .wait

/-! ## What adds up -/

namespace Traffic

variable {s s' s'' : Traffic} {occurred : Option Event} {past later : List Event}

/-- The fault that is not sent yet. -/
def heldFault (s : Traffic) : List Fault := (s.drivers.bind Drivers.unsentFault).toList

/-- The number of beeps that are not sent yet. -/
def heldBeep (s : Traffic) : Nat := (s.drivers.any Drivers.unsentBeep).toNat

/-- **Faults and beeps add up**: what was held or comes up is queued or held, and what was queued is
taken or left. -/
structure Balanced (s : Traffic) (past : List Event) (s' : Traffic) : Prop where
  fault : s.heldFault ++ raised past = queued past ++ s'.heldFault
  faults : s.faults ++ queued past = taken past ++ s'.faults
  beep : s.heldBeep + past.count .beeped = past.count .beepQueued + s'.heldBeep
  beeps : s.beeps + past.count .beepQueued = past.count .beepTaken + s'.beeps

theorem Balanced.trans (h : Balanced s past s') (h' : Balanced s' later s'') :
    Balanced s (past ++ later) s'' where
  fault := by
    rw [raised_append, queued_append]
    calc s.heldFault ++ (raised past ++ raised later)
        = queued past ++ (s'.heldFault ++ raised later) := by
          rw [← List.append_assoc, h.fault, List.append_assoc]
      _ = queued past ++ queued later ++ s''.heldFault := by rw [h'.fault, List.append_assoc]
  faults := by
    rw [queued_append, taken_append]
    calc s.faults ++ (queued past ++ queued later)
        = taken past ++ (s'.faults ++ queued later) := by
          rw [← List.append_assoc, h.faults, List.append_assoc]
      _ = taken past ++ taken later ++ s''.faults := by rw [h'.faults, List.append_assoc]
  beep := by
    have h₁ := h.beep
    have h₂ := h'.beep
    simp only [List.count_append]
    omega
  beeps := by
    have h₁ := h.beeps
    have h₂ := h'.beeps
    simp only [List.count_append]
    omega

/-- Beeps are queued, only a halted machine has left a fault to be sent, and control works while no
driver runs. -/
structure Orderly (s : Traffic) : Prop where
  audio : s.audio = .queue
  halted : s.heldFault ≠ [] → s.runState = .halted
  stopped : s.atWork = true → s.drivers = none

theorem Orderly.not_atWork {drivers : Drivers} (ho : s.Orderly) (hdrivers : s.drivers = some drivers) :
    ¬ s.atWork = true := fun hwork => by
  rw [ho.stopped hwork] at hdrivers
  cases hdrivers

theorem Step.orderly (h : Step s occurred s') (ho : s.Orderly) : s'.Orderly := by
  cases h with
  | wait => exact ho
  | stay => exact ⟨ho.audio, ho.halted, nofun⟩
  | take hfaults => exact ⟨ho.audio, ho.halted, ho.stopped⟩
  | takeBeep hbeeps => exact ⟨ho.audio, ho.halted, ho.stopped⟩
  | raise hrun hdrivers => exact ⟨ho.audio, fun _ => rfl, (absurd · (ho.not_atWork hdrivers))⟩
  | queue hdrivers =>
    exact ⟨ho.audio, fun hheld => absurd rfl hheld, (absurd · (ho.not_atWork hdrivers))⟩
  | beep hrun hdrivers | queueBeep haudio hdrivers | swallowBeep haudio hdrivers =>
    -- The fault that is held stays the same.
    have hheld := ho.halted
    rw [heldFault, hdrivers] at hheld
    exact ⟨ho.audio, hheld, (absurd · (ho.not_atWork hdrivers))⟩
  | start hdrivers => exact ⟨ho.audio, fun hheld => absurd rfl hheld, nofun⟩
  | join hdrivers atWork => exact ⟨ho.audio, fun hheld => absurd rfl hheld, fun _ => rfl⟩
  | load hwork | change hwork hrun =>
    have hnone : s.heldFault = [] := by rw [heldFault, ho.stopped hwork]; rfl
    exact ⟨ho.audio, fun hheld => absurd hnone hheld, nofun⟩

theorem Step.balanced (h : Step s occurred s') (ho : s.Orderly) :
    Balanced s occurred.toList s' := by
  cases h with
  | swallowBeep haudio hdrivers =>
    rw [ho.audio] at haudio
    cases haudio
  | stay | wait | load | change =>
    constructor <;> simp [raised, queued, taken, heldFault, heldBeep]
  | raise hrun hdrivers | queue hdrivers | beep hrun hdrivers | queueBeep haudio hdrivers
  | start hdrivers =>
    constructor <;> simp [raised, queued, taken, heldFault, heldBeep, hdrivers]
  | take hfaults =>
    constructor <;> simp [raised, queued, taken, heldFault, heldBeep, hfaults]
  | takeBeep hbeeps =>
    constructor <;> simp [raised, queued, taken, heldFault, heldBeep, hbeeps, Nat.add_comm]
  | join hdrivers atWork =>
    rcases hdrivers with hdrivers | hdrivers <;>
      constructor <;> simp [raised, queued, taken, heldFault, heldBeep, hdrivers]

/-! ## Halted machines -/

/-- A halted machine is silent until a program is accepted. -/
theorem Step.quiet (h : Step s occurred s') (hhalted : s.runState = .halted)
    (hload : occurred ≠ some .loaded) :
    s'.runState = .halted ∧ raised occurred.toList = [] ∧ .beeped ∉ occurred.toList := by
  cases h with
  | raise hrun hdrivers | beep hrun hdrivers =>
    rw [hhalted] at hrun
    cases hrun
  | load hwork => exact absurd rfl hload
  | change hwork hrun => exact ⟨hrun.elim (·.trans hhalted) id, rfl, by simp⟩
  | _ => exact ⟨hhalted, rfl, by simp⟩

/-- A machine that raises a fault is halted. -/
theorem Step.halted_of_raised {fault : Fault} (h : Step s (some (.raised fault)) s') :
    s'.runState = .halted := by
  cases h
  rfl

/-! ## Runs -/

/-- Steps one after the other. -/
inductive Run : Traffic → List Event → Traffic → Prop
  | refl (s : Traffic) : Run s [] s
  | step {s s' s'' : Traffic} {occurred : Option Event} {past : List Event}
      (hstep : Step s occurred s') (hrun : Run s' past s'') : Run s (occurred.toList ++ past) s''

theorem Run.orderly (h : Run s past s') (ho : s.Orderly) : s'.Orderly := by
  induction h with
  | refl s => exact ho
  | step hstep hrun ih => exact ih (hstep.orderly ho)

theorem Run.balanced (h : Run s past s') (ho : s.Orderly) : Balanced s past s' := by
  induction h with
  | refl s => exact ⟨by simp [raised, queued], by simp [queued, taken], by simp, by simp⟩
  | step hstep hrun ih => exact (hstep.balanced ho).trans (ih (hstep.orderly ho))

theorem Run.quiet (h : Run s past s') (hhalted : s.runState = .halted) (hload : .loaded ∉ past) :
    raised past = [] ∧ .beeped ∉ past := by
  induction h with
  | refl s => exact ⟨rfl, List.not_mem_nil⟩
  | @step s s' s'' occurred past hstep hrun ih =>
    rw [List.mem_append, not_or] at hload
    have hstepload : occurred ≠ some .loaded := by
      rintro rfl
      exact hload.1 (List.mem_singleton_self _)
    obtain ⟨hhalted', hraised, hbeeped⟩ := hstep.quiet hhalted hstepload
    obtain ⟨hraised', hbeeped'⟩ := ih hhalted' hload.2
    exact ⟨by rw [raised_append, hraised, hraised', List.append_nil],
      fun hmem => (List.mem_append.mp hmem).elim hbeeped hbeeped'⟩

theorem length_heldFault_le (s : Traffic) : s.heldFault.length ≤ 1 := Option.length_toList_le

/-- Up to the next program at most one fault is held or comes up. -/
theorem Run.length_raised_le (h : Run s past s') (ho : s.Orderly) (hload : .loaded ∉ past) :
    (s.heldFault ++ raised past).length ≤ 1 := by
  induction h with
  | refl s =>
    rw [raised, List.filterMap_nil, List.append_nil]
    exact s.length_heldFault_le
  | @step s s' s'' occurred past hstep hrun ih =>
    cases hrunState : s.runState with
    | halted =>
      -- The fault that is held, if any, is the only one.
      rw [((Run.step hstep hrun).quiet hrunState hload).1, List.append_nil]
      exact s.length_heldFault_le
    | running =>
      have hnone : s.heldFault = [] := by
        by_contra hheld
        rw [ho.halted hheld] at hrunState
        cases hrunState
      rw [List.mem_append, not_or] at hload
      rw [hnone, List.nil_append, raised_append]
      rcases raised_toList occurred with ⟨fault, rfl⟩ | hraised
      · rw [(hrun.quiet hstep.halted_of_raised hload.2).1, List.append_nil]
        exact Nat.le_refl 1
      · rw [hraised, List.nil_append]
        have hlater := ih (hstep.orderly ho) hload.2
        rw [List.length_append] at hlater
        omega

end Traffic

theorem run_traffic (t : Threads) (moves : List Move) :
    Traffic.Run t.traffic (t.history moves) (t.run moves).traffic := by
  induction moves generalizing t with
  | nil => exact .refl _
  | cons m moves ih => exact .step (step_traffic t m) (ih _)

theorem orderly_of_create {vm : Vm} {config : Config} (h : create vm config .queue = .ok e) :
    (Threads.idle e).traffic.Orderly := by
  rw [create_eq_ok h]
  exact ⟨rfl, fun hheld => absurd rfl hheld, nofun⟩

namespace Threads

/-- **Faults and beeps arrive.** In every run, whatever comes between a step of a driver and what it
sends: the faults that cycles returned are, in order, those queued, and one more at most that is not
sent yet; as many beeps are queued as ticks beeped, but for one that is not sent yet. A stretch without
an accepted program queues at most one fault, and after a fault there is neither a fault nor a beep until
the next accepted program. When control works on the machine, nothing is left to be sent. -/
theorem delivery_exact {vm : Vm} {config : Config} (hcreate : create vm config .queue = .ok e)
    (moves : List Move) :
    let now := (idle e).run moves
    let past := (idle e).history moves
    (raised past = queued past ++ now.emulator.unsentFault.toList ∧
      queued past = taken past ++ now.emulator.faults) ∧
    (past.count .beeped = past.count .beepQueued + now.emulator.unsentBeep.toNat ∧
      past.count .beepQueued = past.count .beepTaken + now.emulator.beeps) ∧
    (∀ later, .loaded ∉ now.history later → (queued (now.history later)).length ≤ 1) ∧
    (∀ move fault, now.event move = some (.raised fault) →
      ∀ later, .loaded ∉ (now.step move).history later →
        raised ((now.step move).history later) = [] ∧
          .beeped ∉ (now.step move).history later) ∧
    (∀ op restart, now.control = .working (.change op) restart →
      now.emulator.unsentFault = none ∧ now.emulator.unsentBeep = false) := by
  intro now past
  have hstart := orderly_of_create hcreate
  have hrun : Traffic.Run (idle e).traffic past now.traffic := run_traffic _ moves
  have horderly : now.traffic.Orderly := hrun.orderly hstart
  obtain ⟨hfault, hqueue, hbeep, hbeepQueue⟩ := hrun.balanced hstart
  have hnoFault : (idle e).traffic.heldFault = [] := by rw [create_eq_ok hcreate]; rfl
  have hnoFaults : (idle e).traffic.faults = [] := by rw [create_eq_ok hcreate]; rfl
  have hnoBeep : (idle e).traffic.heldBeep = 0 := by rw [create_eq_ok hcreate]; rfl
  have hnoBeeps : (idle e).traffic.beeps = 0 := by rw [create_eq_ok hcreate]; rfl
  rw [hnoFault, List.nil_append] at hfault
  rw [hnoFaults, List.nil_append] at hqueue
  rw [hnoBeep, Nat.zero_add] at hbeep
  rw [hnoBeeps, Nat.zero_add] at hbeepQueue
  refine ⟨⟨hfault, hqueue⟩, ⟨hbeep, hbeepQueue⟩, fun later hload => ?_,
    fun move fault hevent later hload => ?_, fun op restart hcontrol => ?_⟩
  · have hlater := run_traffic now later
    have hraised := hlater.length_raised_le horderly hload
    rw [(hlater.balanced horderly).fault, List.length_append] at hraised
    omega
  · have hstep := step_traffic now move
    rw [hevent] at hstep
    exact (run_traffic (now.step move) later).quiet hstep.halted_of_raised hload
  · have hatWork : now.traffic.atWork = true := by
      rw [traffic, hcontrol]
      rfl
    have hnone : now.emulator.drivers = none := horderly.stopped hatWork
    rw [unsentFault, unsentBeep, hnone]
    exact ⟨rfl, rfl⟩

/-- An emulator whose program returns from no call. -/
def returning : Emulator where
  vm := (Vm.booted (.ofSeed 0) [0x00, 0xEE]).setStrict false
  config := {}
  audio := .queue
  drivers := none
  faults := []
  beeps := 0
  journal := []

/-- A soft reset waits for the fault of the cycle before it. -/
theorem delivery_exact_returning :
    let moves : List Move := [.act .start, .proceed, .act .beginCycle, .act .softReset, .proceed,
      .act .sendFault, .proceed, .proceed, .proceed]
    create (Vm.booted (.ofSeed 0) [0x00, 0xEE]) {} .queue = .ok returning ∧
      (idle returning).history moves = [.raised .stackUnderflow, .queued .stackUnderflow] ∧
      ((idle returning).run moves).emulator.faults = [.stackUnderflow] ∧
      ((idle returning).run moves).emulator.unsentFault = none := by
  intro moves
  have hcreate : create (Vm.booted (.ofSeed 0) [0x00, 0xEE]) {} .queue = .ok returning := rfl
  have hhistory : (idle returning).history moves =
      [.raised .stackUnderflow, .queued .stackUnderflow] := by decide +kernel
  obtain ⟨⟨hfault, hqueue⟩, -⟩ := delivery_exact hcreate moves
  rewrite [hhistory] at hfault hqueue
  generalize (idle returning).run moves = now at hfault hqueue ⊢
  have hsent : now.emulator.unsentFault = none := by simpa [raised, queued] using hfault
  exact ⟨hcreate, hhistory, hqueue.symm, hsent⟩

end Threads

end Emulator

end Chip8
