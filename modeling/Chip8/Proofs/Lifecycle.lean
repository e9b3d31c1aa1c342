import Chip8.Proofs.Action
import Chip8.Proofs.Run

/-!
# When an emulator runs

Whether the drivers of an emulator and its machine run is determined by what happened last: each
follows some actions and is left alone by the others.

* `Emulator.Mark`, `Emulator.marks`: what decides on drivers and machine in a run;
* `latest`: the last mark among some, as `latest_append` and `latest_eq_some_iff` say;
* `isStarted_act`, `runState_act`: what one action decides;
* **`lifecycle`**: what a whole run has decided.
-/

namespace Chip8

namespace Emulator

/-! ## Marks -/

/-- What decides whether drivers and machine run. -/
inductive Mark where
  | start
  | stop
  /-- A program is accepted. -/
  | load
  | hardReset
  /-- A driver carries out a cycle that faults. -/
  | fault
  deriving DecidableEq, Repr

namespace Mark

/-- Whether drivers run after a mark, if it decides on that. -/
def drives : Mark → Option Bool
  | start | load => some true
  | stop | hardReset => some false
  | fault => none

/-- Whether the machine runs after a mark, if it decides on that. -/
def runs : Mark → Option RunState
  | load => some .running
  | hardReset | fault => some .halted
  | start | stop => none

end Mark

/-- The instruction driver is about to carry out a cycle that faults. -/
def cycleFaults (e : Emulator) : Bool := e.cycleDue && !e.vm.cycle.1.isOk

/-- The mark that an action leaves. -/
def mark (e : Emulator) : Action → Option Mark
  | .start => some .start
  | .stop => some .stop
  | .load program => if (e.load program).1.isOk then some .load else none
  | .loadFile files path => if (e.loadFile files path).1.isOk then some .load else none
  | .hardReset => some .hardReset
  | .beginCycle => if e.cycleFaults then some .fault else none
  | _ => none

/-- **The marks that a run leaves**, oldest first. -/
def marks (e : Emulator) : List Action → List Mark
  | [] => []
  | action :: actions => (e.mark action).toList ++ (e.act action).2.marks actions

/-- **The last mark among some.** -/
def latest (among past : List Mark) : Option Mark := (past.filter (· ∈ among)).getLast?

/-- What turns drivers on or off. -/
abbrev driving : List Mark := [.start, .load, .stop, .hardReset]

/-- What makes a machine run or halts it. -/
abbrev running : List Mark := [.load, .hardReset, .fault]

variable {e : Emulator} {among past : List Mark} {m : Mark}

theorem latest_append (among past : List Mark) (m : Mark) :
    latest among (past ++ [m]) = if m ∈ among then some m else latest among past := by
  by_cases hm : m ∈ among
  · simp [latest, hm]
  · simp [latest, hm]

theorem latest_eq_some_iff : latest among past = some m ↔
    m ∈ among ∧ ∃ before after, past = before ++ m :: after ∧ ∀ n ∈ among, n ∉ after := by
  rw [latest, List.getLast?_eq_some_iff]
  constructor
  · rintro ⟨kept, hkept⟩
    -- Nothing of what is after the last mark is kept.
    obtain ⟨before, rest, rfl, -, hrest⟩ := List.filter_eq_append_iff.mp hkept
    obtain ⟨skipped, after, rfl, -, hm, hafter⟩ := List.filter_eq_cons_iff.mp hrest
    refine ⟨by simpa using hm, before ++ skipped, after, by simp, fun n hn hmem => ?_⟩
    exact List.filter_eq_nil_iff.mp hafter n hmem (by simpa using hn)
  · rintro ⟨hm, before, after, rfl, hafter⟩
    have hnone : after.filter (· ∈ among) = [] := by
      rw [List.filter_eq_nil_iff]
      intro n hmem hn
      exact hafter n (by simpa using hn) hmem
    exact ⟨before.filter (· ∈ among), by simp [hm, hnone]⟩

/-! ## What one action decides -/

/-- Stopped drivers that are restarted run as they did before. -/
theorem isStarted_restart (h : e.isStarted = false) (wasStarted : Bool) :
    (e.restart wasStarted).isStarted = wasStarted := by
  cases wasStarted with
  | false => exact h
  | true => exact isStarted_start e

/-- An accepted program starts the drivers, a refused one leaves them as they are. -/
theorem isStarted_reload (e : Emulator) (change : Vm → Except LoadError Nat × Vm) :
    (e.reload change).2.isStarted = ((e.reload change).1.isOk || e.isStarted) := by
  simp only [reload, vm_stop]
  rcases change e.vm with ⟨error | size, vm⟩
  · refine (isStarted_restart ?_ _).trans rfl
    exact isStarted_stop e
  · exact isStarted_start _

theorem isStarted_sendFault (e : Emulator) : e.sendFault.isStarted = e.isStarted := by
  unfold sendFault isStarted
  split <;> simp [*]

theorem isStarted_sendBeep (e : Emulator) : e.sendBeep.isStarted = e.isStarted := by
  unfold sendBeep isStarted
  split <;> simp [*]

theorem isStarted_beginCycle (e : Emulator) : e.beginCycle.isStarted = e.isStarted := by
  unfold beginCycle isStarted
  split
  · split <;> simp [*]
  · rfl

theorem isStarted_beginTick (e : Emulator) : e.beginTick.isStarted = e.isStarted := by
  unfold beginTick isStarted
  split <;> simp [*]

theorem isStarted_setSpeed (e : Emulator) (rate : UInt32) :
    (e.setSpeed rate).2.isStarted = e.isStarted := by
  unfold setSpeed
  dsimp only
  split
  · rfl
  · refine isStarted_restart ?_ _
    exact isStarted_stop e

theorem isStarted_hardReset (e : Emulator) : e.hardReset.isStarted = false := by
  have hstopped : e.hardReset.drivers = e.stop.drivers := by simp only [hardReset, note]
  rw [isStarted, hstopped]
  exact isStarted_stop e

/-- **What an action decides for the drivers.** -/
theorem isStarted_act (e : Emulator) (action : Action) :
    (e.act action).2.isStarted = ((e.mark action).bind Mark.drives).getD e.isStarted := by
  cases action with
  | start => exact isStarted_start e
  | stop => exact isStarted_stop e
  | load program =>
    refine (isStarted_reload e (·.load program)).trans ?_
    rw [mark, ← load]
    cases (e.load program).1.isOk <;> rfl
  | loadFile files path =>
    refine (isStarted_reload e (·.loadFile files path)).trans ?_
    rw [mark, ← loadFile]
    cases (e.loadFile files path).1.isOk <;> rfl
  | softReset =>
    refine isStarted_restart ?_ _
    exact isStarted_stop e
  | hardReset => exact isStarted_hardReset e
  | setSpeed rate => exact isStarted_setSpeed e rate
  | takeFault =>
    unfold act takeFault
    cases e.faults <;> rfl
  | takeBeep =>
    unfold act takeBeep
    cases e.beeps <;> rfl
  | beginCycle =>
    refine (isStarted_beginCycle e).trans ?_
    rw [mark]
    cases e.cycleFaults <;> rfl
  | beginTick => exact isStarted_beginTick e
  | sendFault => exact isStarted_sendFault e
  | sendBeep => exact isStarted_sendBeep e
  | setKey | releaseKeys | takeFrame => rfl

/-- **What an action decides for the machine.** -/
theorem runState_act (e : Emulator) (action : Action) :
    (e.act action).2.vm.runState = ((e.mark action).bind Mark.runs).getD e.vm.runState := by
  rw [vm_act]
  cases action with
  | load program =>
    refine (Vm.runState_load e.vm program).trans ?_
    rw [mark, load, answer_reload]
    cases (e.vm.load program).1.isOk <;> rfl
  | loadFile files path =>
    refine (Vm.runState_loadFile e.vm files path).trans ?_
    rw [mark, loadFile, answer_reload]
    cases (e.vm.loadFile files path).1.isOk <;> rfl
  | setKey key down => exact Vm.runState_setKey e.vm key down
  | beginCycle =>
    rw [operation, mark, cycleFaults]
    cases e.cycleDue with
    | false => rfl
    | true =>
      refine (Vm.runState_cycle e.vm).trans ?_
      rw [Bool.true_and]
      cases e.vm.cycle.1.isOk <;> rfl
  | beginTick =>
    rw [operation]
    cases e.tickDue with
    | false => rfl
    | true => exact Vm.runState_tick e.vm
  | _ => rfl

/-! ## Runs -/

/-- Drivers and machine follow the marks of the past. -/
structure Follows (e : Emulator) (past : List Mark) : Prop where
  drivers : e.isStarted = true ↔
    latest driving past = some .start ∨ latest driving past = some .load
  machine : e.vm.runState = .running ↔ latest running past = some .load

theorem Follows.act (h : e.Follows past) (action : Action) :
    (e.act action).2.Follows (past ++ (e.mark action).toList) := by
  have hdrivers := isStarted_act e action
  have hmachine := runState_act e action
  cases hmark : e.mark action with
  | none =>
    rw [hmark] at hdrivers hmachine
    rw [Option.toList_none, List.append_nil]
    exact ⟨hdrivers ▸ h.drivers, hmachine ▸ h.machine⟩
  | some m =>
    rw [hmark] at hdrivers hmachine
    rw [Option.toList_some]
    -- Of the five marks, those that do not count for the drivers or for the machine decide nothing.
    refine ⟨?_, ?_⟩
    · rw [hdrivers, latest_append]
      cases m <;> simp [Mark.drives, h.drivers]
    · rw [hmachine, latest_append]
      cases m <;> simp [Mark.runs, h.machine]

theorem Follows.actAll (h : e.Follows past) (actions : List Action) :
    (e.actAll actions).2.Follows (past ++ e.marks actions) := by
  induction actions generalizing e past with
  | nil => simpa [marks] using h
  | cons action actions ih =>
    rw [marks, ← List.append_assoc]
    exact ih (h.act action)

theorem follows_of_create {random : RandomSource} {config : Config} {audio : Audio}
    (h : create (.fresh random) config audio = .ok e) : e.Follows [] := by
  have hstarted : e.isStarted = false := by rw [create_eq_ok h]; rfl
  have hhalted : e.vm.runState = .halted := by rw [create_eq_ok h]; rfl
  refine ⟨?_, ?_⟩
  · rw [hstarted]
    simp [latest]
  · rw [hhalted]
    simp [latest]

theorem beginCycle_of_halted (h : e.vm.runState = .halted) : e.beginCycle = e := by
  unfold beginCycle
  split
  · rw [Vm.cycle_of_halted h]
  · rfl

theorem beginTick_of_halted (h : e.vm.runState = .halted) : e.beginTick = e := by
  unfold beginTick
  split
  · next hdrivers =>
    rw [Vm.tick_of_halted h]
    exact Emulator.ext rfl rfl rfl hdrivers.symm rfl rfl rfl
  · rfl

/-- **When an emulator runs.** In every run from its creation around a fresh machine, its drivers run
if and only if the last of starts, accepted programs, stops and hard resets is a start or a program, and
its machine runs if and only if neither a hard reset nor a fault came after the last accepted program.
Nothing happens to a halted machine in cycles and ticks. -/
theorem lifecycle {random : RandomSource} {config : Config} {audio : Audio}
    (hcreate : create (.fresh random) config audio = .ok e) (actions : List Action) :
    let now := (e.actAll actions).2
    let past := e.marks actions
    (now.isStarted = true ↔
      latest driving past = some .start ∨ latest driving past = some .load) ∧
    (now.vm.runState = .running ↔ ∃ before after, past = before ++ .load :: after ∧
      .load ∉ after ∧ .hardReset ∉ after ∧ .fault ∉ after) ∧
    (now.vm.runState = .halted →
      now.vm.cycle = (.ok .halted, now.vm) ∧ now.vm.tick = (false, now.vm) ∧
        now.beginCycle = now ∧ now.beginTick = now) := by
  intro now past
  have hfollows : now.Follows past := (follows_of_create hcreate).actAll actions
  refine ⟨hfollows.drivers, ?_, fun hhalted => ?_⟩
  · rw [hfollows.machine, latest_eq_some_iff]
    simp [running]
  · exact ⟨Vm.cycle_of_halted hhalted, Vm.tick_of_halted hhalted, beginCycle_of_halted hhalted,
      beginTick_of_halted hhalted⟩

theorem mark_load {program : List UInt8} (h : program.length ≤ maxProgramSize) :
    e.mark (.load program) = some .load := by
  rw [mark, load, answer_reload, Vm.load_eq, if_pos h]
  rfl

/-- A stopped emulator still has a machine with a program. -/
theorem lifecycle_stopped : ∃ e : Emulator, create (.fresh (.ofSeed 0)) {} .mute = .ok e ∧
    (e.actAll [.load [0x12, 0x00], .stop]).2.isStarted = false ∧
      (e.actAll [.load [0x12, 0x00], .stop]).2.vm.runState = .running := by
  obtain ⟨e, hcreate⟩ : ∃ e, create (.fresh (.ofSeed 0)) {} .mute = .ok e := ⟨_, rfl⟩
  have hmarks : e.marks [.load [0x12, 0x00], .stop] = [.load, .stop] := by
    rewrite [marks, mark_load (by decide)]
    rfl
  obtain ⟨hdrivers, hmachine, -⟩ := lifecycle hcreate [.load [0x12, 0x00], .stop]
  rewrite [hmarks] at hdrivers hmachine
  have hlast : ¬ (latest driving [.load, .stop] = some .start ∨
      latest driving [.load, .stop] = some .load) := by decide
  exact ⟨e, hcreate, Bool.eq_false_iff.mpr fun hstarted => hlast (hdrivers.mp hstarted),
    hmachine.mpr ⟨[], [.stop], rfl, by decide, by decide, by decide⟩⟩

end Emulator

end Chip8
