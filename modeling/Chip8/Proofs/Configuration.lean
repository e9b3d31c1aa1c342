import Chip8.Proofs.Picture
import Chip8.Proofs.Strictness
import Chip8.Proofs.Threads

/-!
# The configuration

The rates that an emulator is created with are usable, and so are those it has later: only the
instruction rate changes, and a rate of zero is refused. What the machine does with words that are no
instruction is decided once, in the configuration.

* `Config.Retimes`: a usable configuration that differs from another at most in the instruction rate;
* `retimes_act`: what an action does to the configuration;
* `Session.call`, `sameButLog_handle`: the call of control that an event makes;
* **`Emulator.Configured`**: the invariant, kept by actions, by events and by the steps of calls;
* **`configuration_kept`**.
-/

namespace Chip8

namespace Config

variable {c c' : Config}

theorem validate_eq_zeroCycles : c.validate = .error .zeroCycles ↔ c.cyclesPerSecond = 0 := by
  unfold validate
  by_cases hcycles : c.cyclesPerSecond = 0
  · simp [hcycles]
  · by_cases htimers : c.timersPerSecond = 0 <;> simp [hcycles, htimers]

theorem validate_eq_zeroTimers :
    c.validate = .error .zeroTimers ↔ c.cyclesPerSecond ≠ 0 ∧ c.timersPerSecond = 0 := by
  unfold validate
  by_cases hcycles : c.cyclesPerSecond = 0
  · simp [hcycles]
  · by_cases htimers : c.timersPerSecond = 0 <;> simp [hcycles, htimers]

/-- **A usable configuration that differs from another at most in the instruction rate.** -/
structure Retimes (c c' : Config) : Prop where
  usable : c'.validate = .ok ()
  timers : c'.timersPerSecond = c.timersPerSecond
  strict : c'.strict = c.strict

theorem Retimes.refl (h : c.validate = .ok ()) : c.Retimes c := ⟨h, rfl, rfl⟩

theorem Retimes.cyclePeriod (h : c.Retimes c') :
    c'.cyclePeriod = .ok ⟨Period.nanosPerSecond / c'.cyclesPerSecond.toNat⟩ :=
  if_neg (validate_eq_ok.mp h.usable).1

theorem Retimes.timerPeriod (h : c.Retimes c') :
    c'.timerPeriod = .ok ⟨Period.nanosPerSecond / c'.timersPerSecond.toNat⟩ :=
  if_neg (validate_eq_ok.mp h.usable).2

end Config

namespace Emulator

variable {e e' : Emulator} {config : Config} {action : Action}

/-! ## What actions do to the configuration -/

theorem create_eq_error {vm : Vm} {audio : Audio} {error : ConfigError} :
    create vm config audio = .error error ↔ config.validate = .error error := by
  rw [create]
  cases config.validate <;> simp [Except.map]

theorem validate_of_create {vm : Vm} {audio : Audio} (h : create vm config audio = .ok e) :
    config.validate = .ok () := by
  rw [create] at h
  cases hvalid : config.validate with
  | error error =>
    rw [hvalid] at h
    cases h
  | ok => rfl

theorem config_start (e : Emulator) : e.start.config = e.config := by
  rw [start]
  cases e.drivers <;> rfl

theorem config_sendFault (e : Emulator) : e.sendFault.config = e.config := by
  rcases hdrivers : e.drivers with _ | ⟨_ | fault, beep⟩ <;> simp only [sendFault, hdrivers]

theorem config_sendBeep (e : Emulator) : e.sendBeep.config = e.config := by
  rcases hdrivers : e.drivers with _ | ⟨fault, _ | _⟩ <;> simp only [sendBeep, hdrivers]

theorem config_stop (e : Emulator) : e.stop.config = e.config := by
  rw [stop]
  cases e.drivers with
  | none => rfl
  | some drivers => exact (config_sendBeep _).trans (config_sendFault e)

theorem config_restart (e : Emulator) (wasStarted : Bool) :
    (e.restart wasStarted).config = e.config := by
  cases wasStarted with
  | false => rfl
  | true => exact config_start e

theorem config_reload (e : Emulator) (change : Vm → Except LoadError Nat × Vm) :
    (e.reload change).2.config = e.config := by
  rw [reload]
  rcases change e.stop.vm with ⟨error | size, vm⟩
  · exact (config_restart ..).trans (config_stop e)
  · exact (config_start _).trans (config_stop e)

theorem config_softReset (e : Emulator) : e.softReset.config = e.config := by
  rw [softReset, config_restart]
  exact config_stop e

theorem config_hardReset (e : Emulator) : e.hardReset.config = e.config := by
  rw [hardReset, note]
  exact config_stop e

theorem config_beginCycle (e : Emulator) : e.beginCycle.config = e.config := by
  rcases hdrivers : e.drivers with _ | ⟨_ | fault, beep⟩
  · simp only [beginCycle, hdrivers]
  · rcases hcycle : e.vm.cycle with ⟨fault | outcome, after⟩ <;>
      simp only [beginCycle, hdrivers, hcycle]
  · simp only [beginCycle, hdrivers]

theorem config_beginTick (e : Emulator) : e.beginTick.config = e.config := by
  rcases hdrivers : e.drivers with _ | ⟨fault, _ | _⟩ <;> simp only [beginTick, hdrivers]

theorem retimes_setSpeed (rate : UInt32) (h : config.Retimes e.config) :
    config.Retimes (e.setSpeed rate).2.config := by
  rw [setSpeed]
  cases hvalid : Config.validate { e.config with cyclesPerSecond := rate } with
  | error error => exact h
  | ok =>
    dsimp only
    rw [config_restart]
    exact ⟨hvalid, h.timers, h.strict⟩

/-- **An action leaves the configuration alone**, or sets an instruction rate that is usable. -/
theorem retimes_act (action : Action) (h : config.Retimes e.config) :
    config.Retimes (e.act action).2.config := by
  have hsame {e' : Emulator} (heq : e'.config = e.config) : config.Retimes e'.config := by
    rw [heq]
    exact h
  cases action with
  | setSpeed rate => exact retimes_setSpeed rate h
  | start => exact hsame (config_start e)
  | stop => exact hsame (config_stop e)
  | load program => exact hsame (config_reload e (·.load program))
  | loadFile files path => exact hsame (config_reload e (·.loadFile files path))
  | softReset => exact hsame (config_softReset e)
  | hardReset => exact hsame (config_hardReset e)
  | setKey | releaseKeys | takeFrame => exact h
  | takeFault =>
    refine hsame ?_
    unfold act takeFault
    cases e.faults <;> rfl
  | takeBeep =>
    refine hsame ?_
    unfold act takeBeep
    cases e.beeps <;> rfl
  | beginCycle => exact hsame (config_beginCycle e)
  | sendFault => exact hsame (config_sendFault e)
  | beginTick => exact hsame (config_beginTick e)
  | sendBeep => exact hsame (config_sendBeep e)

/-- No action is the operation that changes the strictness. -/
theorem operation_ne_setStrict (e : Emulator) (action : Action) (on : Bool) :
    e.operation action ≠ some (.setStrict on) := by
  cases action with
  | beginCycle | beginTick =>
    rw [operation]
    split <;> simp
  | _ => simp [operation]

theorem strict_act (e : Emulator) (action : Action) : (e.act action).2.vm.strict = e.vm.strict := by
  rw [vm_act]
  cases hop : e.operation action with
  | none => rfl
  | some op =>
    refine Vm.strict_perform fun on hset => ?_
    exact e.operation_ne_setStrict action on (hset ▸ hop)

/-! ## The invariant -/

/-- **An emulator keeps to a configuration.** Its own one is usable and differs at most in the
instruction rate, and the machine is as strict as it says. -/
structure Configured (e : Emulator) (config : Config) : Prop where
  rates : config.Retimes e.config
  machine : e.vm.strict = e.config.strict

namespace Configured

theorem of_create {vm : Vm} {audio : Audio} (h : create vm config audio = .ok e) :
    e.Configured config := by
  have hvalid := validate_of_create h
  rw [create_eq_ok h]
  exact ⟨.refl hvalid, rfl⟩

theorem of_eq (h : e.Configured config) (hconfig : e'.config = e.config)
    (hstrict : e'.vm.strict = e.vm.strict) : e'.Configured config := by
  refine ⟨hconfig ▸ h.rates, ?_⟩
  rw [hstrict, hconfig]
  exact h.machine

theorem of_sameButLog (h : e.Configured config) (hsame : SameButLog e e') : e'.Configured config := by
  rw [hsame]
  exact h.of_eq rfl rfl

theorem act (h : e.Configured config) (action : Action) : (e.act action).2.Configured config := by
  have hrates := retimes_act action h.rates
  refine ⟨hrates, ?_⟩
  rw [strict_act, h.machine, hrates.strict, h.rates.strict]

end Configured

/-! ## Calls in steps -/

/-- What control is to do to the machine or to the configuration. -/
def Control.pending : Control → Option Work
  | .joining work _ => work
  | .working work _ => some work
  | _ => none

/-- Work that keeps to a configuration. -/
def Work.Keeps (config : Config) : Work → Prop
  | .change op => ∀ on, op ≠ .setStrict on
  | .configure c => config.Retimes c

theorem keeps_firstControl {control : Control} {work : Work} (h : config.Retimes e.config)
    (hfirst : e.firstControl action = some control) (hwork : control.pending = some work) :
    work.Keeps config := by
  cases action with
  | load | loadFile | softReset | hardReset =>
    cases hfirst
    cases hwork
    simp [Work.Keeps]
  | setSpeed rate =>
    rw [firstControl] at hfirst
    cases hvalid : Config.validate { e.config with cyclesPerSecond := rate } with
    | error error =>
      rw [hvalid] at hfirst
      cases hfirst
    | ok =>
      rw [hvalid] at hfirst
      cases hfirst
      cases hwork
      exact ⟨hvalid, h.timers, h.strict⟩
  | start | stop =>
    cases hfirst
    cases hwork
  | _ => cases hfirst

/-- An emulator keeps to a configuration in the middle of a call. -/
structure Threads.Configured (t : Threads) (config : Config) : Prop where
  emulator : t.emulator.Configured config
  pending : ∀ work, t.control.pending = some work → work.Keeps config

theorem Configured.join (h : e.Configured config) : e.join.Configured config := by
  rw [Emulator.join]
  cases e.drivers with
  | none => exact h
  | some drivers => exact h.of_eq rfl rfl

theorem Configured.work {work : Work} (h : e.Configured config) (hkeeps : work.Keeps config) :
    (e.work work).2.Configured config := by
  cases work with
  | change op => exact h.of_eq rfl (Vm.strict_perform hkeeps)
  | configure c => exact ⟨hkeeps, (h.machine.trans h.rates.strict).trans hkeeps.strict.symm⟩

namespace Threads.Configured

variable {t : Threads}

/-- Control that has nothing to do to the machine or to the configuration. -/
theorem of_emulator {control : Control} (h : e.Configured config) (hpending : control.pending = none) :
    Threads.Configured ⟨e, control⟩ config :=
  ⟨h, fun work hwork => by
    rw [hpending] at hwork
    cases hwork⟩

theorem proceed (h : t.Configured config) : t.proceed.Configured config := by
  obtain ⟨e, control⟩ := t
  obtain ⟨he, hpending⟩ := h
  rw [Threads.proceed]
  cases control with
  | idle => exact ⟨he, hpending⟩
  | joining work restart =>
    dsimp only
    split
    · cases work with
      | none => exact .of_emulator he.join rfl
      | some work => exact ⟨he.join, hpending⟩
    · exact ⟨he, hpending⟩
  | working work restart =>
    have hafter := he.work (hpending work rfl)
    dsimp only
    split <;> exact .of_emulator hafter rfl
  | starting => exact .of_emulator (he.act .start) rfl
  | failing =>
    dsimp only
    split
    · exact .of_emulator (he.of_eq rfl rfl) rfl
    · exact ⟨he, hpending⟩

/-- **A step of a call keeps to the configuration.** -/
theorem step (h : t.Configured config) (m : Move) : (t.step m).Configured config := by
  cases m with
  | act action =>
    rw [Threads.step]
    split
    · exact ⟨h.emulator.act action, h.pending⟩
    · next control hfirst _ =>
      exact ⟨h.emulator, fun work hwork => keeps_firstControl h.emulator.rates hfirst hwork⟩
    · exact h
  | proceed => exact h.proceed
  | refuse =>
    rw [Threads.step]
    split
    · exact .of_emulator (h.emulator.of_eq rfl rfl) rfl
    · exact h

theorem run (h : t.Configured config) (moves : List Move) : (t.run moves).Configured config := by
  induction moves generalizing t with
  | nil => exact h
  | cons m moves ih => exact ih (h.step m)

end Threads.Configured

end Emulator

/-! ## What the user asks for -/

namespace Session

open Emulator (SameButLog)

/-- The call of control that an event makes. -/
def call (s : Session) : UserEvent → Option Emulator.Action
  | .key key => some (.setKey key true)
  | .releaseKeys => some .releaseKeys
  | .speedUp => some (.setSpeed (faster s.emulator.config.cyclesPerSecond))
  | .slowDown => some (.setSpeed (slower s.emulator.config.cyclesPerSecond))
  | .reset => some .softReset
  | .stop => some .hardReset
  | .quit => none

theorem sameButLog_report (s : Session) (message : String) :
    SameButLog s.emulator (s.report message).emulator := by
  cases hconnected : s.connected with
  | true =>
    simp only [report, sendStatus, send, hconnected, if_true]
    exact rfl
  | false =>
    simp only [report, sendStatus, send, hconnected, Bool.false_eq_true, if_false]
    exact (SameButLog.refl _).note _

theorem sameButLog_changeSpeed (s : Session) (rate : UInt32) :
    SameButLog (s.emulator.setSpeed rate).2 (s.changeSpeed rate).emulator := by
  rw [changeSpeed]
  rcases s.emulator.setSpeed rate with ⟨error | ok, e⟩
  · exact (SameButLog.refl _).note _
  · exact ((SameButLog.refl _).note _).trans (sameButLog_report _ _)

theorem sameButLog_pressKey (s : Session) (key : UInt8) :
    SameButLog (s.emulator.setKey key true).2 (s.pressKey key).emulator := by
  rw [pressKey]
  rcases s.emulator.setKey key true with ⟨fault | ok, e⟩
  · exact (SameButLog.refl _).note _
  · exact rfl

/-- **An event makes at most one call of control.** What it does besides is logged. -/
theorem sameButLog_handle (s : Session) (event : UserEvent) :
    SameButLog ((s.call event).elim s.emulator fun action => (s.emulator.act action).2)
      (s.handle event).2.emulator := by
  cases event with
  | key key => exact s.sameButLog_pressKey key
  | releaseKeys => exact rfl
  | speedUp | slowDown => exact s.sameButLog_changeSpeed _
  | reset => exact sameButLog_report { s with emulator := s.emulator.softReset } _
  | stop => exact sameButLog_report { s with emulator := s.emulator.hardReset } _
  | quit => exact rfl

end Session

namespace Terminal

open Emulator (Configured)

variable {t : Terminal} {config : Config}

/-- **An event keeps to the configuration**, whether the interface takes messages or not. -/
theorem configured_step (h : t.session.emulator.Configured config) (event : Event) :
    (t.step event).session.emulator.Configured config := by
  cases event with
  | act action => exact h.act action
  | handle event =>
    have hcall : Configured ((t.session.call event).elim t.session.emulator fun action =>
        (t.session.emulator.act action).2) config := by
      cases t.session.call event with
      | none => exact h
      | some action => exact h.act action
    exact hcall.of_sameButLog (t.session.sameButLog_handle event)
  | refresh =>
    have htaken : (t.session.refresh.2).emulator = t.session.emulator.takeFrame.2 := by
      rw [Session.refresh]
      rcases t.session.emulator.takeFrame with ⟨_ | pixels, e⟩
      · rfl
      · cases t.session.connected <;> simp [Session.send]
    rw [step, htaken]
    exact h.act .takeFrame
  | deliver =>
    rw [step]
    split <;> exact h

theorem configured_run (h : t.session.emulator.Configured config) (events : List Event) :
    (t.run events).session.emulator.Configured config := by
  induction events generalizing t with
  | nil => exact h
  | cons event events ih => exact ih (configured_step h event)

end Terminal

namespace Emulator

/-- **The configuration is kept.** An emulator is created unless a rate is zero, and the instruction
rate is reported first. From then on, in every run of events and in every state of a call whose steps
the drivers come between, the rates are usable, so the periods of the drivers exist whenever they are
started; the rate of the timers and the strictness are those of the creation, also in the machine. -/
theorem configuration_kept (vm : Vm) (config : Config) (audio : Audio) :
    (create vm config audio = .error .zeroCycles ↔ config.cyclesPerSecond = 0) ∧
    (create vm config audio = .error .zeroTimers ↔
      config.cyclesPerSecond ≠ 0 ∧ config.timersPerSecond = 0) ∧
    ∀ e : Emulator, create vm config audio = .ok e → ∀ now : Emulator,
      (∃ (t : Terminal) (events : List Terminal.Event), t.session.emulator = e ∧
        now = (t.run events).session.emulator) ∨
      (∃ moves : List Move, now = ((Threads.idle e).run moves).emulator) →
        now.config.cyclesPerSecond ≠ 0 ∧ now.config.timersPerSecond ≠ 0 ∧
        now.config.cyclePeriod = .ok ⟨Period.nanosPerSecond / now.config.cyclesPerSecond.toNat⟩ ∧
        now.config.timerPeriod = .ok ⟨Period.nanosPerSecond / now.config.timersPerSecond.toNat⟩ ∧
        now.config.timersPerSecond = config.timersPerSecond ∧ now.config.strict = config.strict ∧
        now.vm.strict = now.config.strict := by
  refine ⟨create_eq_error.trans Config.validate_eq_zeroCycles,
    create_eq_error.trans Config.validate_eq_zeroTimers, fun e hcreate now hnow => ?_⟩
  have hinitial : e.Configured config := .of_create hcreate
  have hkept : now.Configured config := by
    rcases hnow with ⟨t, events, rfl, rfl⟩ | ⟨moves, rfl⟩
    · exact Terminal.configured_run hinitial events
    · exact (Threads.Configured.run (.of_emulator hinitial rfl) moves).emulator
  obtain ⟨hcycles, htimers⟩ := Config.validate_eq_ok.mp hkept.rates.usable
  exact ⟨hcycles, htimers, hkept.rates.cyclePeriod, hkept.rates.timerPeriod, hkept.rates.timers,
    hkept.rates.strict, hkept.machine⟩

/-- A rate of zero, a faster rate and a hard reset leave a strict machine strict. -/
theorem configuration_kept_strict :
    ∃ e : Emulator, create (.fresh (.ofSeed 0)) { strict := true } .mute = .ok e ∧
      let now := ((Terminal.attach e).run
        [.act (.setSpeed 0), .handle .speedUp, .act .hardReset]).session.emulator
      now.config.cyclesPerSecond ≠ 0 ∧ now.config.timersPerSecond = 60 ∧ now.vm.strict = true := by
  obtain ⟨e, hcreate⟩ : ∃ e, create (.fresh (.ofSeed 0)) { strict := true } .mute = .ok e := ⟨_, rfl⟩
  obtain ⟨-, -, hkept⟩ := configuration_kept (.fresh (.ofSeed 0)) { strict := true } .mute
  obtain ⟨hcycles, -, -, -, htimers, hstrict, hmachine⟩ :=
    hkept e hcreate _ (.inl ⟨Terminal.attach e, _, rfl, rfl⟩)
  exact ⟨e, hcreate, hcycles, htimers, hmachine.trans hstrict⟩

end Emulator

end Chip8
