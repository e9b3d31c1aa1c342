import Chip8.Proofs.CommandLine
import Chip8.Proofs.Configuration
import Chip8.Proofs.Refusal

/-!
# Rates

The user changes the instruction rate in steps, and a driver takes a step once in the period that
belongs to its rate. Neither works at every rate that is accepted: a rate below the lowest one that the
user can select is raised by slowing down, and one beyond a step in a nanosecond has no period.

* `toNat_faster`, `toNat_slower`: the rates that the user goes to;
* **`Session.Retimed`**, `retimed_changeSpeed`: nothing changes with a rate but the rate;
* `Terminal.Paced`, **`speed_keys`**: whatever the user goes through;
* **`Config.HasPeriods`**, `hasPeriods_iff`, **`accepted_periods`**: the rates that have a period.
-/

namespace Chip8

/-! ## Faster and slower -/

/-- A higher rate is one step higher, up to the highest there is. -/
theorem toNat_faster (rate : UInt32) : (faster rate).toNat = min (rate.toNat + 100) 4294967295 := by
  have hlt : min (rate.toNat + 100) 4294967295 < UInt32.size :=
    Nat.lt_of_le_of_lt (Nat.min_le_right _ _) (by decide)
  exact UInt32.toNat_ofNat_of_lt' hlt

/-- A lower rate is one step lower, but at least the lowest that can be selected. -/
theorem toNat_slower (rate : UInt32) : (slower rate).toNat = max (rate.toNat - 100) 100 := by
  have hrate : rate.toNat < UInt32.size := rate.toNat_lt
  have hsize : 100 < UInt32.size := by decide
  exact UInt32.toNat_ofNat_of_lt' (by show max (rate.toNat - 100) 100 < _; omega)

theorem le_faster (rate : UInt32) : rate ≤ faster rate := by
  have hrate : rate.toNat < 4294967296 := rate.toNat_lt
  rw [UInt32.le_iff_toNat_le, toNat_faster]
  omega

theorem slower_le_iff {rate : UInt32} : slower rate ≤ rate ↔ 100 ≤ rate := by
  rw [UInt32.le_iff_toNat_le, UInt32.le_iff_toNat_le, toNat_slower]
  have : (100 : UInt32).toNat = 100 := rfl
  omega

theorem le_slower (rate : UInt32) : 100 ≤ slower rate := by
  rw [UInt32.le_iff_toNat_le, toNat_slower]
  exact Nat.le_max_right _ _

theorem faster_ne_zero (rate : UInt32) : faster rate ≠ 0 := by
  intro hzero
  have hup := toNat_faster rate
  rw [hzero, UInt32.toNat_zero] at hup
  omega

theorem slower_ne_zero (rate : UInt32) : slower rate ≠ 0 := by
  intro hzero
  have hdown := toNat_slower rate
  rw [hzero, UInt32.toNat_zero] at hdown
  omega

/-! ## The speed keys -/

namespace Emulator

variable {e : Emulator} {rate : UInt32}

theorem setSpeed_of_ne_zero (hvalid : e.config.validate = .ok ()) (hrate : rate ≠ 0) :
    e.setSpeed rate =
      (.ok (), { e.stop with config := { e.config with cyclesPerSecond := rate } }.restart
        e.isStarted) := by
  have husable : Config.validate { e.config with cyclesPerSecond := rate } = .ok () :=
    Config.validate_eq_ok.mpr ⟨hrate, (Config.validate_eq_ok.mp hvalid).2⟩
  rw [setSpeed]
  simp only [husable]

theorem config_setSpeed_of_ne_zero (hvalid : e.config.validate = .ok ()) (hrate : rate ≠ 0) :
    (e.setSpeed rate).2.config = { e.config with cyclesPerSecond := rate } := by
  rw [setSpeed_of_ne_zero hvalid hrate, config_restart]

/-- A rate of zero is refused. -/
theorem ne_zero_of_setSpeed {e' : Emulator} (h : e.setSpeed rate = (.ok (), e')) : rate ≠ 0 := by
  rintro rfl
  have hrefused : Config.validate { e.config with cyclesPerSecond := 0 } = .error .zeroCycles :=
    Config.validate_eq_zeroCycles.mpr rfl
  rw [setSpeed] at h
  simp only [hrefused] at h
  cases h

/-- Drivers leave the configuration alone. -/
theorem config_of_isDriving (e : Emulator) {action : Action} (h : action.isDriving = true) :
    (e.act action).2.config = e.config := by
  cases action with
  | beginCycle => exact config_beginCycle e
  | sendFault => exact config_sendFault e
  | beginTick => exact config_beginTick e
  | sendBeep => exact config_sendBeep e
  | _ => cases h

end Emulator

namespace Session

variable {s : Session} {rate : UInt32}

/-- **A session goes on at another instruction rate**, and nothing else is different for the machine. -/
structure Retimed (s : Session) (rate : UInt32) (handled : Bool × Session) : Prop where
  answer : handled.1 = true
  accepted : (s.emulator.setSpeed rate).1 = .ok ()
  config : handled.2.emulator.config = { s.emulator.config with cyclesPerSecond := rate }
  vm : handled.2.emulator.vm = s.emulator.vm
  isStarted : handled.2.emulator.isStarted = s.emulator.isStarted

theorem retimed_changeSpeed (hvalid : s.emulator.config.validate = .ok ()) (hrate : rate ≠ 0) :
    s.Retimed rate (true, s.changeSpeed rate) := by
  have hsame := s.sameButLog_changeSpeed rate
  have hset := Emulator.setSpeed_of_ne_zero hvalid hrate
  refine ⟨rfl, congrArg Prod.fst hset, ?_, ?_, ?_⟩
  · rw [hsame]
    exact Emulator.config_setSpeed_of_ne_zero hvalid hrate
  · rw [hsame]
    exact s.emulator.vm_setSpeed rate
  · rw [Emulator.isStarted, hsame.drivers_eq]
    exact s.emulator.isStarted_setSpeed rate

theorem retimed_handle (hvalid : s.emulator.config.validate = .ok ()) :
    s.Retimed (faster s.emulator.config.cyclesPerSecond) (s.handle .speedUp) ∧
      s.Retimed (slower s.emulator.config.cyclesPerSecond) (s.handle .slowDown) :=
  ⟨retimed_changeSpeed hvalid (faster_ne_zero _), retimed_changeSpeed hvalid (slower_ne_zero _)⟩

end Session

namespace Terminal

/-- The user speeds up or slows down, or a driver takes a step. -/
def Event.paces : Event → Bool
  | .handle .speedUp | .handle .slowDown => true
  | .act action => action.isDriving
  | _ => false

/-- **What speed keys leave alone**: everything about the configuration but the instruction rate, and a
rate that the user can select stays one. -/
structure Paced (e e' : Emulator) : Prop where
  retimes : e.config.Retimes e'.config
  selectable : 100 ≤ e.config.cyclesPerSecond → 100 ≤ e'.config.cyclesPerSecond
  isStarted : e'.isStarted = e.isStarted

variable {e : Emulator} {t : Terminal}

theorem Paced.of_retimed {s : Session} {rate : UInt32} {handled : Bool × Session}
    (h : Paced e s.emulator) (hretimed : s.Retimed rate handled) (hrate : rate ≠ 0)
    (hselectable : 100 ≤ s.emulator.config.cyclesPerSecond → 100 ≤ rate) :
    Paced e handled.2.emulator := by
  have htimers := (Config.validate_eq_ok.mp h.retimes.usable).2
  refine ⟨?_, ?_, hretimed.isStarted.trans h.isStarted⟩
  · rw [hretimed.config]
    exact ⟨Config.validate_eq_ok.mpr ⟨hrate, htimers⟩, h.retimes.timers, h.retimes.strict⟩
  · rw [hretimed.config]
    exact fun hbefore => hselectable (h.selectable hbefore)

theorem Paced.step (h : Paced e t.session.emulator) {event : Event} (hevent : event.paces = true) :
    Paced e (t.step event).session.emulator := by
  obtain ⟨hup, hdown⟩ := t.session.retimed_handle h.retimes.usable
  cases event with
  | act action =>
    have hdriving : action.isDriving = true := hevent
    have hconfig := t.session.emulator.config_of_isDriving hdriving
    have hbackground : action.inBackground = true := by cases action <;> first | rfl | cases hdriving
    refine ⟨?_, ?_, (Emulator.isStarted_of_inBackground _ hbackground).trans h.isStarted⟩
    · rw [Terminal.step, hconfig]
      exact h.retimes
    · rw [Terminal.step, hconfig]
      exact h.selectable
  | handle event =>
    cases event with
    | speedUp => exact h.of_retimed hup (faster_ne_zero _) fun hle =>
        UInt32.le_trans hle (le_faster _)
    | slowDown => exact h.of_retimed hdown (slower_ne_zero _) fun _ => le_slower _
    | _ => cases hevent
  | refresh | deliver => cases hevent

theorem Paced.run (h : Paced e t.session.emulator) {events : List Event}
    (hevents : ∀ event ∈ events, event.paces = true) :
    Paced e (t.run events).session.emulator := by
  induction events generalizing t with
  | nil => exact h
  | cons event events ih =>
    rw [List.forall_mem_cons] at hevents
    exact ih (h.step hevents.1) hevents.2

/-- **Speed keys.** Whenever the user speeds up or slows down, whatever the drivers do in between, the
rate is accepted, and only the instruction rate changes. Speeding up does not lower it, and slowing down
does not raise it unless it is below the lowest rate that can be selected; a rate that can be selected
stays one. -/
theorem speed_keys (hvalid : t.session.emulator.config.validate = .ok ()) {events : List Event}
    (honly : ∀ event ∈ events, event.paces = true) :
    let s := (t.run events).session
    let rate := s.emulator.config.cyclesPerSecond
    s.Retimed (faster rate) (s.handle .speedUp) ∧
    (faster rate).toNat = min (rate.toNat + 100) 4294967295 ∧ rate ≤ faster rate ∧
    s.Retimed (slower rate) (s.handle .slowDown) ∧
    (slower rate).toNat = max (rate.toNat - 100) 100 ∧ (slower rate ≤ rate ↔ 100 ≤ rate) ∧
    Paced t.session.emulator s.emulator := by
  intro s rate
  have hpaced : Paced t.session.emulator s.emulator := by
    refine Paced.run ⟨.refl hvalid, id, rfl⟩ honly
  obtain ⟨hup, hdown⟩ := Session.retimed_handle hpaced.retimes.usable
  exact ⟨hup, toNat_faster rate, le_faster rate, hdown, toNat_slower rate, slower_le_iff, hpaced⟩

/-- Slowing down twice, with a cycle in between, leaves the lowest rate that can be selected. -/
theorem speed_keys_lowest :
    ∃ e : Emulator, Emulator.create (.fresh (.ofSeed 0)) { cyclesPerSecond := 150 } .mute = .ok e ∧
      let s := ((attach e).run [.handle .slowDown, .act .beginCycle, .handle .slowDown]).session
      let rate := s.emulator.config.cyclesPerSecond
      100 ≤ rate ∧ slower rate ≤ rate := by
  obtain ⟨e, hcreate⟩ :
      ∃ e, Emulator.create (.fresh (.ofSeed 0)) { cyclesPerSecond := 150 } .mute = .ok e := ⟨_, rfl⟩
  have hconfig : e.config = { cyclesPerSecond := 150 } := by rw [Emulator.create_eq_ok hcreate]
  have hvalid : (attach e).session.emulator.config.validate = .ok () :=
    (congrArg Config.validate hconfig).trans rfl
  have honly : ∀ event ∈ [Event.handle .slowDown, .act .beginCycle, .handle .slowDown],
      event.paces = true := by simp [Event.paces, Emulator.Action.isDriving]
  obtain ⟨-, -, -, -, -, hslower, hpaced⟩ := speed_keys hvalid honly
  have hlow := hpaced.selectable (hconfig ▸ show (100 : UInt32) ≤ 150 by decide)
  exact ⟨e, hcreate, hlow, hslower.mpr hlow⟩

/-- A rate of 50 is raised by slowing down. -/
theorem slow_down_raises :
    ∃ e : Emulator, Emulator.create (.fresh (.ofSeed 0)) { cyclesPerSecond := 50 } .mute = .ok e ∧
      e.config.cyclesPerSecond = 50 ∧
      ((Session.attach e).handle .slowDown).2.emulator.config.cyclesPerSecond = 100 := by
  obtain ⟨e, hcreate⟩ :
      ∃ e, Emulator.create (.fresh (.ofSeed 0)) { cyclesPerSecond := 50 } .mute = .ok e := ⟨_, rfl⟩
  have hconfig : e.config = { cyclesPerSecond := 50 } := by rw [Emulator.create_eq_ok hcreate]
  have hvalid : (Session.attach e).emulator.config.validate = .ok () :=
    (congrArg Config.validate hconfig).trans rfl
  have hrate : e.config.cyclesPerSecond = 50 := congrArg Config.cyclesPerSecond hconfig
  have hlower := congrArg Config.cyclesPerSecond (Session.retimed_handle hvalid).2.config
  have hlowest : slower (50 : UInt32) = 100 := by decide
  exact ⟨e, hcreate, hrate, hlower.trans ((congrArg slower hrate).trans hlowest)⟩

end Terminal

/-! ## Periods -/

theorem Period.ofRate_of_ne_zero {rate : UInt32} (h : rate ≠ 0) :
    ofRate rate = .ok ⟨nanosPerSecond / rate.toNat⟩ := if_neg h

/-- A step takes at least a nanosecond if there are not more steps than nanoseconds in a second. -/
theorem Period.exists_pos_iff {rate : UInt32} :
    (∃ p, ofRate rate = .ok p ∧ 0 < p.nanoseconds) ↔ rate ≠ 0 ∧ rate ≤ 1000000000 := by
  have hsecond : (1000000000 : UInt32).toNat = nanosPerSecond := rfl
  rw [UInt32.le_iff_toNat_le, hsecond]
  by_cases hzero : rate = 0
  · simp [ofRate, hzero]
  · have hpos : 0 < rate.toNat := Nat.pos_of_ne_zero fun h => hzero (UInt32.toNat_inj.mp h)
    simp only [ofRate_of_ne_zero hzero, Except.ok.injEq, exists_eq_left', ne_eq, hzero,
      not_false_eq_true, true_and, Nat.div_pos_iff, hpos]

namespace Config

variable {c c' : Config}

/-- **Both drivers have a period** of at least a nanosecond. -/
structure HasPeriods (c : Config) : Prop where
  cycle : ∃ p, c.cyclePeriod = .ok p ∧ 0 < p.nanoseconds
  timer : ∃ p, c.timerPeriod = .ok p ∧ 0 < p.nanoseconds

theorem hasPeriods_iff : c.HasPeriods ↔ c.validate = .ok () ∧
    c.cyclesPerSecond ≤ 1000000000 ∧ c.timersPerSecond ≤ 1000000000 := by
  rw [validate_eq_ok]
  constructor
  · rintro ⟨hcycle, htimer⟩
    obtain ⟨hcycles, hcycles'⟩ := Period.exists_pos_iff.mp hcycle
    obtain ⟨htimers, htimers'⟩ := Period.exists_pos_iff.mp htimer
    exact ⟨⟨hcycles, htimers⟩, hcycles', htimers'⟩
  · rintro ⟨⟨hcycles, htimers⟩, hcycles', htimers'⟩
    exact ⟨Period.exists_pos_iff.mpr ⟨hcycles, hcycles'⟩, Period.exists_pos_iff.mpr ⟨htimers, htimers'⟩⟩

/-- Another instruction rate has a period or has none, whatever the one before. -/
theorem Retimes.hasPeriods_iff (h : c.Retimes c') : c'.HasPeriods ↔
    c'.cyclesPerSecond ≤ 1000000000 ∧ c.timersPerSecond ≤ 1000000000 := by
  rw [Config.hasPeriods_iff, h.timers, and_iff_right h.usable]

end Config

/-- **The periods of accepted rates.** A configuration has periods if and only if it is accepted and none
of its rates is beyond a step in a nanosecond. So it is with every configuration: that of a command line,
that after another rate was accepted, and that of an emulator in every run. -/
theorem accepted_periods (c : Config) (args : List String) (e : Emulator) (rate : UInt32) :
    (c.HasPeriods ↔ c.validate = .ok () ∧ c.cyclesPerSecond ≤ 1000000000 ∧
      c.timersPerSecond ≤ 1000000000) ∧
    (∀ a, Arguments.parse args = .ok a → a.config.validate = .ok () ∧
      (a.config.HasPeriods ↔ a.config.cyclesPerSecond ≤ 1000000000)) ∧
    (∀ e', e.config.validate = .ok () → e.setSpeed rate = (.ok (), e') →
      e'.config.validate = .ok () ∧
      (e'.config.HasPeriods ↔ rate ≤ 1000000000 ∧ e.config.timersPerSecond ≤ 1000000000)) ∧
    ∀ vm audio, Emulator.create vm c audio = .ok e → ∀ (t : Terminal) (events : List Terminal.Event),
      t.session.emulator = e →
      let now := (t.run events).session.emulator.config
      now.validate = .ok () ∧
        (now.HasPeriods ↔ now.cyclesPerSecond ≤ 1000000000 ∧ c.timersPerSecond ≤ 1000000000) := by
  refine ⟨Config.hasPeriods_iff, fun a hparse => ?_, fun e' hvalid hset => ?_,
    fun vm audio hcreate t events hsession => ?_⟩
  · obtain ⟨hvalid, hread⟩ := Arguments.parse_eq_ok.mp hparse
    obtain ⟨groups, rfl⟩ := Arguments.Draft.exists_groups_of_read hread
    have htimers : a.config.timersPerSecond ≤ 1000000000 := by
      rw [(Arguments.parse_words.mp hparse).timers]
      decide
    refine ⟨hvalid, ?_⟩
    rw [Config.hasPeriods_iff, and_iff_right hvalid, and_iff_left htimers]
  · have hrate : rate ≠ 0 := Emulator.ne_zero_of_setSpeed hset
    have hretimes : e.config.Retimes e'.config := by
      have hkept := Emulator.retimes_setSpeed rate (.refl hvalid)
      rwa [hset] at hkept
    have hconfig := Emulator.config_setSpeed_of_ne_zero hvalid hrate
    rw [hset] at hconfig
    rw [hretimes.hasPeriods_iff, hconfig]
    exact ⟨hconfig ▸ hretimes.usable, Iff.rfl⟩
  · have hconfigured : t.session.emulator.Configured c := hsession ▸ .of_create hcreate
    have hretimes := (Terminal.configured_run hconfigured events).rates
    exact ⟨hretimes.usable, hretimes.hasPeriods_iff⟩

/-- A command line with a speed and a program. -/
theorem Arguments.parse_speed {text path : String} {rate : UInt32} (h : Text.Spells text rate)
    (hrate : rate ≠ 0) (hpath : isOption path = false) :
    parse ["--speed", text, path] = .ok ⟨path, { cyclesPerSecond := rate }, false⟩ := by
  have husable : some rate ≠ some 0 := fun hzero => hrate (Option.some.inj hzero)
  have hparse : parse ([.speed text rate h, .program path hpath].flatMap Group.words) =
      .ok ⟨path, { cyclesPerSecond := rate }, false⟩ :=
    parse_words.mpr ⟨rfl, husable, rfl, rfl, rfl, rfl⟩
  exact hparse

/-- A rate of one step in a nanosecond has a period, on the command line and when it is set. -/
theorem accepted_periods_nanosecond :
    ∃ a e e', Arguments.parse ["--speed", "1000000000", "pong.ch8"] = .ok a ∧ a.config.HasPeriods ∧
      Emulator.create (.fresh (.ofSeed 0)) {} .mute = .ok e ∧
      e.setSpeed 1000000000 = (.ok (), e') ∧ e'.config.HasPeriods := by
  obtain ⟨e, hcreate⟩ : ∃ e, Emulator.create (.fresh (.ofSeed 0)) {} .mute = .ok e := ⟨_, rfl⟩
  have hspells : Text.Spells "1000000000" 1000000000 :=
    Text.readUInt32_eq_some.mp (by decide +kernel)
  have hrate : (1000000000 : UInt32) ≠ 0 := by decide
  have hparse := Arguments.parse_speed hspells hrate
    (show Arguments.isOption "pong.ch8" = false by decide +kernel)
  have hconfig : e.config = {} := by rw [Emulator.create_eq_ok hcreate]
  have hvalid : e.config.validate = .ok () := (congrArg Config.validate hconfig).trans rfl
  have htimers : e.config.timersPerSecond ≤ 1000000000 := hconfig ▸ show (60 : UInt32) ≤ _ by decide
  have hset := Emulator.setSpeed_of_ne_zero hvalid hrate
  obtain ⟨-, hparsed, haccepted, -⟩ :=
    accepted_periods {} ["--speed", "1000000000", "pong.ch8"] e 1000000000
  exact ⟨_, e, _, hparse, (hparsed _ hparse).2.mpr (UInt32.le_refl _), hcreate, hset,
    (haccepted _ hvalid hset).2.mpr ⟨UInt32.le_refl _, htimers⟩⟩

/-- A rate just beyond that is accepted, and its period is zero. -/
theorem accepted_rate_without_period :
    Config.validate { cyclesPerSecond := 1000000001 } = .ok () ∧
      Config.cyclePeriod { cyclesPerSecond := 1000000001 } = .ok ⟨0⟩ ∧
      Arguments.parse ["--speed", "1000000001", "pong.ch8"] =
        .ok ⟨"pong.ch8", { cyclesPerSecond := 1000000001 }, false⟩ := by
  have hrate : Text.Spells "1000000001" 1000000001 := Text.readUInt32_eq_some.mp (by decide +kernel)
  have hnonzero : (1000000001 : UInt32) ≠ 0 := by decide
  refine ⟨Config.validate_eq_ok.mpr ⟨hnonzero, by decide⟩, ?_,
    Arguments.parse_speed hrate hnonzero (by decide +kernel)⟩
  have hperiod : Period.nanosPerSecond / (1000000001 : UInt32).toNat = 0 :=
    Nat.div_eq_of_lt (by decide)
  exact (Period.ofRate_of_ne_zero hnonzero).trans (congrArg (Except.ok ∘ Period.mk) hperiod)

end Chip8
