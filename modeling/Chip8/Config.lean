import Chip8.Fault

/-!
# Configuration

* **`Config`**: the rates of the drivers and what happens to words that are no instruction;
* `Config.validate`: both rates have to be usable, with `ConfigError`;
* `Period`, `Config.cyclePeriod`, `Config.timerPeriod`: the time between two steps of a driver.
-/

namespace Chip8

/-- The instruction rate unless another is asked for. -/
abbrev defaultCyclesPerSecond : UInt32 := 500

/-- The rate at which the timers count down unless another is asked for. -/
abbrev defaultTimersPerSecond : UInt32 := 60

/-- **Configuration of an emulator.** -/
@[ext]
structure Config where
  /-- Cycles per second. -/
  cyclesPerSecond : UInt32 := defaultCyclesPerSecond
  /-- Timer ticks per second. -/
  timersPerSecond : UInt32 := defaultTimersPerSecond
  /-- A word that is no instruction is a fault. -/
  strict : Bool := false
  deriving DecidableEq, Repr

/-- Why a configuration is refused. -/
inductive ConfigError where
  /-- The rate of the instructions is zero. -/
  | zeroCycles
  /-- The rate of the timers is zero. -/
  | zeroTimers
  deriving DecidableEq, Repr

/-- What the user is told. -/
def ConfigError.message : ConfigError → String
  | zeroCycles => "cycles_per_second must be greater than zero"
  | zeroTimers => "timers_per_second must be greater than zero"

/-- A time in nanoseconds. -/
structure Period where
  nanoseconds : Nat
  deriving DecidableEq, Repr

namespace Period

/-- The nanoseconds in a second. -/
abbrev nanosPerSecond : Nat := 1000000000

/-- The whole seconds of a time. -/
def seconds (p : Period) : Nat := p.nanoseconds / nanosPerSecond

/-- The nanoseconds beyond the whole seconds. -/
def nanos (p : Period) : Nat := p.nanoseconds % nanosPerSecond

/-- One second divided by a rate, rounded down to nanoseconds. A rate of zero is an abort. -/
def ofRate (rate : UInt32) : Except Abort Period :=
  if rate = 0 then .error .durationByZero else .ok ⟨nanosPerSecond / rate.toNat⟩

end Period

namespace Config

/-- **Checks the rates**, that of the instructions first. -/
def validate (c : Config) : Except ConfigError Unit :=
  if c.cyclesPerSecond = 0 then .error .zeroCycles
  else if c.timersPerSecond = 0 then .error .zeroTimers
  else .ok ()

/-- The time between two cycles. -/
def cyclePeriod (c : Config) : Except Abort Period := Period.ofRate c.cyclesPerSecond

/-- The time between two timer ticks. -/
def timerPeriod (c : Config) : Except Abort Period := Period.ofRate c.timersPerSecond

theorem validate_eq_ok {c : Config} :
    c.validate = .ok () ↔ c.cyclesPerSecond ≠ 0 ∧ c.timersPerSecond ≠ 0 := by
  unfold validate
  by_cases h : c.cyclesPerSecond = 0 <;> simp [h]

end Config

end Chip8
