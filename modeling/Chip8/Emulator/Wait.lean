import Chip8.Emulator

/-!
# Waiting for the drivers

What a program does may not hang on the order in which the drivers take their steps. Here they take
turns, a cycle and then a tick.

* `Emulator.waitUntil`: lets the drivers work until something holds;
* `waitForFault`, `waitForBeep`, `waitForIdle`: a queued fault, a queued beep, and a program that
  stays in one place after its timers have run out.
-/

namespace Chip8

namespace Emulator

/-- **Lets the drivers work until something holds**, checked after each of their steps, for at most
the given number of turns. -/
def waitUntil (ready : Emulator → Bool) : Nat → Emulator → Option Emulator
  | 0, e => if ready e then some e else none
  | n + 1, e =>
    if ready e then some e
    else
      let e := e.driveCycle
      if ready e then some e else waitUntil ready n e.driveTick

/-- Lets the drivers work until a fault is queued, and takes it. -/
def waitForFault (turns : Nat) (e : Emulator) : Option (Fault × Emulator) :=
  (waitUntil (fun e => !e.faults.isEmpty) turns e).bind takeFault

/-- Lets the drivers work until a beep is queued, and takes it. -/
def waitForBeep (turns : Nat) (e : Emulator) : Option Emulator :=
  (waitUntil (fun e => 0 < e.beeps) turns e).bind takeBeep

/-- The program is at an address and both timers have run out. -/
def isIdleAt (e : Emulator) (address : UInt16) : Bool :=
  e.vm.pc == address && e.vm.delay == 0 && e.vm.sound == 0

/-- Lets the drivers work until the program is idle at an address. -/
def waitForIdle (address : UInt16) (turns : Nat) (e : Emulator) : Option Emulator :=
  waitUntil (isIdleAt · address) turns e

end Emulator

end Chip8
