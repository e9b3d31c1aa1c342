import Chip8.Emulator
import Chip8.Screen

/-!
# Sessions

An emulator under the control of a user interface. The interface sends events; it is sent status
lines and frames over a queue, which it may close.

* `UserEvent`, `InterfaceMessage`: what comes from the interface and what goes to it;
* **`Session`**, `Session.handle`: the effect of each event;
* `Session.refresh`: sends the pixels of the display if they may have changed;
* `statusLine`, `faster`, `slower`.
-/

namespace Chip8

/-- What the user asks for. -/
inductive UserEvent where
  /-- Presses a key. -/
  | key (key : UInt8)
  /-- Releases all keys. -/
  | releaseKeys
  /-- Raises the instruction rate. -/
  | speedUp
  /-- Lowers the instruction rate. -/
  | slowDown
  /-- Restarts the program. -/
  | reset
  /-- Removes the program. -/
  | stop
  | quit
  deriving DecidableEq, Repr

/-- What is sent to the interface. -/
inductive InterfaceMessage where
  | status (text : String)
  | frame (pixels : Frame)
  deriving DecidableEq, Repr

/-- The step by which the instruction rate changes. -/
abbrev speedStep : Nat := 100

/-- The lowest instruction rate that the user can select. -/
abbrev minSpeed : Nat := 100

/-- The next higher rate, unless no rate is. -/
def faster (rate : UInt32) : UInt32 := UInt32.ofNat (min (rate.toNat + speedStep) (UInt32.size - 1))

/-- The next lower rate, but no lower than the user can select. -/
def slower (rate : UInt32) : UInt32 := UInt32.ofNat (max (rate.toNat - speedStep) minSpeed)

/-- What the status line is called in the interface. -/
abbrev statusName : String := "status"

/-- The status line: the rate, the keys and a message. -/
def statusLine (config : Config) (message : String) : String :=
  toString config.cyclesPerSecond ++
    " Hz | Up/Down speed, space release keys, F5 reset, F6 stop, ~ log, Esc quit | " ++ message

/-- **A session.** -/
@[ext]
structure Session where
  emulator : Emulator
  /-- The interface takes messages. -/
  connected : Bool
  /-- The messages that the interface has not taken, oldest first. -/
  outbox : List InterfaceMessage
  deriving DecidableEq

namespace Session

/-- A session with an interface that takes messages. -/
def attach (emulator : Emulator) : Session := ⟨emulator, true, []⟩

/-- The interface closes the queue; what is in it is lost. -/
def close (s : Session) : Session := { s with connected := false, outbox := [] }

/-- Takes all messages off the queue. -/
def takeMessages (s : Session) : List InterfaceMessage × Session :=
  (s.outbox, { s with outbox := [] })

/-- Logs entries. -/
def note (s : Session) (entries : List LogEntry) : Session :=
  { s with emulator := s.emulator.note entries }

/-- Sends a message: whether the interface takes it. -/
def send (s : Session) (message : InterfaceMessage) : Bool × Session :=
  if s.connected then (true, { s with outbox := s.outbox ++ [message] }) else (false, s)

/-- Sends a status text. -/
def sendStatus (s : Session) (text : String) : Session :=
  match s.send (.status text) with
  | (true, s) => s
  | (false, s) => s.note [.interfaceGone]

/-- Sends the status line with a message. -/
def report (s : Session) (message : String) : Session :=
  s.sendStatus (statusLine s.emulator.config message)

/-- Changes the instruction rate and reports it. -/
def changeSpeed (s : Session) (target : UInt32) : Session :=
  match s.emulator.setSpeed target with
  | (.ok (), emulator) => ({ s with emulator := emulator }.note [.runningAt target]).report ""
  | (.error error, emulator) =>
    { s with emulator := emulator }.note [.speedUnchanged error.message]

/-- Presses a key; one that does not exist is logged. -/
def pressKey (s : Session) (key : UInt8) : Session :=
  match s.emulator.setKey key true with
  | (.ok (), emulator) => { s with emulator := emulator }
  | (.error fault, emulator) => { s with emulator := emulator }.note [.keyRefused fault]

/-- **The effect of an event**, and whether the session goes on. -/
def handle (s : Session) : UserEvent → Bool × Session
  | .key key => (true, s.pressKey key)
  | .releaseKeys => (true, { s with emulator := s.emulator.releaseKeys })
  | .speedUp => (true, s.changeSpeed (faster s.emulator.config.cyclesPerSecond))
  | .slowDown => (true, s.changeSpeed (slower s.emulator.config.cyclesPerSecond))
  | .reset => (true, { s with emulator := s.emulator.softReset }.report "reset")
  | .stop => (true, { s with emulator := s.emulator.hardReset }.report "stopped")
  | .quit => (false, s)

/-- **Sends the pixels of the display** if they may have changed. It fails only if the interface does
not take them. -/
def refresh (s : Session) : Bool × Session :=
  match s.emulator.takeFrame with
  | (none, emulator) => (true, { s with emulator := emulator })
  | (some pixels, emulator) => { s with emulator := emulator }.send (.frame pixels.toArray)

end Session

end Chip8
