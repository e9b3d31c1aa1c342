import Chip8.Emulator.Wait
import Chip8.Session

/-!
# The event loop

The loop takes events from the interface, sends frames at a steady rate, and reports faults and beeps
in the status line. It takes them in any order in which they are ready; when it leaves, it stops the
drivers and then tells that it has shut down.

* `EventLoop.Branch`: what the loop can do next, `EventLoop.ready` whether it can;
* **`EventLoop`**, `EventLoop.enter`; `EventLoop.Stage`: how far it has come;
* **`EventLoop.turn`**, `EventLoop.windDown`: a turn, and the steps after the last one; `EventLoop.step`:
  a turn with the steps after it;
* `EventLoop.forward`, `EventLoop.hangUp`: the other end of the channel of events;
* `EventLoop.settle`, `EventLoop.awaitStatus`: one order in which a loop may do its work.
-/

namespace Chip8

/-- How far a loop has come. -/
inductive EventLoop.Stage where
  /-- It takes turns. -/
  | looping
  /-- It takes no more turns. -/
  | leaving
  /-- The drivers are stopped. -/
  | stopped
  /-- It has told that it has shut down, and is gone. -/
  | ended
  deriving DecidableEq, Repr

/-- **The event loop.** -/
@[ext]
structure EventLoop where
  session : Session
  /-- The events that have not been taken, oldest first. -/
  events : List UserEvent
  /-- More events may come. -/
  eventsOpen : Bool
  /-- More beeps may come. -/
  beepsOpen : Bool
  /-- Somebody waits to be told that the loop has shut down. -/
  listened : Bool
  stage : EventLoop.Stage
  /-- The number of times it told that it has shut down. -/
  shutdowns : Nat
  deriving DecidableEq

namespace EventLoop

/-- What the loop can do next. -/
inductive Branch where
  /-- Takes an event, or notices that no more will come. -/
  | event
  /-- Sends a frame. -/
  | refresh
  /-- Reports a fault. -/
  | fault
  /-- Reports a beep. -/
  | beep
  deriving DecidableEq, Repr

/-- A loop that is about to choose its first branch: it has reported the rate. -/
def enter (session : Session) : EventLoop where
  session := session.report ""
  events := []
  eventsOpen := true
  beepsOpen := true
  listened := true
  stage := .looping
  shutdowns := 0

/-- The loop is not gone. -/
def running (l : EventLoop) : Bool := l.stage != .ended

/-- A branch can be chosen. Frames are due again and again, and so are the beeps of a queue that nobody
can send to any more. -/
def ready (l : EventLoop) : Branch → Bool
  | .event => !l.events.isEmpty || !l.eventsOpen
  | .refresh => true
  | .fault => !l.session.emulator.faults.isEmpty
  | .beep => 0 < l.session.emulator.beeps || !l.beepsOpen

/-- Takes no more turns. -/
def leave (l : EventLoop) : EventLoop := { l with stage := .leaving }

/-- Goes on with a session, or leaves. -/
def continueIf (l : EventLoop) (goesOn : Bool) (session : Session) : EventLoop :=
  if goesOn then { l with session := session } else { l with session := session }.leave

/-- Takes an event, or leaves if no more will come. -/
def takeEvent (l : EventLoop) : EventLoop :=
  match l.events with
  | event :: rest =>
    let (goesOn, session) := l.session.handle event
    { l with events := rest }.continueIf goesOn session
  | [] => if l.eventsOpen then l else l.leave

/-- Sends a frame if one is due. -/
def sendFrame (l : EventLoop) : EventLoop :=
  let (goesOn, session) := l.session.refresh
  l.continueIf goesOn session

/-- Reports the oldest fault. -/
def reportFault (l : EventLoop) : EventLoop :=
  match l.session.emulator.takeFault with
  | none => l
  | some (fault, emulator) =>
    let session := { l.session with emulator := emulator }
    { l with session := session.report ("halted: " ++ fault.message) }

/-- Reports a beep, or that there will be none. -/
def reportBeep (l : EventLoop) : EventLoop :=
  let emulator := l.session.emulator.takeBeep.getD l.session.emulator
  let session := { l.session with emulator := emulator }
  { l with session := session.report "beep" }

/-- What a branch does. -/
def follow (l : EventLoop) : Branch → EventLoop
  | .event => l.takeEvent
  | .refresh => l.sendFrame
  | .fault => l.reportFault
  | .beep => l.reportBeep

/-- **One turn of the loop**, by the branch it chooses. -/
def turn (l : EventLoop) (branch : Branch) : EventLoop :=
  if l.stage == .looping && l.ready branch then l.follow branch else l

/-- **A step after the last turn**: first the drivers are stopped. -/
def windDown (l : EventLoop) : EventLoop :=
  match l.stage with
  | .looping | .ended => l
  | .leaving =>
    { l with
      session := { l.session with emulator := l.session.emulator.stop }
      stage := .stopped }
  | .stopped =>
    if l.listened then { l with stage := .ended, shutdowns := l.shutdowns + 1 }
    else { l with stage := .ended, session := l.session.note [.shutdownUnheard] }

/-- A turn of the loop, and what comes after it if it was the last. -/
def step (l : EventLoop) (branch : Branch) : EventLoop := (l.turn branch).windDown.windDown

/-! ## The channel of events -/

/-- Hands an event to the loop: whether the loop is there to take it. -/
def forward (l : EventLoop) (event : UserEvent) : Bool × EventLoop :=
  if l.running then (true, { l with events := l.events ++ [event] }) else (false, l)

/-- What handing over an event logs. -/
def forwardLog (l : EventLoop) : List LogEntry := if l.running then [] else [.eventLoopGone]

/-- No more events will come. -/
def hangUp (l : EventLoop) : EventLoop := { l with eventsOpen := false }

/-! ## One order of work -/

/-- The drivers take a step each. -/
def drive (l : EventLoop) : EventLoop :=
  { l with
    session := { l.session with emulator := l.session.emulator.driveCycle.driveTick } }

/-- Takes the events that are there. -/
def settle (l : EventLoop) : EventLoop :=
  l.events.foldl (fun l _ => l.step .event) l

/-- A status text of the interface ends in the given one: the texts after it. -/
def statusesAfter (suffix : String) : List String → Option (List String)
  | [] => none
  | text :: rest => if text.endsWith suffix then some rest else statusesAfter suffix rest

/-- The status texts sent so far. -/
def statuses (l : EventLoop) : List String :=
  l.session.outbox.filterMap fun
    | .status text => some text
    | .frame _ => none

/-- Lets drivers and loop work until a status text beyond the first `seen` ends in the given one, for
at most the given number of turns: the number of texts up to it. -/
def awaitStatus (suffix : String) (seen : Nat) : Nat → EventLoop → Option (Nat × EventLoop)
  | 0, _ => none
  | n + 1, l =>
    match statusesAfter suffix (l.statuses.drop seen) with
    | some rest => some (l.statuses.length - rest.length, l)
    | none => awaitStatus suffix seen n (((l.drive.settle.step .fault).step .beep).step .refresh)

end EventLoop

end Chip8
