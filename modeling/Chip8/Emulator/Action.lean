import Chip8.Emulator

/-!
# What happens to an emulator

Calls of control and steps of the drivers, as data, so that any interleaving of them is a list.

* `Emulator.Action`, `Emulator.Reply`;
* **`Emulator.act`**: the effect of an action and its reply;
* `Emulator.actAll`: the actions of a list, one after the other.
-/

namespace Chip8

namespace Emulator

/-- **What can happen to an emulator.** -/
inductive Action where
  | start
  | stop
  | load (program : List UInt8)
  | loadFile (files : FileSystem) (path : String)
  | softReset
  | hardReset
  | setSpeed (cyclesPerSecond : UInt32)
  | setKey (key : UInt8) (down : Bool)
  | releaseKeys
  | takeFrame
  | takeFault
  | takeBeep
  /-- The instruction driver carries out a cycle. -/
  | beginCycle
  /-- The instruction driver sends the fault of its cycle. -/
  | sendFault
  /-- The timer driver carries out a tick. -/
  | beginTick
  /-- The timer driver sends the beep of its tick. -/
  | sendBeep

/-- What an action answers. -/
inductive Reply where
  /-- Nothing. -/
  | done
  /-- The size of the program, or why it is not loaded. -/
  | loaded (answer : Except LoadError Nat)
  /-- Whether the rate is accepted. -/
  | speedSet (answer : Except ConfigError Unit)
  /-- Whether the key exists. -/
  | keySet (answer : Except Fault Unit)
  /-- The pixels of the display, if they may have changed. -/
  | frame (pixels : Option (Vector Bool pixelCount))
  /-- The oldest fault on the queue. -/
  | fault (fault : Option Fault)
  /-- Whether a beep was on the queue. -/
  | beep (queued : Bool)

/-- **The reply of an action, and the emulator after it.** -/
def act (e : Emulator) : Action → Reply × Emulator
  | .start => (.done, e.start)
  | .stop => (.done, e.stop)
  | .load program => (e.load program).map .loaded id
  | .loadFile files path => (e.loadFile files path).map .loaded id
  | .softReset => (.done, e.softReset)
  | .hardReset => (.done, e.hardReset)
  | .setSpeed rate => (e.setSpeed rate).map .speedSet id
  | .setKey key down => (e.setKey key down).map .keySet id
  | .releaseKeys => (.done, e.releaseKeys)
  | .takeFrame => e.takeFrame.map .frame id
  | .takeFault =>
    match e.takeFault with
    | some (fault, e') => (.fault (some fault), e')
    | none => (.fault none, e)
  | .takeBeep =>
    match e.takeBeep with
    | some e' => (.beep true, e')
    | none => (.beep false, e)
  | .beginCycle => (.done, e.beginCycle)
  | .sendFault => (.done, e.sendFault)
  | .beginTick => (.done, e.beginTick)
  | .sendBeep => (.done, e.sendBeep)

/-- **The replies of actions carried out one after the other, and the emulator after them.** -/
def actAll (e : Emulator) : List Action → List Reply × Emulator
  | [] => ([], e)
  | action :: actions =>
    let (reply, e') := e.act action
    let (replies, e'') := e'.actAll actions
    (reply :: replies, e'')

@[simp]
theorem actAll_nil (e : Emulator) : e.actAll [] = ([], e) := rfl

theorem actAll_cons (e : Emulator) (action : Action) (actions : List Action) :
    e.actAll (action :: actions) =
      ((e.act action).1 :: ((e.act action).2.actAll actions).1,
        ((e.act action).2.actAll actions).2) := rfl

theorem actAll_append (e : Emulator) (actions later : List Action) :
    e.actAll (actions ++ later) =
      ((e.actAll actions).1 ++ ((e.actAll actions).2.actAll later).1,
        ((e.actAll actions).2.actAll later).2) := by
  induction actions generalizing e with
  | nil => rfl
  | cons action actions ih => rw [List.cons_append, actAll_cons, ih, actAll_cons, List.cons_append]

end Emulator

end Chip8
