import Chip8.EventLoop
import Chip8.Keyboard
import Chip8.Launch

/-!
# The program

`main` launches the program of the command line and shows its display in the terminal. Each line of
input is taken as key strokes, after which the emulator works for the time of one frame.
-/

namespace Chip8

/-- The number that the operating system gives a failure, where Lean keeps it. -/
def systemCode : IO.Error → Option UInt32
  | .noFileOrDirectory _ code _ => some code
  | .inappropriateType _ code _ => some code
  | .invalidArgument _ code _ => some code
  | .resourceExhausted _ code _ => some code
  | .permissionDenied _ code _ => some code
  | _ => none

/-- A failure of the operating system. -/
def fileError (e : IO.Error) : FileError :=
  match systemCode e with
  | some 2 => .notFound
  | some 13 => .permissionDenied
  | some 20 => .notADirectory
  | some 21 => .isADirectory
  | some 36 => .nameTooLong
  | _ => .other (toString e)

/-- The content of a file, or the step that failed. -/
def readProgram (path : String) : IO (Except FileFailure (List UInt8)) := do
  if path.contains '\x00' then return .error (.opening .nullInPath)
  match ← (IO.FS.Handle.mk path .read).toBaseIO with
  | .error e => return .error (.opening (fileError e))
  | .ok handle =>
    match ← handle.readBinToEnd.toBaseIO with
    | .error e => return .error (.reading (fileError e))
    | .ok bytes => return .ok bytes.toList

/-- A random source that nobody can foresee. -/
def freshSource : IO RandomSource := do
  let bytes ← IO.getRandomBytes 32
  let word (i : Nat) : UInt32 :=
    (List.range 4).foldl (fun w k => w * 256 + (bytes.data[4 * i + k]?.getD 0).toUInt32) 0
  return ⟨Vector.ofFn fun i => word i.val, 0⟩

/-- A row of the screen as text. -/
def rowText (s : Screen) (y : Fin displayHeight) : String :=
  String.ofList ((List.finRange displayWidth).map fun x =>
    if s.pixels.get (Pixel.mk x y).index then '#' else '.')

/-- Shows a message of the session. -/
def showMessage : InterfaceMessage → IO Unit
  | .status text => IO.println text
  | .frame pixels =>
    for y in List.finRange displayHeight do
      IO.println (rowText (Screen.blank.display pixels) y)

/-- One frame: the cycles of a sixtieth of a second, and a tick. -/
def playFrame (l : EventLoop) : EventLoop :=
  let cycles := max 1 (l.session.emulator.config.cyclesPerSecond.toNat / 60)
  let emulator := Nat.repeat Emulator.driveCycle cycles l.session.emulator
  let l := { l with session := { l.session with emulator := emulator.driveTick } }
  ((l.step .fault).step .beep).step .refresh

/-- Shows what the loop has sent, and goes on with the next line of input while it runs. -/
partial def play (input : IO.FS.Stream) (l : EventLoop) : IO Unit := do
  let (messages, session) := l.session.takeMessages
  messages.forM showMessage
  let l := { l with session := session }
  if l.running then
    let line ← input.getLine
    let l := (line.toList.filterMap Keyboard.event).foldl (fun l e => (l.forward e).2) l
    let l := if line.isEmpty then (l.settle.hangUp).step .event else l.settle
    play input (if l.running then playFrame l else l)

end Chip8

/-- **The program.** It answers 2 for a command line that is not understood and 1 for a program that
cannot be loaded. -/
def main (args : List String) : IO UInt32 := do
  let launched ← match Chip8.Arguments.parse args with
    | .error error => pure (.error (.usage error))
    | .ok arguments => do
      let content ← Chip8.readProgram arguments.program
      let random ← Chip8.freshSource
      pure (arguments.launch random fun _ => content)
  match launched with
  | .error error =>
    error.report.forM IO.eprintln
    return error.exitCode
  | .ok emulator =>
    Chip8.play (← IO.getStdin) (.enter (.attach emulator))
    return 0
