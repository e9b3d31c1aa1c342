import Chip8.Fault
import Chip8.Instruction.Printer
import Chip8.Keypad

/-!
# The log

* `LogLevel`, with `LogLevel.name`;
* **`LogEntry`**: what can be logged, with its `level` and `text`;
* `LogEntry.line`: an entry as a line of text.
-/

namespace Chip8

/-- How much an entry matters. -/
inductive LogLevel where
  | error
  | warn
  | info
  | debug
  | trace
  deriving DecidableEq, Repr

/-- The name of a level. -/
def LogLevel.name : LogLevel → String
  | error => "ERROR"
  | warn => "WARN"
  | info => "INFO"
  | debug => "DEBUG"
  | trace => "TRACE"

/-- **An entry of the log.** -/
inductive LogEntry where
  /-- The program was removed from memory. -/
  | reset
  /-- A program of this size was loaded. -/
  | loadedProgram (size : Nat)
  /-- The program of a file was loaded. -/
  | loadedFile (path : String) (size : Nat)
  /-- A word is about to be executed. -/
  | executing (word : UInt16) (i : Instruction)
  /-- An instruction that waits for a key took one. -/
  | consumedKey (key : Fin keyCount)
  /-- A larger glyph was asked for. -/
  | ignoredLargeSprite (x : Register)
  /-- A word that is no instruction was skipped. -/
  | skippedWord (word address : UInt16)
  /-- A fault halted the machine. -/
  | haltedAt (address : UInt16) (fault : Fault)
  /-- The sound timer ran out. -/
  | beep
  /-- The drivers were started at these rates. -/
  | startedDrivers (cyclesPerSecond timersPerSecond : UInt32)
  | stoppedDrivers
  /-- The instruction rate was changed. -/
  | runningAt (cyclesPerSecond : UInt32)
  /-- The instruction rate could not be changed. -/
  | speedUnchanged (reason : String)
  /-- A key stroke was refused. -/
  | keyRefused (fault : Fault)
  /-- A frame that is not of the size of the screen was dropped. -/
  | droppedFrame (size : Nat)
  /-- The user interface does not take status lines any more. -/
  | interfaceGone
  /-- The event loop does not take events any more. -/
  | eventLoopGone
  /-- Nobody waits to be told that the event loop has shut down. -/
  | shutdownUnheard
  deriving DecidableEq, Repr

namespace LogEntry

/-- The level of an entry. -/
def level : LogEntry → LogLevel
  | haltedAt .. | speedUnchanged _ => .error
  | skippedWord .. | keyRefused _ | droppedFrame _ | interfaceGone | eventLoopGone
  | shutdownUnheard => .warn
  | reset | loadedProgram _ | loadedFile .. | runningAt _ => .info
  | ignoredLargeSprite _ | startedDrivers .. | stoppedDrivers => .debug
  | executing .. | consumedKey _ | beep => .trace

/-- The text of an entry. -/
def text : LogEntry → String
  | reset => "reset"
  | loadedProgram size => s!"loaded program of {size} bytes"
  | loadedFile path size => s!"loaded {path} ({size} bytes)"
  | executing word i => Text.hex 4 word.toNat ++ " " ++ i.shown
  | consumedKey key => "consumed key " ++ Text.hex 1 key.val
  | ignoredLargeSprite x => "ignoring large font sprite for V" ++ Text.hex 1 x.val
  | skippedWord word address =>
    "skipping unknown opcode " ++ Text.prefixed 4 word.toNat ++ " at " ++
      Text.prefixed 4 address.toNat
  | haltedAt address fault => "halted at " ++ Text.prefixed 4 address.toNat ++ ": " ++ fault.message
  | beep => "beep"
  | startedDrivers c t => s!"started drivers at {c} Hz and {t} Hz"
  | stoppedDrivers => "stopped drivers"
  | runningAt c => s!"running at {c} Hz"
  | speedUnchanged reason => "could not change speed: " ++ reason
  | keyRefused fault => fault.message
  | droppedFrame size => s!"dropping frame of {size} pixels"
  | interfaceGone => "UI is gone"
  | eventLoopGone => "event loop is gone"
  | shutdownUnheard => "UI is gone before shutdown completed"

/-- **An entry as a line**: its level and its text. -/
def line (e : LogEntry) : String := e.level.name ++ " " ++ e.text

end LogEntry

end Chip8
