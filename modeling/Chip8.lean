import Chip8.Emulator.Action
import Chip8.Files.Tree
import Chip8.Main
import Chip8.Vm.Operation
import Chip8.Proofs.Decode
import Chip8.Proofs.Cycle
import Chip8.Proofs.Fault
import Chip8.Proofs.Sprite
import Chip8.Proofs.View
import Chip8.Proofs.Draw
import Chip8.Proofs.Table
import Chip8.Proofs.Run
import Chip8.Proofs.Hidden
import Chip8.Proofs.Load
import Chip8.Proofs.Action
import Chip8.Proofs.Calls
import Chip8.Proofs.Lifecycle
import Chip8.Proofs.Picture
import Chip8.Proofs.Interleaving
import Chip8.Proofs.Strictness
import Chip8.Proofs.Rendering
import Chip8.Proofs.Threads
import Chip8.Proofs.Delivery
import Chip8.Proofs.Refusal
import Chip8.Cells
import Chip8.Checked
import Chip8.Proofs.Aborts
import Chip8.Proofs.Configuration
import Chip8.Proofs.Stopped
import Chip8.Vm.Checked
import Chip8.Proofs.Bytewise
import Chip8.Proofs.ProgramCounter
import Chip8.Proofs.Arrays
import Chip8.Proofs.Schedule
import Chip8.Proofs.CommandLine
import Chip8.Proofs.Rates
import Chip8.Proofs.Timers
import Chip8.Proofs.Keys
import Chip8.Proofs.Stores
import Chip8.Proofs.Resets
import Chip8.Proofs.Transfer
import Chip8.Proofs.Samples
import Chip8.Proofs.Parity
