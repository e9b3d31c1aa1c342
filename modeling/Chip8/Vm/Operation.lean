import Chip8.Vm.Report

/-!
# What is done to a machine

The operations that the surroundings have on a machine, as data, so that runs of a machine are lists.

* `Vm.Operation`, `Vm.Answer`;
* **`Vm.perform`**: the effect of an operation and its answer; `Vm.performLog`: what it logs;
* `Vm.performAll`: the operations of a list, one after the other.
-/

namespace Chip8

namespace Vm

/-- **What can be done to a machine.** -/
inductive Operation where
  | load (program : List UInt8)
  | loadFile (files : FileSystem) (path : String)
  | cycle
  | tick
  | softReset
  | hardReset
  | setKey (key : UInt8) (down : Bool)
  | releaseKeys
  | setRedraw (on : Bool)
  | setStrict (on : Bool)

/-- What an operation answers. -/
inductive Answer where
  /-- It always succeeds and tells nothing. -/
  | done
  /-- The size of the program, or why it is not loaded. -/
  | loaded (answer : Except LoadError Nat)
  /-- What a cycle did, or the fault it ended in. -/
  | cycled (answer : Except Fault Outcome)
  /-- Whether a tick beeped. -/
  | ticked (beep : Bool)
  /-- Whether the key exists. -/
  | keySet (answer : Except Fault Unit)

/-- **The answer of an operation, and the machine after it.** -/
def perform (vm : Vm) : Operation → Answer × Vm
  | .load program => (vm.load program).map .loaded id
  | .loadFile files path => (vm.loadFile files path).map .loaded id
  | .cycle => vm.cycle.map .cycled id
  | .tick => vm.tick.map .ticked id
  | .softReset => (.done, vm.softReset)
  | .hardReset => (.done, vm.hardReset)
  | .setKey key down => (vm.setKey key down).map .keySet id
  | .releaseKeys => (.done, vm.releaseKeys)
  | .setRedraw on => (.done, vm.setRedraw on)
  | .setStrict on => (.done, vm.setStrict on)

/-- What an operation logs. -/
def performLog (vm : Vm) : Operation → List LogEntry
  | .load program => loadLog (vm.load program).1
  | .loadFile files path => loadLog (vm.loadFile files path).1
  | .cycle => vm.cycleLog
  | .tick => vm.tickLog
  | .hardReset => [.reset]
  | _ => []

/-- **The answers of operations carried out one after the other, and the machine after them.** -/
def performAll (vm : Vm) : List Operation → List Answer × Vm
  | [] => ([], vm)
  | op :: ops =>
    let (answer, vm') := vm.perform op
    let (answers, vm'') := vm'.performAll ops
    (answer :: answers, vm'')

@[simp]
theorem performAll_nil (vm : Vm) : vm.performAll [] = ([], vm) := rfl

theorem performAll_cons (vm : Vm) (op : Operation) (ops : List Operation) :
    vm.performAll (op :: ops) =
      ((vm.perform op).1 :: ((vm.perform op).2.performAll ops).1,
        ((vm.perform op).2.performAll ops).2) := rfl

theorem performAll_append (vm : Vm) (ops ops' : List Operation) :
    vm.performAll (ops ++ ops') =
      ((vm.performAll ops).1 ++ ((vm.performAll ops).2.performAll ops').1,
        ((vm.performAll ops).2.performAll ops').2) := by
  induction ops generalizing vm with
  | nil => rfl
  | cons op ops ih => rw [List.cons_append, performAll_cons, ih, performAll_cons, List.cons_append]

end Vm

end Chip8
