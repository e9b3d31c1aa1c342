import Chip8.Fault

/-!
# The call stack

Return addresses of the calls that have not returned, at most sixteen.

* **`CallStack`**, newest return address first;
* `push`, `pop`, `depth`.
-/

namespace Chip8

/-- The number of return addresses that fit. -/
abbrev stackSize : Nat := 16

/-- **The call stack**, its newest return address first. -/
@[ext]
structure CallStack where
  frames : List UInt16
  bounded : frames.length ≤ stackSize

namespace CallStack

instance : DecidableEq CallStack := fun s t =>
  decidable_of_iff (s.frames = t.frames) CallStack.ext_iff.symm

/-- A call stack without return addresses. -/
def empty : CallStack := ⟨[], Nat.zero_le _⟩

/-- The number of return addresses. -/
def depth (s : CallStack) : Nat := s.frames.length

/-- Adds a return address. -/
def push (s : CallStack) (address : UInt16) : Except Fault CallStack :=
  if h : s.frames.length < stackSize then .ok ⟨address :: s.frames, h⟩ else .error .stackOverflow

/-- The newest return address, and the others. -/
def pop (s : CallStack) : Except Fault (UInt16 × CallStack) :=
  match s with
  | ⟨[], _⟩ => .error .stackUnderflow
  | ⟨address :: rest, h⟩ => .ok (address, ⟨rest, Nat.le_of_succ_le h⟩)

theorem depth_le (s : CallStack) : s.depth ≤ stackSize := s.bounded

theorem push_eq_ok {s t : CallStack} {a : UInt16} :
    s.push a = .ok t ↔ s.depth < stackSize ∧ t.frames = a :: s.frames := by
  unfold push depth
  split
  · simp [CallStack.ext_iff, *, eq_comm]
  · simp [*]

theorem push_eq_error {s : CallStack} {a : UInt16} {f : Fault} :
    s.push a = .error f ↔ s.depth = stackSize ∧ f = .stackOverflow := by
  have := s.bounded
  unfold push depth
  split
  · simp
    omega
  · simp [eq_comm]
    omega

theorem pop_eq_ok {s t : CallStack} {a : UInt16} :
    s.pop = .ok (a, t) ↔ s.frames = a :: t.frames := by
  obtain ⟨_ | ⟨b, fs⟩, h⟩ := s
  · simp [pop]
  · simp [pop, CallStack.ext_iff]

theorem pop_eq_error {s : CallStack} {f : Fault} :
    s.pop = .error f ↔ s.depth = 0 ∧ f = .stackUnderflow := by
  obtain ⟨_ | ⟨b, fs⟩, h⟩ := s
  · simp [pop, depth, eq_comm]
  · simp [pop, depth]

end CallStack

end Chip8
