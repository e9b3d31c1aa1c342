import Chip8.Proofs.Hidden

/-!
# Cycles and ticks in any order

Three instructions read a timer or set one; nothing else that a cycle does depends on the timers, and
a tick changes nothing else. So a tick commutes with every cycle that executes none of the three and
does not fault, and the order in which cycles and ticks take turns makes no difference.

* `Instruction.usesTimer`, **`Vm.Untimed`**: instructions that have to do with a timer, and cycles that
  have not;
* **`cycle_tick`**, `cycles_tick`, `ticks_cycle`: a tick commutes with such a cycle, and several do;
* **`Interleaved`**: a number of cycles and a number of ticks in some order;
* **`performAll_interleaved`**: every order comes to the cycles without the ticks, and then the ticks.
-/

namespace Chip8

open Instruction (Denotes)
open View (Alike)

/-- The instruction reads a timer or sets one. -/
def Instruction.usesTimer : Instruction → Bool
  | .readDelay _ | .setDelay _ | .setSound _ => true
  | _ => false

theorem Effect.timers_eq {s s' : View} {i : Instruction} {o : Outcome} (h : Effect s i o s')
    (hi : i.usesTimer = false) : s'.delay = s.delay ∧ s'.sound = s.sound := by
  cases h with
  | readDelay | setDelay | setSound => cases hi
  | _ => exact ⟨rfl, rfl⟩

theorem Transition.timers_eq {s s' : View} {w : UInt16} {o : Outcome} (h : Transition s w o s')
    (hw : ∀ i, Denotes w i → i.usesTimer = false) : s'.delay = s.delay ∧ s'.sound = s.sound := by
  cases h with
  | row hi he => exact he.timers_eq (hw _ hi)
  | unknown hw hs => exact ⟨rfl, rfl⟩

namespace Vm

variable {vm vm' : Vm} {o : Outcome} {m n : Nat} {ops : List Operation}

/-! ## One cycle and one tick -/

/-- **The next cycle has nothing to do with the timers**: it does not fault, and it executes no
instruction that uses one. -/
structure Untimed (vm : Vm) : Prop where
  answers : ∃ o, vm.cycle.1 = .ok o
  uses : ∀ i, Denotes vm.word i → i.usesTimer = false

/-- Both timers hidden. -/
abbrev timers : Hidden := { delay := True, sound := True }

theorem Untimed.blind (h : Untimed vm) : vm.Blind timers where
  byte := fun _ _ => id
  delay := fun _ _ _ hx => absurd (h.uses _ hx) nofun
  strict := nofun

/-- Without a fault a cycle leaves everything that a tick works on as it is. -/
theorem timers_of_cycle (huses : ∀ i, Denotes vm.word i → i.usesTimer = false)
    (hcycle : vm.cycle.1 = .ok o) : vm.cycle.2.delay = vm.delay ∧ vm.cycle.2.sound = vm.sound ∧
      vm.cycle.2.runState = vm.runState := by
  have hc : vm.cycle = (.ok o, vm.cycle.2) := Prod.ext hcycle rfl
  generalize vm.cycle.2 = after at hc ⊢
  cases cycle_eq_iff.mp hc with
  | idle hrun => exact ⟨rfl, rfl, rfl⟩
  | moved hrun hpc ht =>
    obtain ⟨hdelay, hsound⟩ := ht.timers_eq huses
    exact ⟨hdelay, hsound, ht.runState_eq⟩

/-- A tick works on the timers of a machine that runs, and on nothing else. -/
theorem tick_congr (hdelay : vm'.delay = vm.delay) (hsound : vm'.sound = vm.sound)
    (hrun : vm'.runState = vm.runState) : vm'.tick.1 = vm.tick.1 ∧
      vm'.tick.2.delay = vm.tick.2.delay ∧ vm'.tick.2.sound = vm.tick.2.sound := by
  cases hstate : vm.runState with
  | halted =>
    rw [tick_of_halted hstate, tick_of_halted (hrun.trans hstate)]
    exact ⟨rfl, hdelay, hsound⟩
  | running =>
    rw [hstate] at hrun
    simp only [tick, hrun, hstate, hdelay, hsound, and_self]

theorem word_tick (vm : Vm) : vm.tick.2.word = vm.word := by
  rw [tick_snd]
  rfl

theorem alike_tick (vm : Vm) : Alike timers vm.view vm.tick.2.view := by
  rw [tick_snd]
  exact ⟨fun _ _ => rfl, absurd trivial, absurd trivial, fun _ => rfl, fun _ => rfl, rfl⟩

/-- **A cycle that has nothing to do with the timers commutes with a tick.** -/
theorem cycle_tick (h : Untimed vm) :
    vm.tick.2.cycle = (vm.cycle.1, vm.cycle.2.tick.2) ∧ vm.cycle.2.tick.1 = vm.tick.1 := by
  obtain ⟨o, ho⟩ := h.answers
  obtain ⟨hanswer, halike⟩ := cycle_alike (alike_tick vm) h.blind
  obtain ⟨hdelay, hsound, hrun⟩ := timers_of_cycle h.uses ho
  obtain ⟨hbeep, hdelay', hsound'⟩ := tick_congr hdelay hsound hrun
  -- The cycle after the tick leaves the timers alone as well, since its word is the same.
  have huses : ∀ i, Denotes vm.tick.2.word i → i.usesTimer = false := by
    rw [word_tick]
    exact h.uses
  obtain ⟨hdelay'', hsound'', -⟩ := timers_of_cycle huses (hanswer.trans ho)
  refine ⟨Prod.ext hanswer ?_, hbeep⟩
  rw [eq_of_alike halike fun _ => id, tick_snd vm.cycle.2, hdelay'', hsound'', hdelay', hsound']
  have hredraw : vm.tick.2.cycle.2.redraw = vm.cycle.2.redraw := halike.redraw id
  have hstrict : vm.tick.2.cycle.2.strict = vm.cycle.2.strict := halike.strict id
  rw [hredraw, hstrict]

theorem Untimed.tick (h : Untimed vm) : Untimed vm.tick.2 where
  answers := by
    rw [(cycle_tick h).1]
    exact h.answers
  uses := by
    rw [word_tick]
    exact h.uses

/-! ## Several cycles, several ticks -/

/-- A number of cycles. -/
def cycles (vm : Vm) (m : Nat) : List Answer × Vm := vm.performAll (List.replicate m .cycle)

theorem cycles_succ (vm : Vm) (m : Nat) :
    vm.cycles (m + 1) = (.cycled vm.cycle.1 :: (vm.cycle.2.cycles m).1, (vm.cycle.2.cycles m).2) :=
  rfl

theorem ticks_succ (vm : Vm) (n : Nat) :
    vm.ticks (n + 1) = ((vm.tick.2.ticks n).1 + vm.tick.1.toNat, (vm.tick.2.ticks n).2) := rfl

/-- Cycles come to the same after a tick, but for the tick. -/
theorem cycles_tick (h : ∀ k < m, (vm.cycles k).2.Untimed) :
    vm.tick.2.cycles m = ((vm.cycles m).1, (vm.cycles m).2.tick.2) := by
  induction m generalizing vm with
  | zero => rfl
  | succ m ih =>
    have hfirst := (cycle_tick (h 0 (Nat.zero_lt_succ m))).1
    have hrest : ∀ k < m, (vm.cycle.2.cycles k).2.Untimed := fun k hk =>
      h (k + 1) (Nat.succ_lt_succ hk)
    change vm.tick.2.cycle = (vm.cycle.1, vm.cycle.2.tick.2) at hfirst
    rw [cycles_succ, cycles_succ, hfirst, ih hrest]

/-- Ticks beep as often after a cycle. -/
theorem ticks_cycle (h : Untimed vm) : (vm.cycle.2.ticks n).1 = (vm.ticks n).1 := by
  induction n generalizing vm with
  | zero => rfl
  | succ n ih =>
    obtain ⟨hcycle, hbeep⟩ := cycle_tick h
    have hrest := ih h.tick
    rw [hcycle] at hrest
    rw [ticks_succ, ticks_succ, hbeep, hrest]

/-! ## Every order -/

/-- **A number of cycles and a number of ticks in some order.** -/
inductive Interleaved : Nat → Nat → List Operation → Prop
  | nil : Interleaved 0 0 []
  | cycle {m n : Nat} {ops : List Operation} (h : Interleaved m n ops) :
    Interleaved (m + 1) n (.cycle :: ops)
  | tick {m n : Nat} {ops : List Operation} (h : Interleaved m n ops) :
    Interleaved m (n + 1) (.tick :: ops)

namespace Answer

/-- What a cycle did, or the fault it ended in. -/
def outcome? : Answer → Option (Except Fault Outcome)
  | .cycled answer => some answer
  | _ => none

/-- A tick beeped. -/
def isBeep : Answer → Bool
  | .ticked beep => beep
  | _ => false

end Answer

/-- What the cycles of a run did, oldest first. -/
def outcomes (answers : List Answer) : List (Except Fault Outcome) := answers.filterMap Answer.outcome?

/-- How many ticks of a run beeped. -/
def beeps (answers : List Answer) : Nat := answers.countP Answer.isBeep

theorem beeps_tick (beep : Bool) (answers : List Answer) :
    beeps (.ticked beep :: answers) = beeps answers + beep.toNat := by
  rw [beeps, List.countP_cons]
  cases beep <;> rfl

/-- **Every order of cycles and ticks does the same**, if without the ticks no cycle has to do with the
timers. The outcomes are those of the cycles alone, there are as many beeps as if the ticks came first,
and the machine is as if they came last. -/
theorem performAll_interleaved (huntimed : ∀ k < m, (vm.cycles k).2.Untimed)
    (h : Interleaved m n ops) :
    outcomes (vm.performAll ops).1 = outcomes (vm.cycles m).1 ∧
      beeps (vm.performAll ops).1 = (vm.ticks n).1 ∧
      (vm.performAll ops).2 = ((vm.cycles m).2.ticks n).2 := by
  induction h generalizing vm with
  | nil => exact ⟨rfl, rfl, rfl⟩
  | @cycle m n ops _ ih =>
    have hrest : ∀ k < m, (vm.cycle.2.cycles k).2.Untimed := fun k hk =>
      huntimed (k + 1) (Nat.succ_lt_succ hk)
    obtain ⟨houtcomes, hbeeps, hstate⟩ := ih hrest
    refine ⟨congrArg (vm.cycle.1 :: ·) houtcomes, ?_, hstate⟩
    exact hbeeps.trans (ticks_cycle (huntimed 0 (Nat.zero_lt_succ m)))
  | @tick m n ops _ ih =>
    have hafter := cycles_tick huntimed
    -- After the tick the cycles still have nothing to do with the timers.
    have hrest : ∀ k < m, (vm.tick.2.cycles k).2.Untimed := by
      intro k hk
      rw [cycles_tick fun j hj => huntimed j (hj.trans hk)]
      exact (huntimed k hk).tick
    obtain ⟨houtcomes, hbeeps, hstate⟩ := ih hrest
    rw [hafter] at houtcomes hstate
    refine ⟨houtcomes, ?_, hstate⟩
    exact (beeps_tick ..).trans (congrArg (· + vm.tick.1.toNat) hbeeps)

theorem untimed_of_decode {i : Instruction} (hanswer : vm.cycle.1 = .ok o)
    (hdecode : Instruction.decode vm.word = some i) (hi : i.usesTimer = false) : vm.Untimed where
  answers := ⟨o, hanswer⟩
  uses := by
    intro j hj
    rw [Instruction.decode_of_denotes hj] at hdecode
    cases hdecode
    exact hi

/-- Counts up for ever, and beeps two ticks from now. -/
def countingUp : Vm := { booted (.ofSeed 0) [0x70, 0x01, 0x12, 0x00] with sound := 2 }

theorem performAll_interleaved_counting :
    outcomes (countingUp.performAll [.tick, .cycle, .tick, .cycle]).1 =
        [.ok .executed, .ok .executed] ∧
      beeps (countingUp.performAll [.tick, .cycle, .tick, .cycle]).1 = 1 ∧
      (countingUp.performAll [.tick, .cycle, .tick, .cycle]).2 =
        ((countingUp.cycles 2).2.ticks 2).2 := by
  have hadd : countingUp.Untimed :=
    untimed_of_decode (i := .add offsetRegister 1) (o := .executed) (by decide +kernel)
      (by decide +kernel) rfl
  have hjump : (countingUp.cycles 1).2.Untimed :=
    untimed_of_decode (i := .jump 0x200) (o := .executed) (by decide +kernel) (by decide +kernel) rfl
  have huntimed : ∀ k < 2, (countingUp.cycles k).2.Untimed := by
    intro k hk
    obtain rfl | rfl : k = 0 ∨ k = 1 := by omega
    · exact hadd
    · exact hjump
  have horder : Interleaved 2 2 [.tick, .cycle, .tick, .cycle] := .tick (.cycle (.tick (.cycle .nil)))
  obtain ⟨houtcomes, hbeeps, hstate⟩ := performAll_interleaved huntimed horder
  have hexecuted : outcomes (countingUp.cycles 2).1 = [.ok .executed, .ok .executed] := by
    decide +kernel
  have honce : (countingUp.ticks 2).1 = 1 := by decide +kernel
  exact ⟨houtcomes.trans hexecuted, hbeeps.trans honce, hstate⟩

end Vm

end Chip8
