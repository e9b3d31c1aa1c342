import Chip8.Proofs.Calls
import Chip8.Proofs.Interleaving
import Mathlib.Data.List.Induction

/-!
# Timers and beeps over runs

Between two writes of a timer its ticks count it down to zero, and the sound timer beeps at the tick
that takes it there. So every beep belongs to the instruction that set the timer last, and whatever
comes between, such as an instruction that sets it again, a restart or a fault, takes the beep away.

* `Timer`, `Vm.timer`: the two timers;
* `Vm.executing`, **`Vm.written`**: what operations write into a timer; `Vm.faults`: cycles that
  fault;
* `timer_of_written`, `timer_of_not_written`, `tick_fst_eq_true_iff`: what one operation does;
* **`Vm.undisturbed`**: stretches of a run without a write and without a fault;
* `performAll_undisturbed`, `tickAnswers_undisturbed`: what such a stretch does, tick by tick;
* `exists_setSound`, `tick_fst_iff_setSound`: a tick that beeps belongs to the instruction that set
  the sound timer last;
* **`timers_along_runs`**: timers and beeps in every run of a fresh machine.
-/

namespace Chip8

open Instruction (Denotes)

/-! ## The timers -/

/-- The timers of a machine. -/
inductive Timer where
  | delay
  | sound
  deriving DecidableEq, Repr

/-- What an instruction writes into a timer: the value of its register. -/
def Timer.write (t : Timer) (reg : Register → UInt8) (i : Instruction) : Option UInt8 :=
  match t, i with
  | .delay, .setDelay x => some (reg x)
  | .sound, .setSound x => some (reg x)
  | _, _ => none

/-- What is left on a timer. -/
def View.timer (s : View) : Timer → UInt8
  | .delay => s.delay
  | .sound => s.sound

namespace Effect

variable {s s' : View} {i : Instruction} {o : Outcome}

theorem timer_eq (h : Effect s i o s') (t : Timer) :
    s'.timer t = (t.write s.reg i).getD (s.timer t) := by
  cases h <;> cases t <;> rfl

/-- An instruction that waits for a key writes no timer. -/
theorem write_eq_none (h : Effect s i o s') (ho : o ≠ .executed) (t : Timer) :
    t.write s.reg i = none := by
  cases h with
  | waitForKey => cases t <;> rfl
  | _ => exact absurd rfl ho

end Effect

namespace Vm

/-- The operation is a tick. -/
def Operation.isTick : Operation → Bool
  | .tick => true
  | _ => false

/-- How many ticks a run has. -/
def ticksIn (ops : List Operation) : Nat := ops.countP Operation.isTick

/-- Whether a tick beeped, if it is a tick that answers. -/
def Answer.beep? : Answer → Option Bool
  | .ticked beep => some beep
  | _ => none

/-- What the ticks of a run answered, oldest first. -/
def tickAnswers (answers : List Answer) : List Bool := answers.filterMap Answer.beep?

/-- What is left on a timer. -/
def timer (vm : Vm) (t : Timer) : UInt8 := vm.view.timer t

/-- The instruction that the next cycle executes. -/
def executing (vm : Vm) : Option Instruction :=
  if vm.cycle.1 = .ok .executed then Instruction.decode vm.word else none

/-- **What an operation writes into a timer**, ticks apart: an instruction that sets it the value of
its register, a restart zero. -/
def written (vm : Vm) (t : Timer) (op : Operation) : Option UInt8 :=
  match op with
  | .cycle => vm.executing.bind (t.write vm.reg)
  | _ => if vm.restarts op then some 0 else none

/-- The operation is a cycle that faults. -/
def faults (vm : Vm) : Operation → Bool
  | .cycle => !vm.cycle.1.isOk
  | _ => false

/-- **Nothing in a stretch of a run writes a timer, and no cycle in it faults.** -/
def undisturbed (vm : Vm) (t : Timer) : List Operation → Bool
  | [] => true
  | op :: ops => (vm.written t op).isNone && !vm.faults op && (vm.perform op).2.undisturbed t ops

variable {vm : Vm} {t : Timer} {op : Operation} {ops ops' : List Operation} {i : Instruction}
  {b : UInt8} {x : Register}

/-! ## One operation -/

theorem executing_eq_some_iff :
    vm.executing = some i ↔ vm.cycle.1 = .ok .executed ∧ Denotes vm.word i := by
  simp [executing, Instruction.decode_eq_some_iff]

theorem runState_of_executing (h : vm.executing = some i) :
    vm.runState = .running ∧ vm.cycle.2.runState = .running := by
  obtain ⟨hexecuted, -⟩ := executing_eq_some_iff.mp h
  have hrun : vm.runState = .running := by
    cases hstate : vm.runState with
    | running => rfl
    | halted =>
      rw [cycle_of_halted hstate] at hexecuted
      cases hexecuted
  refine ⟨hrun, ?_⟩
  rw [runState_cycle, hexecuted, hrun]
  rfl

theorem timer_cycle (vm : Vm) (t : Timer) :
    vm.cycle.2.timer t = (vm.executing.bind (t.write vm.reg)).getD (vm.timer t) := by
  rcases hcycle : vm.cycle with ⟨answer, after⟩
  cases cycle_eq_iff.mp hcycle with
  | idle | faulted =>
    rw [executing, hcycle]
    rfl
  | @moved o after hrun hpc ht =>
    change after.view.timer t = _
    generalize after.view = s at ht
    cases ht with
    | unknown hw hstrict =>
      rw [executing, hcycle]
      rfl
    | @row i o s hw he =>
      refine (he.timer_eq t).trans ?_
      by_cases ho : o = .executed
      · have hsome : vm.executing = some i :=
          executing_eq_some_iff.mpr ⟨by rw [hcycle, ho], hw⟩
        rw [hsome]
        rfl
      · have hnone : vm.executing = none := by
          rw [executing, hcycle, if_neg]
          simpa using ho
        rw [hnone, he.write_eq_none ho t]
        rfl

theorem written_of_ne_cycle (hop : op ≠ .cycle) :
    vm.written t op = if vm.restarts op then some 0 else none := by
  cases op with
  | cycle => exact absurd rfl hop
  | _ => rfl

/-- Apart from ticks an operation leaves on a timer what it writes, or what was there. -/
theorem timer_perform (vm : Vm) (t : Timer) (hop : op.isTick = false) :
    (vm.perform op).2.timer t = (vm.written t op).getD (vm.timer t) := by
  by_cases hcycle : op = .cycle
  · subst hcycle
    exact timer_cycle vm t
  · rw [written_of_ne_cycle hcycle]
    have hperformed := vm.performed op
    generalize (vm.perform op).2 = after at hperformed ⊢
    cases hperformed with
    | cycle => exact absurd rfl hcycle
    | tick => cases hop
    | loaded _ hrestarts _ =>
      rw [if_pos hrestarts]
      simp only [loaded, hardReset, softReset]
      cases t <;> rfl
    | refused _ hrestarts =>
      rw [hrestarts]
      rfl
    | _ => cases t <;> rfl

theorem toNat_countDown (b : UInt8) : (if 0 < b then b - 1 else 0).toNat = b.toNat - 1 := by
  by_cases hb : 0 < b
  · rw [if_pos hb]
    exact UInt8.toNat_sub_of_le b 1 hb
  · have hzero : b.toNat = 0 := Nat.eq_zero_of_not_pos hb
    rw [if_neg hb, hzero]
    rfl

/-- A tick takes one from the timers of a machine that runs; the subtraction stops at zero. -/
theorem timer_tick (vm : Vm) (t : Timer) : (vm.tick.2.timer t).toNat =
    (vm.timer t).toNat - if vm.runState = .running then 1 else 0 := by
  cases hrun : vm.runState with
  | halted =>
    rw [tick_of_halted hrun]
    rfl
  | running =>
    simp only [tick, hrun]
    cases t with
    | delay => exact toNat_countDown vm.delay
    | sound => exact toNat_countDown vm.sound

/-- A tick of a machine that runs beeps if the sound timer is one. -/
theorem tick_fst_of_running (hrun : vm.runState = .running) :
    vm.tick.1 = (1 == (vm.timer .sound).toNat) := by
  simp only [tick, hrun]
  rw [Bool.eq_iff_iff, beq_iff_eq, beq_iff_eq, ← UInt8.toNat_inj, eq_comm]
  rfl

theorem tick_fst_eq_true_iff :
    vm.tick.1 = true ↔ vm.runState = .running ∧ (vm.timer .sound).toNat = 1 := by
  cases hrun : vm.runState with
  | halted => simp [tick_of_halted hrun]
  | running =>
    rw [tick_fst_of_running hrun, beq_iff_eq, eq_comm]
    exact (and_iff_right rfl).symm

theorem timer_of_written (h : vm.written t op = some b) : (vm.perform op).2.timer t = b := by
  cases op with
  | tick => cases h
  | _ => rw [timer_perform vm t rfl, h, Option.getD_some]

/-- Without a write only the ticks of a machine that runs change a timer. -/
theorem timer_of_not_written (h : vm.written t op = none) : ((vm.perform op).2.timer t).toNat =
    (vm.timer t).toNat - if vm.runState = .running ∧ op.isTick then 1 else 0 := by
  cases hop : op.isTick with
  | true =>
    cases op with
    | tick =>
      simp only [and_true]
      exact timer_tick vm t
    | _ => cases hop
  | false => simp [timer_perform vm t hop, h]

theorem written_of_restarts (h : vm.restarts op = true) : vm.written t op = some 0 := by
  have hop : op ≠ .cycle := by
    rintro rfl
    cases h
  rw [written_of_ne_cycle hop, if_pos h]

theorem restarts_of_not_written (h : vm.written t op = none) : vm.restarts op = false := by
  cases hrestart : vm.restarts op with
  | false => rfl
  | true =>
    rw [written_of_restarts hrestart] at h
    cases h

/-- What starts or halts the machine is a restart, which writes the timers, or a fault. -/
theorem runState_of_not_written (hwrite : vm.written t op = none) (hfault : vm.faults op = false) :
    (vm.perform op).2.runState = vm.runState := by
  have hrestart := restarts_of_not_written hwrite
  by_cases hcycle : op = .cycle
  · subst hcycle
    have hok : vm.cycle.1.isOk = true := by simpa [faults] using hfault
    exact (runState_cycle vm).trans (if_pos hok)
  · have hperformed := vm.performed op
    generalize (vm.perform op).2 = after at hperformed ⊢
    cases hperformed with
    | cycle => exact absurd rfl hcycle
    | loaded _ hrestarts _ =>
      rw [hrestart] at hrestarts
      cases hrestarts
    | softReset | hardReset => cases hrestart
    | _ => rfl

/-! ## Undisturbed stretches -/

theorem performAll_append_snd (vm : Vm) (ops ops' : List Operation) :
    (vm.performAll (ops ++ ops')).2 = ((vm.performAll ops).2.performAll ops').2 := by
  rw [performAll_append]

theorem undisturbed_cons : vm.undisturbed t (op :: ops) = true ↔
    (vm.written t op = none ∧ vm.faults op = false) ∧
      (vm.perform op).2.undisturbed t ops = true := by
  simp [undisturbed]

theorem undisturbed_append : vm.undisturbed t (ops ++ ops') = true ↔
    vm.undisturbed t ops = true ∧ (vm.performAll ops).2.undisturbed t ops' = true := by
  induction ops generalizing vm with
  | nil => simp [undisturbed]
  | cons op ops ih =>
    rw [List.cons_append, undisturbed_cons, undisturbed_cons, ih, ← and_assoc, performAll_cons]

theorem ticksIn_cons (op : Operation) (ops : List Operation) :
    ticksIn (op :: ops) = ticksIn ops + if op.isTick then 1 else 0 := List.countP_cons

/-- **In an undisturbed stretch the ticks count a timer down**, if the machine runs, and otherwise
leave it. -/
theorem performAll_undisturbed (h : vm.undisturbed t ops = true) :
    (vm.performAll ops).2.runState = vm.runState ∧
      ((vm.performAll ops).2.timer t).toNat =
        (vm.timer t).toNat - if vm.runState = .running then ticksIn ops else 0 := by
  induction ops generalizing vm with
  | nil => simp [ticksIn]
  | cons op ops ih =>
    obtain ⟨⟨hwrite, hfault⟩, hrest⟩ := undisturbed_cons.mp h
    obtain ⟨hstate, htimer⟩ := ih hrest
    have hkept := runState_of_not_written hwrite hfault
    rw [performAll_cons]
    refine ⟨hstate.trans hkept, htimer.trans ?_⟩
    rw [timer_of_not_written hwrite, hkept, ticksIn_cons]
    by_cases hrun : vm.runState = .running
    · simp only [hrun, true_and, if_true]
      omega
    · simp only [hrun, false_and, if_false, Nat.sub_zero]

theorem tickAnswers_tick (vm : Vm) (ops : List Operation) :
    tickAnswers (vm.performAll (.tick :: ops)).1 =
      vm.tick.1 :: tickAnswers (vm.tick.2.performAll ops).1 := rfl

theorem tickAnswers_of_not_tick (hop : op.isTick = false) :
    tickAnswers (vm.performAll (op :: ops)).1 =
      tickAnswers ((vm.perform op).2.performAll ops).1 := by
  have hnone : (vm.perform op).1.beep? = none := by
    cases op with
    | tick => cases hop
    | _ => rfl
  rw [performAll_cons]
  exact List.filterMap_cons_none hnone

theorem eq_tick_of_isTick (hop : op.isTick = true) : op = .tick := by
  cases op with
  | tick => rfl
  | _ => cases hop

/-- **The ticks of an undisturbed stretch**: if the machine runs, that one beeps which takes the
sound timer to zero. -/
theorem tickAnswers_undisturbed (hrun : vm.runState = .running)
    (h : vm.undisturbed .sound ops = true) : tickAnswers (vm.performAll ops).1 =
      (List.range (ticksIn ops)).map fun k => k + 1 == (vm.timer .sound).toNat := by
  induction ops generalizing vm with
  | nil => rfl
  | cons op ops ih =>
    obtain ⟨⟨hwrite, hfault⟩, hrest⟩ := undisturbed_cons.mp h
    have hkept := runState_of_not_written hwrite hfault
    have hanswers := ih (hkept.trans hrun) hrest
    rw [timer_of_not_written hwrite] at hanswers
    cases hop : op.isTick with
    | false =>
      simp only [hop, Bool.false_eq_true, and_false, if_false, Nat.sub_zero] at hanswers
      rw [tickAnswers_of_not_tick hop, hanswers, ticksIn_cons, hop]
      rfl
    | true =>
      obtain rfl := eq_tick_of_isTick hop
      have hlater : ∀ k, (k + 1 == (vm.timer .sound).toNat - 1) =
          (k.succ + 1 == (vm.timer .sound).toNat) := by
        intro k
        rw [Bool.eq_iff_iff, beq_iff_eq, beq_iff_eq]
        omega
      simp only [hop, hrun, and_self, if_true, hlater] at hanswers
      rw [tickAnswers_tick, tick_fst_of_running hrun, ticksIn_cons, hop, if_pos rfl,
        List.range_succ_eq_map, List.map_cons, List.map_map]
      exact congrArg _ hanswers

/-- A halted machine does not beep before the next restart. -/
theorem tickAnswers_of_halted (hhalted : vm.runState = .halted)
    (h : vm.undisturbed t ops = true) :
    tickAnswers (vm.performAll ops).1 = List.replicate (ticksIn ops) false := by
  induction ops generalizing vm with
  | nil => rfl
  | cons op ops ih =>
    obtain ⟨⟨hwrite, hfault⟩, hrest⟩ := undisturbed_cons.mp h
    have hkept := runState_of_not_written hwrite hfault
    have hanswers := ih (hkept.trans hhalted) hrest
    cases hop : op.isTick with
    | false =>
      rw [tickAnswers_of_not_tick hop, hanswers, ticksIn_cons, hop]
      rfl
    | true =>
      obtain rfl := eq_tick_of_isTick hop
      have hsilent : vm.tick.1 = false := by rw [tick_of_halted hhalted]
      rw [tickAnswers_tick, hsilent, ticksIn_cons, hop, if_pos rfl, List.replicate_succ]
      exact congrArg _ hanswers

/-! ## Beeps -/

theorem beeps_eq_count (answers : List Answer) :
    beeps answers = (tickAnswers answers).count true := by
  rw [beeps, tickAnswers, List.count, List.countP_filterMap]
  refine List.countP_congr fun answer _ => ?_
  cases answer <;> simp [Answer.isBeep, Answer.beep?]

/-- Of ticks that count down from a number, one beeps if there are enough of them. -/
theorem count_countdown (n s : Nat) :
    ((List.range n).map fun k => k + 1 == s).count true = if 1 ≤ s ∧ s ≤ n then 1 else 0 := by
  induction n with
  | zero =>
    rw [if_neg (by omega)]
    rfl
  | succ n ih =>
    rw [List.range_succ, List.map_append, List.count_append, ih, List.map_singleton,
      List.count_singleton]
    have hlast : ((n + 1 == s) == true) = true ↔ n + 1 = s := by simp
    by_cases hs : n + 1 = s
    · rw [if_neg (by omega), if_pos (hlast.mpr hs), if_pos (by omega)]
    · rw [if_neg (mt hlast.mp hs), Nat.add_zero]
      exact if_congr (by omega) rfl rfl

/-- **The beeps of an undisturbed stretch**: one, if the machine runs and the ticks last. -/
theorem beeps_undisturbed (hrun : vm.runState = .running) (h : vm.undisturbed .sound ops = true) :
    beeps (vm.performAll ops).1 =
      if 1 ≤ (vm.timer .sound).toNat ∧ (vm.timer .sound).toNat ≤ ticksIn ops then 1 else 0 := by
  rw [beeps_eq_count, tickAnswers_undisturbed hrun h, count_countdown]

theorem beeps_of_halted (hhalted : vm.runState = .halted) (h : vm.undisturbed t ops = true) :
    beeps (vm.performAll ops).1 = 0 := by
  rw [beeps_eq_count, tickAnswers_of_halted hhalted h, List.count_replicate]
  rfl

/-! ## Where the sound timer was set -/

theorem written_of_executing (h : vm.executing = some (.setSound x)) :
    vm.written .sound .cycle = some (vm.reg x) := by
  rw [written, h]
  rfl

theorem sound_of_executing (h : vm.executing = some (.setSound x)) :
    vm.cycle.2.timer .sound = vm.reg x := timer_of_written (written_of_executing h)

/-- Only an instruction writes anything but zero. -/
theorem exists_executing_of_written (h : vm.written .sound op = some b) (hb : b ≠ 0) :
    op = .cycle ∧ ∃ x, vm.executing = some (.setSound x) := by
  by_cases hop : op = .cycle
  · subst hop
    obtain ⟨i, hi, hwrite⟩ := Option.bind_eq_some_iff.mp h
    cases i with
    | setSound x => exact ⟨rfl, x, hi⟩
    | _ => cases hwrite
  · rw [written_of_ne_cycle hop, Option.ite_none_right_eq_some] at h
    exact absurd (Option.some.inj h.2).symm hb

/-- After an instruction has set the sound timer, undisturbed ticks count it down. -/
theorem performAll_setSound (hset : vm.executing = some (.setSound x))
    (hstretch : vm.cycle.2.undisturbed .sound ops = true) :
    (vm.performAll (.cycle :: ops)).2.runState = .running ∧
      ((vm.performAll (.cycle :: ops)).2.timer .sound).toNat = (vm.reg x).toNat - ticksIn ops := by
  have hrun := (runState_of_executing hset).2
  have hsound := sound_of_executing hset
  obtain ⟨hstate, htimer⟩ := performAll_undisturbed hstretch
  rw [if_pos hrun, hsound] at htimer
  exact ⟨hstate.trans hrun, htimer⟩

/-- **The ticks after an instruction has set the sound timer.** -/
theorem tickAnswers_setSound (hset : vm.executing = some (.setSound x))
    (hstretch : vm.cycle.2.undisturbed .sound ops = true) :
    tickAnswers (vm.cycle.2.performAll ops).1 =
        (List.range (ticksIn ops)).map (fun k => k + 1 == (vm.reg x).toNat) ∧
      beeps (vm.cycle.2.performAll ops).1 =
        if 1 ≤ (vm.reg x).toNat ∧ (vm.reg x).toNat ≤ ticksIn ops then 1 else 0 := by
  have hrun := (runState_of_executing hset).2
  rw [← sound_of_executing hset]
  exact ⟨tickAnswers_undisturbed hrun hstretch, beeps_undisturbed hrun hstretch⟩

/-- **A sound timer that is overwritten or reset before it runs out does not beep.** -/
theorem beeps_overwritten (hset : vm.executing = some (.setSound x))
    (hstretch : vm.cycle.2.undisturbed .sound ops = true) (hearly : ticksIn ops < (vm.reg x).toNat)
    (hwrite : (vm.cycle.2.performAll ops).2.written .sound op = some b) :
    beeps (vm.cycle.2.performAll (ops ++ [op])).1 = 0 := by
  have hnone : beeps (vm.cycle.2.performAll ops).1 = 0 :=
    (tickAnswers_setSound hset hstretch).2.trans (if_neg (by omega))
  have hlast : ((vm.cycle.2.performAll ops).2.perform op).1.isBeep = false := by
    cases op with
    | tick => cases hwrite
    | _ => rfl
  have hanswers : (vm.cycle.2.performAll (ops ++ [op])).1 =
      (vm.cycle.2.performAll ops).1 ++ [((vm.cycle.2.performAll ops).2.perform op).1] :=
    congrArg Prod.fst (performAll_append ..)
  rw [hanswers, beeps, List.countP_append, List.countP_singleton, hlast]
  exact hnone

theorem beeps_of_restarts (hrestart : vm.restarts op = true)
    (hstretch : (vm.perform op).2.undisturbed .sound ops = true) :
    beeps ((vm.perform op).2.performAll ops).1 = 0 := by
  have hzero : (vm.perform op).2.timer .sound = 0 :=
    timer_of_written (written_of_restarts hrestart)
  cases hstate : (vm.perform op).2.runState with
  | halted => exact beeps_of_halted hstate hstretch
  | running =>
    rw [beeps_undisturbed hstate hstretch, hzero]
    exact if_neg fun h => absurd h.1 (by decide)

theorem runState_of_faults (h : vm.faults op = true) : (vm.perform op).2.runState = .halted := by
  cases op with
  | cycle =>
    refine (runState_cycle vm).trans (if_neg ?_)
    simpa [faults] using h
  | _ => cases h

/-- **A sound timer that has not run out was set by an instruction** of the run, and nothing has
disturbed it since. -/
theorem exists_setSound (hsilent : vm.timer .sound = 0)
    (hrun : (vm.performAll ops).2.runState = .running)
    (hsound : (vm.performAll ops).2.timer .sound ≠ 0) :
    ∃ before x stretch, ops = before ++ .cycle :: stretch ∧
      (vm.performAll before).2.executing = some (.setSound x) ∧
      (vm.performAll before).2.cycle.2.undisturbed .sound stretch = true := by
  induction ops using List.reverseRecOn with
  | nil => exact absurd hsilent hsound
  | append_singleton ops op ih =>
    have hafter : (vm.performAll (ops ++ [op])).2 = ((vm.performAll ops).2.perform op).2 :=
      performAll_append_snd vm ops [op]
    rw [hafter] at hrun hsound
    cases hwrite : (vm.performAll ops).2.written .sound op with
    | some b =>
      -- What the last operation writes is not zero, so it is an instruction that sets the timer.
      rw [timer_of_written hwrite] at hsound
      obtain ⟨rfl, x, hset⟩ := exists_executing_of_written hwrite hsound
      exact ⟨ops, x, [], rfl, hset, rfl⟩
    | none =>
      -- The last operation extends the stretch: a fault would have halted the machine.
      have hfault : (vm.performAll ops).2.faults op = false := by
        cases hfaults : (vm.performAll ops).2.faults op with
        | false => rfl
        | true =>
          rw [runState_of_faults hfaults] at hrun
          cases hrun
      rw [runState_of_not_written hwrite hfault] at hrun
      have hbefore : (vm.performAll ops).2.timer .sound ≠ 0 := by
        intro hzero
        have hkept := timer_of_not_written hwrite
        rw [hzero, UInt8.toNat_zero, Nat.zero_sub] at hkept
        exact hsound (UInt8.toNat_inj.mp hkept)
      obtain ⟨before, x, stretch, rfl, hset, hstretch⟩ := ih hrun hbefore
      refine ⟨before, x, stretch ++ [op], by simp, hset, undisturbed_append.mpr ⟨hstretch, ?_⟩⟩
      rw [performAll_append_snd] at hwrite hfault
      exact undisturbed_cons.mpr ⟨⟨hwrite, hfault⟩, rfl⟩

/-- **When a tick beeps**: its number, counted from the instruction that set the sound timer, is
what the timer was set to. -/
theorem tick_fst_iff_setSound (hsilent : vm.timer .sound = 0) :
    (vm.performAll ops).2.tick.1 = true ↔ ∃ before x stretch, ops = before ++ .cycle :: stretch ∧
      (vm.performAll before).2.executing = some (.setSound x) ∧
      (vm.performAll before).2.cycle.2.undisturbed .sound stretch = true ∧
      ticksIn stretch + 1 = ((vm.performAll before).2.reg x).toNat := by
  rw [tick_fst_eq_true_iff]
  constructor
  · rintro ⟨hrun, hone⟩
    have hsound : (vm.performAll ops).2.timer .sound ≠ 0 := by
      intro hzero
      rw [hzero] at hone
      cases hone
    obtain ⟨before, x, stretch, rfl, hset, hstretch⟩ := exists_setSound hsilent hrun hsound
    rw [performAll_append_snd, (performAll_setSound hset hstretch).2] at hone
    exact ⟨before, x, stretch, rfl, hset, hstretch, by omega⟩
  · rintro ⟨before, x, stretch, rfl, hset, hstretch, hticks⟩
    obtain ⟨hrun, hcount⟩ := performAll_setSound hset hstretch
    rw [performAll_append_snd]
    exact ⟨hrun, by omega⟩

/-! ## Every run -/

theorem timer_fresh (random : RandomSource) (t : Timer) : (fresh random).timer t = 0 := by
  cases t <;> rfl

/-- **Timers and beeps along runs.** In every run of a fresh machine:
* an operation leaves on a timer what it writes; without a write a tick of a running machine takes
  one from it, zero stays zero, and everything else leaves it;
* in an undisturbed stretch a running machine keeps running, and the ticks count the timers down to
  zero;
* after an instruction has set the sound timer, that tick beeps which takes it to zero, and no
  other;
* a sound timer that is overwritten or reset before that does not beep, and after a restart none
  does;
* whenever a tick beeps, the ticks since an instruction set the sound timer are as many as it was
  set to, and nothing has disturbed it in between;
* a halted machine does not beep and keeps both timers. -/
theorem timers_along_runs (random : RandomSource) (ops : List Operation) :
    let now := ((fresh random).performAll ops).2
    ((∀ t op b, now.written t op = some b → (now.perform op).2.timer t = b) ∧
      ∀ t op, now.written t op = none → ((now.perform op).2.timer t).toNat =
        (now.timer t).toNat - if now.runState = .running ∧ op.isTick then 1 else 0) ∧
    (∀ t stretch, now.runState = .running → now.undisturbed t stretch →
      (now.performAll stretch).2.runState = .running ∧
      ((now.performAll stretch).2.timer t).toNat = (now.timer t).toNat - ticksIn stretch) ∧
    (∀ x stretch, now.executing = some (.setSound x) → now.cycle.2.undisturbed .sound stretch →
      let s := (now.reg x).toNat
      let n := ticksIn stretch
      let answers := (now.cycle.2.performAll stretch).1
      tickAnswers answers = (List.range n).map (fun k => k + 1 == s) ∧
      beeps answers = if 1 ≤ s ∧ s ≤ n then 1 else 0) ∧
    (∀ x stretch op b, now.executing = some (.setSound x) → now.cycle.2.undisturbed .sound stretch →
      ticksIn stretch < (now.reg x).toNat →
      (now.cycle.2.performAll stretch).2.written .sound op = some b →
      beeps (now.cycle.2.performAll (stretch ++ [op])).1 = 0) ∧
    (∀ op stretch, now.restarts op → (now.perform op).2.undisturbed .sound stretch →
      beeps ((now.perform op).2.performAll stretch).1 = 0) ∧
    (now.tick.1 = true ↔ ∃ before x stretch, ops = before ++ .cycle :: stretch ∧
      let start := ((fresh random).performAll before).2
      start.executing = some (.setSound x) ∧ start.cycle.2.undisturbed .sound stretch ∧
        ticksIn stretch + 1 = (start.reg x).toNat) ∧
    (∀ t stretch, now.runState = .halted → now.undisturbed t stretch →
      (now.performAll stretch).2.runState = .halted ∧
      (now.performAll stretch).2.timer t = now.timer t ∧ beeps (now.performAll stretch).1 = 0) := by
  intro now
  refine ⟨⟨fun t op b => timer_of_written, fun t op => timer_of_not_written⟩, ?_,
    fun x stretch => tickAnswers_setSound, fun x stretch op b => beeps_overwritten,
    fun op stretch => beeps_of_restarts, tick_fst_iff_setSound (timer_fresh random .sound), ?_⟩
  · intro t stretch hrun hstretch
    obtain ⟨hstate, htimer⟩ := performAll_undisturbed hstretch
    rw [if_pos hrun] at htimer
    exact ⟨hstate.trans hrun, htimer⟩
  · intro t stretch hhalted hstretch
    obtain ⟨hstate, htimer⟩ := performAll_undisturbed hstretch
    rw [if_neg (by simp [hhalted]), Nat.sub_zero] at htimer
    exact ⟨hstate.trans hhalted, UInt8.toNat_inj.mp htimer, beeps_of_halted hhalted hstretch⟩

/-- Sets the sound timer to two, and then jumps to itself for ever. -/
def beepingProgram : List UInt8 := [0x60, 0x02, 0xF0, 0x18, 0x12, 0x04]

/-- Of the ticks after the timer was set to two, the second beeps. -/
theorem timers_along_runs_second_tick :
    let now := ((booted (.ofSeed 0) beepingProgram).performAll [.cycle]).2
    now.executing = some (.setSound 0) ∧
      tickAnswers (now.cycle.2.performAll [.tick, .cycle, .tick, .tick]).1 = [false, true, false] ∧
      ((booted (.ofSeed 0) beepingProgram).performAll [.cycle, .cycle, .tick]).2.tick.1 = true := by
  have hload : ∀ ops, ((fresh (.ofSeed 0)).performAll (.load beepingProgram :: ops)).2 =
      ((booted (.ofSeed 0) beepingProgram).performAll ops).2 :=
    performAll_load_fresh (.ofSeed 0) (by decide)
  obtain ⟨-, -, hepisode, -⟩ := timers_along_runs (.ofSeed 0) [.load beepingProgram, .cycle]
  obtain ⟨-, -, -, -, -, hbeep, -⟩ :=
    timers_along_runs (.ofSeed 0) [.load beepingProgram, .cycle, .cycle, .tick]
  rewrite [hload] at hepisode hbeep
  intro now
  have hset : now.executing = some (.setSound 0) := by decide +kernel
  have htwo : (now.reg 0).toNat = 2 := by decide +kernel
  have hstretch : now.cycle.2.undisturbed .sound [.tick, .cycle, .tick, .tick] = true := by
    decide +kernel
  obtain ⟨hanswers, -⟩ := hepisode 0 _ hset hstretch
  refine ⟨hset, ?_, hbeep.mpr ⟨[.load beepingProgram, .cycle], 0, [.tick], rfl, ?_⟩⟩
  · rewrite [htwo] at hanswers
    exact hanswers
  · rewrite [hload]
    have honce : now.cycle.2.undisturbed .sound [.tick] = true := by decide +kernel
    exact ⟨hset, honce, htwo.symm⟩

end Vm

end Chip8
