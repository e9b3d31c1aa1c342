import Chip8.Proofs.Run

/-!
# Calls and returns

A return goes back behind the call that it matches, as brackets match: what was called and has returned
since the call stack was last emptied determines what is on it.

* `CallEvent`, `Vm.callsSince`: the calls and returns since the last reset or accepted program;
* `Nested`, **`Pending`**: calls and returns that match, and the calls that no return matches;
* `Pending.unique`, `Pending.pop`: no other calls are pending, and what a return matches;
* **`calls_nest`**: the call stack holds the return addresses of the pending calls.
-/

namespace Chip8

/-- A call, from its address, or a return. -/
inductive CallEvent where
  | call (address : UInt16)
  | ret
  deriving DecidableEq, Repr

namespace CallEvent

def isCall : CallEvent → Bool
  | call _ => true
  | ret => false

/-- What the instruction at an address calls or returns from. -/
def ofInstruction (address : UInt16) : Instruction → List CallEvent
  | .call _ => [call address]
  | .ret => [ret]
  | _ => []

/-! ## Matching -/

/-- **Calls and returns that match like brackets.** -/
inductive Nested : List CallEvent → Prop
  | nil : Nested []
  | call (a : UInt16) {inner rest : List CallEvent} (hinner : Nested inner) (hrest : Nested rest) :
    Nested (call a :: inner ++ ret :: rest)

/-- **The calls that no return matches**, newest first. Between them everything matches. -/
inductive Pending : List CallEvent → List UInt16 → Prop
  | nested {past : List CallEvent} (h : Nested past) : Pending past []
  | call (a : UInt16) {past inner : List CallEvent} {calls : List UInt16} (h : Pending past calls)
    (hinner : Nested inner) : Pending (past ++ call a :: inner) (a :: calls)

variable {past inner rest : List CallEvent} {calls : List UInt16} {a : UInt16}

theorem Nested.append (h : Nested inner) (hrest : Nested rest) : Nested (inner ++ rest) := by
  induction h with
  | nil => exact hrest
  | call a hinner _ _ ih =>
    simpa using Nested.call a hinner ih

theorem Pending.append (h : Pending past calls) (hrest : Nested rest) :
    Pending (past ++ rest) calls := by
  cases h with
  | nested h => exact .nested (h.append hrest)
  | call a h hinner => simpa using Pending.call a h (hinner.append hrest)

/-- The newest pending call is what a return matches. -/
theorem Pending.pop (h : Pending past (a :: calls)) :
    ∃ before inner, past = before ++ .call a :: inner ∧ Nested inner ∧
      Pending (past ++ [.ret]) calls := by
  cases h with
  | @call _ before inner _ hbefore hinner =>
    refine ⟨before, inner, rfl, hinner, ?_⟩
    simpa using hbefore.append (Nested.call a hinner .nil)

/-! ## Counting, and that no other calls are pending -/

theorem Nested.count_eq (h : Nested past) : past.count ret = past.countP isCall := by
  induction h with
  | nil => rfl
  | call a _ _ ih ih' =>
    simp [List.countP_cons, isCall, ih, ih']
    omega

theorem Pending.count_eq (h : Pending past calls) :
    calls.length + past.count ret = past.countP isCall := by
  induction h with
  | nested h => simpa using h.count_eq
  | call a h hinner ih =>
    have := hinner.count_eq
    simp [List.countP_cons, isCall]
    omega

/-- Reads calls and returns from the left, with the calls that are pending before. -/
def scan (calls : List UInt16) : List CallEvent → List UInt16
  | [] => calls
  | call a :: rest => scan (a :: calls) rest
  | ret :: rest => scan calls.tail rest

theorem scan_append (calls : List UInt16) (past rest : List CallEvent) :
    scan calls (past ++ rest) = scan (scan calls past) rest := by
  induction past generalizing calls with
  | nil => rfl
  | cons e past ih => cases e <;> exact ih _

theorem Nested.scan_eq (h : Nested inner) (calls : List UInt16) : scan calls inner = calls := by
  induction h generalizing calls with
  | nil => rfl
  | call a _ _ ih ih' =>
    rw [List.cons_append, scan, scan_append, ih, scan, ih']
    rfl

theorem Pending.scan_eq (h : Pending past calls) : scan [] past = calls := by
  induction h with
  | nested h => exact h.scan_eq []
  | call a _ hinner ih => rw [scan_append, ih, scan, hinner.scan_eq]

theorem Pending.unique {other : List UInt16} (h : Pending past calls) (h' : Pending past other) :
    other = calls := h'.scan_eq.symm.trans h.scan_eq

end CallEvent

open CallEvent (Nested Pending isCall)
open Instruction (Denotes)

/-- **What instructions do to the call stack.** -/
theorem Effect.frames_cases {s s' : View} {i : Instruction} {o : Outcome} (h : Effect s i o s') :
    (∃ nnn, i = .call nnn ∧ o = .executed ∧ s'.frames = (s.pc + 2) :: s.frames) ∨
      (i = .ret ∧ o = .executed ∧ s.frames = s'.pc :: s'.frames) ∨
      ((∀ address, CallEvent.ofInstruction address i = []) ∧ s'.frames = s.frames) := by
  cases h with
  | call nnn hroom => exact .inl ⟨nnn, rfl, rfl, rfl⟩
  | ret hback => exact .inr (.inl ⟨rfl, rfl, hback⟩)
  | _ => exact .inr (.inr ⟨fun _ => rfl, rfl⟩)

namespace Vm

variable {vm vm' : Vm} {op : Operation} {past : List CallEvent}

/-! ## The calls and returns of a run -/

/-- The call or return that the next cycle executes. -/
def cycleCalls (vm : Vm) : List CallEvent :=
  match vm.cycle.1, Instruction.decode vm.word with
  | .ok .executed, some i => CallEvent.ofInstruction vm.pc i
  | _, _ => []

/-- The calls and returns since the last restart, after one more operation. -/
def callsAfter (vm : Vm) (past : List CallEvent) (op : Operation) : List CallEvent :=
  if vm.restarts op then [] else
    match op with
    | .cycle => past ++ vm.cycleCalls
    | _ => past

/-- **The calls and returns since the last restart**, oldest first, after a run. -/
def callsSince (vm : Vm) (past : List CallEvent) : List Operation → List CallEvent
  | [] => past
  | op :: ops => (vm.perform op).2.callsSince (vm.callsAfter past op) ops

theorem cycleCalls_of_executed {i : Instruction} (hcycle : vm.cycle = (.ok .executed, vm'))
    (hw : Denotes vm.word i) : vm.cycleCalls = CallEvent.ofInstruction vm.pc i := by
  rw [cycleCalls, hcycle, Instruction.decode_of_denotes hw]

theorem cycleCalls_of_silent {i : Instruction} (hw : Denotes vm.word i)
    (hi : ∀ address, CallEvent.ofInstruction address i = []) : vm.cycleCalls = [] := by
  rw [cycleCalls, Instruction.decode_of_denotes hw]
  split
  · simp_all
  · rfl

/-- **The calls and returns of a cycle, and the call stack.** -/
theorem cycleCalls_cases (vm : Vm) :
    (vm.cycleCalls = [.call vm.pc] ∧ vm.pc.toNat + 2 ≤ 4096 ∧
        vm.cycle.2.stack.frames = (vm.pc + 2) :: vm.stack.frames) ∨
      (vm.cycleCalls = [.ret] ∧ vm.stack.frames = vm.cycle.2.pc :: vm.cycle.2.stack.frames) ∨
      (vm.cycleCalls = [] ∧ vm.cycle.2.stack = vm.stack) := by
  rcases hcycle : vm.cycle with ⟨answer, after⟩
  cases cycle_eq_iff.mp hcycle with
  | idle hrun =>
    exact .inr (.inr ⟨by rw [cycleCalls, hcycle], rfl⟩)
  | faulted hrun hfault =>
    exact .inr (.inr ⟨by rw [cycleCalls, hcycle], rfl⟩)
  | moved hrun hpc ht =>
    generalize hafter : after.view = s at ht
    have hframes : after.stack.frames = s.frames := congrArg View.frames hafter
    have hto : after.pc = s.pc := congrArg View.pc hafter
    rw [hframes, hto]
    cases ht with
    | unknown hw hstrict =>
      exact .inr (.inr ⟨by rw [cycleCalls, hcycle], CallStack.ext hframes⟩)
    | row hw he =>
      -- Of the rows only those of calls and returns touch the call stack.
      rcases he.frames_cases with ⟨nnn, rfl, rfl, hpush⟩ | ⟨rfl, rfl, hpop⟩ | ⟨hi, hsame⟩
      · exact .inl ⟨cycleCalls_of_executed hcycle hw, hpc, hpush⟩
      · exact .inr (.inl ⟨cycleCalls_of_executed hcycle hw, hpop⟩)
      · exact .inr (.inr ⟨cycleCalls_of_silent hw hi, CallStack.ext (hframes.trans hsame)⟩)

/-- Restarts go to the start of the program and empty the call stack; apart from them only cycles touch
the program counter and the call stack. -/
theorem control_perform (vm : Vm) {op : Operation} (hcycle : op ≠ .cycle) :
    ((vm.perform op).2.pc, (vm.perform op).2.stack) =
      if vm.restarts op then (programStart, .empty) else (vm.pc, vm.stack) := by
  have hperformed := vm.performed op
  generalize (vm.perform op).2 = after at hperformed ⊢
  cases hperformed with
  | cycle => exact absurd rfl hcycle
  | loaded hop hrestarts hfits =>
    rw [if_pos hrestarts]
    simp only [loaded, hardReset, softReset]
  | refused hop hrestarts => rw [hrestarts, if_neg Bool.false_ne_true]
  | _ => rfl

/-! ## The invariant -/

/-- What is pending is on the call stack, and no call is at the end of memory. -/
structure Matched (vm : Vm) (past : List CallEvent) : Prop where
  pending : ∃ calls, Pending past calls ∧ vm.stack.frames = calls.map (· + 2)
  inMemory : ∀ a, .call a ∈ past → a.toNat + 2 ≤ 4096

theorem matched_of_empty (h : vm.stack = .empty) : Matched vm [] where
  pending := ⟨[], .nested .nil, congrArg CallStack.frames h⟩
  inMemory := nofun

theorem Matched.of_stack_eq (h : Matched vm past) (hstack : vm'.stack = vm.stack) :
    Matched vm' past := ⟨hstack ▸ h.pending, h.inMemory⟩

theorem Matched.call (h : Matched vm past) (hpc : vm.pc.toNat + 2 ≤ 4096)
    (hframes : vm'.stack.frames = (vm.pc + 2) :: vm.stack.frames) :
    Matched vm' (past ++ [.call vm.pc]) := by
  obtain ⟨calls, hpending, hcalls⟩ := h.pending
  refine ⟨⟨vm.pc :: calls, hpending.call vm.pc .nil, ?_⟩, fun a ha => ?_⟩
  · rw [hframes, hcalls, List.map_cons]
  · rcases List.mem_append.mp ha with hpast | hlast
    · exact h.inMemory a hpast
    · cases List.mem_singleton.mp hlast
      exact hpc

theorem Matched.ret {back : UInt16} (h : Matched vm past)
    (hframes : vm.stack.frames = back :: vm'.stack.frames) :
    Matched vm' (past ++ [.ret]) ∧ ∃ before a inner,
      past = before ++ .call a :: inner ∧ Nested inner ∧ back = a + 2 := by
  obtain ⟨calls, hpending, hcalls⟩ := h.pending
  rw [hframes] at hcalls
  -- The call stack is not empty, so a call is pending: the return goes behind it.
  obtain ⟨a, calls, rfl, rfl, hrest⟩ := List.map_eq_cons_iff.mp hcalls.symm
  obtain ⟨before, inner, hpast, hinner, hafter⟩ := hpending.pop
  refine ⟨⟨⟨calls, hafter, hrest.symm⟩, fun b hb => ?_⟩, before, a, inner, hpast, hinner, rfl⟩
  exact h.inMemory b (by simpa using hb)

theorem Matched.cycle (h : Matched vm past) : Matched vm.cycle.2 (past ++ vm.cycleCalls) := by
  rcases vm.cycleCalls_cases with ⟨hcalls, hpc, hframes⟩ | ⟨hcalls, hframes⟩ | ⟨hcalls, hstack⟩
  · rw [hcalls]
    exact h.call hpc hframes
  · rw [hcalls]
    exact (h.ret hframes).1
  · rw [hcalls, List.append_nil]
    exact h.of_stack_eq hstack

theorem Matched.perform (h : Matched vm past) (op : Operation) :
    Matched (vm.perform op).2 (vm.callsAfter past op) := by
  by_cases hcycle : op = .cycle
  · subst hcycle
    exact h.cycle
  · have hcontrol := control_perform vm hcycle
    unfold callsAfter
    cases hrestart : vm.restarts op with
    | true =>
      rw [hrestart, if_pos rfl] at hcontrol
      exact matched_of_empty (congrArg Prod.snd hcontrol)
    | false =>
      rw [hrestart, if_neg Bool.false_ne_true] at hcontrol
      have hstack : (vm.perform op).2.stack = vm.stack := congrArg Prod.snd hcontrol
      cases op with
      | cycle => exact absurd rfl hcycle
      | _ => exact h.of_stack_eq hstack

theorem Matched.performAll (h : Matched vm past) (ops : List Operation) :
    Matched (vm.performAll ops).2 (vm.callsSince past ops) := by
  induction ops generalizing vm past with
  | nil => exact h
  | cons op ops ih => exact ih (h.perform op)

theorem Matched.depth_eq (h : Matched vm past) :
    vm.stack.depth + past.count .ret = past.countP isCall := by
  obtain ⟨calls, hpending, hframes⟩ := h.pending
  rw [CallStack.depth, hframes, List.length_map]
  exact hpending.count_eq

/-- **Calls and returns nest.** In every run from an empty call stack, as that of a fresh machine or of
one just restarted, the call stack holds the return addresses of the calls that are pending, newest
first, and each return goes behind the call that it matches. -/
theorem calls_nest (h : vm.stack = .empty) (ops : List Operation) :
    let now := (vm.performAll ops).2
    let past := vm.callsSince [] ops
    (∃ calls, Pending past calls ∧ (∀ other, Pending past other → other = calls) ∧
      now.stack.frames = calls.map (· + 2)) ∧
    (∀ a, .call a ∈ past → a.toNat + 2 ≤ 4096) ∧
    now.stack.depth + past.count .ret = past.countP isCall ∧ now.stack.depth ≤ 16 ∧
    (now.cycle.1 = .ok .executed → now.word = 0x00EE → ∃ before a inner,
      past = before ++ .call a :: inner ∧ Nested inner ∧ now.cycle.2.pc = a + 2) := by
  intro now past
  have hmatched : Matched now past := (matched_of_empty h).performAll ops
  obtain ⟨calls, hpending, hframes⟩ := hmatched.pending
  refine ⟨⟨calls, hpending, fun other => hpending.unique, hframes⟩, hmatched.inMemory,
    hmatched.depth_eq, now.stack.depth_le, fun hexecuted hword => ?_⟩
  have hret : now.cycleCalls = [.ret] := by
    rw [cycleCalls_of_executed (Prod.ext hexecuted rfl) (hword ▸ Denotes.ret)]
    rfl
  -- The cycle returns, so it neither calls nor leaves the call stack alone.
  rcases now.cycleCalls_cases with ⟨hcalls, -⟩ | ⟨-, hframes⟩ | ⟨hcalls, -⟩
  · rw [hret] at hcalls
    cases hcalls
  · exact (hmatched.ret hframes).2
  · rw [hret] at hcalls
    cases hcalls

/-- A call at 0x200, with the return that matches it. -/
def callingProgram : List UInt8 := [0x22, 0x04, 0x00, 0x00, 0x00, 0xEE]

theorem calls_nest_round_trip :
    (booted (.ofSeed 0) callingProgram).callsSince [] [.cycle] = [.call 0x200] ∧
      ((booted (.ofSeed 0) callingProgram).performAll [.cycle]).2.cycle.2.pc = 0x202 := by
  have hempty : (booted (.ofSeed 0) callingProgram).stack = .empty := rfl
  have hpast : (booted (.ofSeed 0) callingProgram).callsSince [] [.cycle] = [.call 0x200] := by
    decide +kernel
  have hcycle : ((booted (.ofSeed 0) callingProgram).performAll [.cycle]).2.cycle.1 =
      .ok .executed := by decide +kernel
  have hword : ((booted (.ofSeed 0) callingProgram).performAll [.cycle]).2.word = 0x00EE := by
    decide +kernel
  obtain ⟨-, -, -, -, hreturn⟩ := calls_nest hempty [.cycle]
  obtain ⟨before, a, inner, hmatch, -, hpc⟩ := hreturn hcycle hword
  have hcall : CallEvent.call a ∈ [CallEvent.call 0x200] := by
    rewrite [← hpast, hmatch]
    exact List.mem_append_right _ List.mem_cons_self
  cases List.mem_singleton.mp hcall
  exact ⟨hpast, hpc⟩

end Vm

end Chip8
