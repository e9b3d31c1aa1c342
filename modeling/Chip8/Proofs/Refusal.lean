import Chip8.Proofs.Threads

/-!
# Calls that are refused

A call that answers with an error leaves the emulator as it was, also where it stops the drivers before
it knows the answer. What the drivers finish in the meantime they would have done without the call.

* `Vm.loadRefusal`, `Vm.fileRefusal`: the programs that are not loaded, with `load_of_refusal`;
* `Reply.isError`, `refusal`, `refusal_iff`: the calls that answer with an error, and which;
* `Action.inBackground`, `SameButLog.act`: what goes on during a call does not read the log;
* **`Shadows`**, `Shadows.step`: a call that is going to be refused, beside an emulator without it;
* `Sent`: drivers that send what they hold change nothing else;
* **`refused_calls_unnoticed`**.
-/

namespace Chip8

namespace Vm

variable {program : List UInt8} {files : FileSystem} {path : String} {error : LoadError}

/-! ## Programs that are not loaded -/

/-- Why a program is not loaded, if it is not. -/
def loadRefusal (program : List UInt8) : Option LoadError :=
  if program.length ≤ maxProgramSize then none else some (.programTooLarge program.length)

/-- Why the program in a file is not loaded, if it is not. -/
def fileRefusal (files : FileSystem) (path : String) : Option LoadError :=
  match files path with
  | .ok program => loadRefusal program
  | .error failure => some (.ofFile path failure)

theorem loadRefusal_eq_some :
    loadRefusal program = some error ↔
      maxProgramSize < program.length ∧ error = .programTooLarge program.length := by
  unfold loadRefusal
  by_cases h : program.length ≤ maxProgramSize
  · simp [h, Nat.not_lt.mpr h]
  · simp [h, Nat.lt_of_not_le h, eq_comm]

theorem load_of_refusal (vm : Vm) (h : loadRefusal program = some error) :
    vm.load program = (.error error, vm) := by
  obtain ⟨hlarge, rfl⟩ := loadRefusal_eq_some.mp h
  exact load_of_too_large vm hlarge

theorem load_of_no_refusal (vm : Vm) (h : loadRefusal program = none) :
    vm.load program = (.ok program.length, vm.loaded program) := by
  have hfits : program.length ≤ maxProgramSize := by simpa [loadRefusal] using h
  rw [load_eq, if_pos hfits]

theorem loadFile_of_refusal (vm : Vm) (h : fileRefusal files path = some error) :
    vm.loadFile files path = (.error error, vm) := by
  rw [fileRefusal] at h
  rw [loadFile]
  cases hpath : files path with
  | ok program =>
    rw [hpath] at h
    exact vm.load_of_refusal h
  | error failure =>
    rw [hpath] at h
    cases h
    rfl

theorem loadFile_of_no_refusal (vm : Vm) (h : fileRefusal files path = none) :
    ∃ size, (vm.loadFile files path).1 = .ok size := by
  rw [fileRefusal] at h
  rw [loadFile]
  cases hpath : files path with
  | ok program =>
    rw [hpath] at h
    exact ⟨program.length, congrArg Prod.fst (vm.load_of_no_refusal h)⟩
  | error failure =>
    rw [hpath] at h
    cases h

theorem load_eq_error_iff (vm : Vm) :
    (vm.load program).1 = .error error ↔
      maxProgramSize < program.length ∧ error = .programTooLarge program.length := by
  rw [← loadRefusal_eq_some]
  cases h : loadRefusal program with
  | none => simp [vm.load_of_no_refusal h]
  | some refusal => simp [vm.load_of_refusal h]

/-- The copy of a program of fitting size has room. -/
theorem copyProgram_hardReset (vm : Vm) (h : program.length ≤ maxProgramSize) :
    (vm.hardReset.copyProgram program).1 = .ok program.length := by
  rw [← load_of_fits vm h, load_eq, if_pos h]

/-- An operation that changes no machine and makes none run. -/
def Operation.IsRefused (op : Operation) : Prop :=
  ∀ vm : Vm, (vm.perform op).1.isAccepted = false ∧ (vm.perform op).2 = vm

theorem isRefused_load (h : loadRefusal program = some error) :
    (Operation.load program).IsRefused := fun vm => by
  rw [perform, vm.load_of_refusal h]
  exact ⟨rfl, rfl⟩

theorem isRefused_loadFile (h : fileRefusal files path = some error) :
    (Operation.loadFile files path).IsRefused := fun vm => by
  rw [perform, vm.loadFile_of_refusal h]
  exact ⟨rfl, rfl⟩

end Vm

namespace Emulator

variable {e g : Emulator} {action : Action} {reply : Reply}

/-! ## Calls that answer with an error -/

/-- The reply is an error. -/
def Reply.isError : Reply → Bool
  | .loaded answer => !answer.isOk
  | .speedSet answer => !answer.isOk
  | .keySet answer => !answer.isOk
  | .done | .frame _ | .fault _ | .beep _ => false

/-- The error that a call answers with on account of its arguments. -/
def refusal : Action → Option Reply
  | .load program => (Vm.loadRefusal program).map fun error => .loaded (.error error)
  | .loadFile files path => (Vm.fileRefusal files path).map fun error => .loaded (.error error)
  | .setSpeed rate => if rate = 0 then some (.speedSet (.error .zeroCycles)) else none
  | .setKey key _ =>
    if key.toNat < keyCount then none else some (.keySet (.error (.keyOutOfRange key)))
  | _ => none

theorem reply_load (e : Emulator) (program : List UInt8) :
    (e.act (.load program)).1 = .loaded (e.vm.load program).1 :=
  congrArg Reply.loaded (answer_reload e (·.load program))

theorem reply_loadFile (e : Emulator) (files : FileSystem) (path : String) :
    (e.act (.loadFile files path)).1 = .loaded (e.vm.loadFile files path).1 :=
  congrArg Reply.loaded (answer_reload e (·.loadFile files path))

theorem isError_load (e : Emulator) (program : List UInt8) :
    (e.act (.load program)).1.isError = (Vm.loadRefusal program).isSome := by
  rw [reply_load]
  cases h : Vm.loadRefusal program with
  | none => rw [e.vm.load_of_no_refusal h]; rfl
  | some error => rw [e.vm.load_of_refusal h]; rfl

theorem isError_loadFile (e : Emulator) (files : FileSystem) (path : String) :
    (e.act (.loadFile files path)).1.isError = (Vm.fileRefusal files path).isSome := by
  rw [reply_loadFile]
  cases h : Vm.fileRefusal files path with
  | none =>
    obtain ⟨size, hsize⟩ := e.vm.loadFile_of_no_refusal h
    rw [hsize]
    rfl
  | some error => rw [e.vm.loadFile_of_refusal h]; rfl

theorem reply_setSpeed (e : Emulator) (rate : UInt32) :
    (e.act (.setSpeed rate)).1 =
      .speedSet (Config.validate { e.config with cyclesPerSecond := rate }) := by
  unfold act setSpeed
  dsimp only
  cases Config.validate { e.config with cyclesPerSecond := rate } <;> rfl

theorem reply_setKey (e : Emulator) (key : UInt8) (down : Bool) :
    (e.act (.setKey key down)).1 =
      .keySet (if key.toNat < keyCount then .ok () else .error (.keyOutOfRange key)) := by
  unfold act setKey Vm.setKey Keypad.setPressed
  by_cases h : key.toNat < 16 <;> simp [h, keyCount]

theorem reply_of_refusal (e : Emulator) (h : refusal action = some reply) :
    reply.isError = true ∧ (e.act action).1 = reply := by
  cases action with
  | load program =>
    obtain ⟨error, herror, rfl⟩ := Option.map_eq_some_iff.mp h
    rw [reply_load, e.vm.load_of_refusal herror]
    exact ⟨rfl, rfl⟩
  | loadFile files path =>
    obtain ⟨error, herror, rfl⟩ := Option.map_eq_some_iff.mp h
    rw [reply_loadFile, e.vm.loadFile_of_refusal herror]
    exact ⟨rfl, rfl⟩
  | setSpeed rate =>
    rw [refusal] at h
    split at h
    · next hzero =>
      cases h
      rw [reply_setSpeed, hzero]
      exact ⟨rfl, rfl⟩
    · cases h
  | setKey key down =>
    rw [refusal] at h
    split at h
    · cases h
    · next hkey =>
      cases h
      rw [reply_setKey, if_neg hkey]
      exact ⟨rfl, rfl⟩
  | _ => cases h

/-- **The calls that answer with an error**, and the error. -/
theorem refusal_iff (htimers : e.config.timersPerSecond ≠ 0) :
    refusal action = some reply ↔ reply.isError = true ∧ (e.act action).1 = reply := by
  refine ⟨e.reply_of_refusal, ?_⟩
  rintro ⟨herror, rfl⟩
  cases hrefusal : refusal action with
  | some reply => rw [(e.reply_of_refusal hrefusal).2]
  | none =>
    -- Nothing is wrong with the arguments, so the answer is no error.
    exfalso
    cases action with
    | load program =>
      have hnone : Vm.loadRefusal program = none := by simpa [refusal] using hrefusal
      rw [isError_load, hnone] at herror
      cases herror
    | loadFile files path =>
      have hnone : Vm.fileRefusal files path = none := by simpa [refusal] using hrefusal
      rw [isError_loadFile, hnone] at herror
      cases herror
    | setSpeed rate =>
      have hrate : rate ≠ 0 := by simpa [refusal] using hrefusal
      have hvalid : Config.validate { e.config with cyclesPerSecond := rate } = .ok () :=
        Config.validate_eq_ok.mpr ⟨hrate, htimers⟩
      rw [reply_setSpeed, hvalid] at herror
      cases herror
    | setKey key down =>
      have hkey : key.toNat < keyCount := by simpa [refusal] using hrefusal
      rw [reply_setKey, if_pos hkey] at herror
      cases herror
    | takeFault =>
      unfold act at herror
      dsimp only at herror
      split at herror <;> cases herror
    | takeBeep =>
      unfold act at herror
      dsimp only at herror
      split at herror <;> cases herror
    | _ => cases herror

/-! ## What goes on during a call -/

/-- Steps of the drivers. -/
def Action.isDriving : Action → Bool
  | .beginCycle | .sendFault | .beginTick | .sendBeep => true
  | _ => false

/-- Steps of the drivers and of whoever reads the queues. -/
def Action.inBackground : Action → Bool
  | .takeFault | .takeBeep => true
  | action => action.isDriving

/-- Control goes on in its call, or something happens in the background. -/
def Move.duringCall : Move → Bool
  | .act action => action.inBackground
  | .proceed => true
  | .refuse => false

/-- The actions among moves. -/
def actions (moves : List Move) : List Action :=
  moves.filterMap fun | .act action => some action | _ => none

theorem SameButLog.join (h : SameButLog g e) : SameButLog { g with drivers := none } e.join := by
  rw [Emulator.join]
  cases hdrivers : e.drivers with
  | none =>
    refine .of_eq e.journal ?_
    rw [h] at hdrivers ⊢
    exact Emulator.ext rfl rfl rfl hdrivers rfl rfl rfl
  | some drivers =>
    refine SameButLog.note (.of_eq e.journal ?_) _
    rw [h]

theorem firstControl_of_inBackground (e : Emulator) (h : action.inBackground = true) :
    e.firstControl action = none := by
  cases action <;> first | rfl | cases h

theorem isStarted_of_inBackground (e : Emulator) (h : action.inBackground = true) :
    (e.act action).2.isStarted = e.isStarted := by
  rw [isStarted_act]
  cases action with
  | beginCycle =>
    rw [mark]
    cases e.cycleFaults <;> rfl
  | sendFault | beginTick | sendBeep | takeFault | takeBeep => rfl
  | _ => cases h

/-- Nothing in the background reads the log. -/
theorem act_journal (g : Emulator) (journal : List LogEntry) (h : action.inBackground = true) :
    ({ g with journal := journal }.act action).2 =
      { (g.act action).2 with journal := journal } := by
  cases action with
  | beginCycle =>
    rcases hdrivers : g.drivers with _ | ⟨_ | fault, beep⟩
    · simp only [act, beginCycle, hdrivers]
    · rcases hcycle : g.vm.cycle with ⟨fault | outcome, after⟩ <;>
        simp only [act, beginCycle, hdrivers, hcycle]
    · simp only [act, beginCycle, hdrivers]
  | sendFault =>
    rcases hdrivers : g.drivers with _ | ⟨_ | fault, beep⟩ <;>
      simp only [act, sendFault, hdrivers]
  | beginTick =>
    rcases hdrivers : g.drivers with _ | ⟨fault, _ | _⟩ <;>
      simp only [act, beginTick, hdrivers]
  | sendBeep =>
    rcases hdrivers : g.drivers with _ | ⟨fault, _ | _⟩ <;>
      simp only [act, sendBeep, hdrivers]
  | takeFault =>
    cases hfaults : g.faults <;> simp only [act, takeFault, hfaults]
  | takeBeep =>
    cases hbeeps : g.beeps <;> simp only [act, takeBeep, hbeeps]
  | _ => cases h

theorem SameButLog.act (hsame : SameButLog g e) (h : action.inBackground = true) :
    SameButLog (g.act action).2 (e.act action).2 := by
  refine .of_eq e.journal ?_
  rw [← act_journal g e.journal h, ← hsame]

/-- Where no drivers run they take no step. -/
theorem act_of_isDriving (hdrivers : e.drivers = none) (h : action.isDriving = true) :
    (e.act action).2 = e := by
  cases action with
  | beginCycle => simp only [act, beginCycle, hdrivers]
  | sendFault => simp only [act, sendFault, hdrivers]
  | beginTick => simp only [act, beginTick, hdrivers]
  | sendBeep => simp only [act, sendBeep, hdrivers]
  | _ => cases h

/-- Readers of the queues do not see whether drivers run. -/
theorem act_of_not_isDriving (g : Emulator) (drivers : Option Drivers)
    (h : action.inBackground = true) (hdriving : action.isDriving = false) :
    ({ g with drivers := drivers }.act action).2 = { (g.act action).2 with drivers := drivers } ∧
      (g.act action).2.drivers = g.drivers := by
  cases action with
  | takeFault =>
    cases hfaults : g.faults <;> simp only [act, takeFault, hfaults, and_self]
  | takeBeep =>
    cases hbeeps : g.beeps <;> simp only [act, takeBeep, hbeeps, and_self]
  | beginCycle | sendFault | beginTick | sendBeep => cases hdriving
  | _ => cases h

/-! ## A call beside an emulator without it -/

/-- **An emulator that is called, beside one that is not**, while the call is on its way to be refused.
Once the drivers have ended, the other emulator has them stand still. -/
inductive Shadows (g : Emulator) : Threads → Prop
  | idle {e : Emulator} (hsame : SameButLog g e) : Shadows g ⟨e, .idle⟩
  | joining {e : Emulator} {op : Vm.Operation} (hop : op.IsRefused) (hsame : SameButLog g e) :
    Shadows g ⟨e, .joining (some (.change op)) g.isStarted⟩
  | working {e : Emulator} {op : Vm.Operation} (hop : op.IsRefused)
      (hstill : g.drivers = none ∨ g.drivers = some {})
      (hsame : SameButLog { g with drivers := none } e) :
    Shadows g ⟨e, .working (.change op) g.isStarted⟩
  | starting {e : Emulator} (hstill : g.drivers = some {})
      (hsame : SameButLog { g with drivers := none } e) :
    Shadows g ⟨e, .starting⟩

namespace Shadows

variable {t : Threads} {m : Move}

/-- What happens in the background happens to both emulators, or changes neither. -/
theorem act (h : Shadows g t) (haction : action.inBackground = true) :
    ∃ steps, steps.Sublist [action] ∧ Shadows (g.actAll steps).2 (t.step (.act action)) := by
  have hfirst := t.emulator.firstControl_of_inBackground haction
  have hstep : t.step (.act action) = { t with emulator := (t.emulator.act action).2 } := by
    rw [Threads.step, hfirst]
  rw [hstep]
  cases h with
  | idle hsame => exact ⟨[action], .refl _, .idle (hsame.act haction)⟩
  | joining hop hsame =>
    have hstarted := g.isStarted_of_inBackground haction
    rw [← hstarted]
    exact ⟨[action], .refl _, .joining hop (hsame.act haction)⟩
  | @working e op hop hstill hsame =>
    cases hdriving : action.isDriving with
    | true =>
      -- The drivers have ended, so their step changes neither emulator.
      have hnone : e.drivers = none := hsame.drivers_eq
      refine ⟨[], List.nil_sublist _, ?_⟩
      dsimp only
      rw [act_of_isDriving hnone hdriving]
      exact .working hop hstill hsame
    | false =>
      have hstarted := g.isStarted_of_inBackground haction
      obtain ⟨hact, hdrivers⟩ := act_of_not_isDriving g none haction hdriving
      have hsame' := hsame.act haction
      rw [hact] at hsame'
      rw [← hstarted]
      exact ⟨[action], .refl _, .working hop (hdrivers ▸ hstill) hsame'⟩
  | @starting e hstill hsame =>
    cases hdriving : action.isDriving with
    | true =>
      have hnone : e.drivers = none := hsame.drivers_eq
      refine ⟨[], List.nil_sublist _, ?_⟩
      dsimp only
      rw [act_of_isDriving hnone hdriving]
      exact .starting hstill hsame
    | false =>
      obtain ⟨hact, hdrivers⟩ := act_of_not_isDriving g none haction hdriving
      have hsame' := hsame.act haction
      rw [hact] at hsame'
      exact ⟨[action], .refl _, .starting (hdrivers ▸ hstill) hsame'⟩

/-- Control goes on without a change to the other emulator. -/
theorem proceed (h : Shadows g t) : Shadows g t.proceed := by
  cases h with
  | idle hsame => exact .idle hsame
  | @joining e op hop hsame =>
    rw [Threads.proceed]
    cases hsettled : e.isSettled with
    | false => exact .joining hop hsame
    | true =>
      exact .working hop (hsame.drivers_eq ▸ drivers_of_isSettled hsettled) hsame.join
  | @working e op hop hstill hsame =>
    obtain ⟨hrefused, hvm⟩ := hop e.vm
    -- The machine is what it was, so the work leaves entries in the log and nothing else.
    have hwork : SameButLog { g with drivers := none } (e.work (.change op)).2 := by
      have hafter : (e.work (.change op)).2 = e.note (e.vm.performLog op) := by
        show { e with vm := (e.vm.perform op).2 }.note _ = _
        rw [hvm]
      rw [hafter]
      exact hsame.note _
    have hproceed : Threads.proceed ⟨e, .working (.change op) g.isStarted⟩ =
        ⟨(e.work (.change op)).2, if g.isStarted then .starting else .idle⟩ := by
      have haccepted : (e.work (.change op)).1 = false := hrefused
      simp only [Threads.proceed, haccepted, Bool.false_or]
    rw [hproceed]
    rcases hstill with hstill | hstill
    · have hstopped : g = { g with drivers := none } := Emulator.ext rfl rfl rfl hstill rfl rfl rfl
      rw [← hstopped] at hwork
      simpa [isStarted, hstill] using Shadows.idle hwork
    · simpa [isStarted, hstill] using Shadows.starting hstill hwork
  | @starting e hstill hsame =>
    have hstart : SameButLog g e.start := by
      have hnone : e.drivers = none := hsame.drivers_eq
      rw [start, hnone]
      refine SameButLog.note (.of_eq e.journal ?_) _
      rw [hsame]
      exact Emulator.ext rfl rfl rfl hstill.symm rfl rfl rfl
    exact .idle hstart

/-- **A step during the call** is a step of the other emulator, or none. -/
theorem step (h : Shadows g t) (hm : m.duringCall = true) :
    ∃ steps, steps.Sublist (actions [m]) ∧ Shadows (g.actAll steps).2 (t.step m) := by
  cases m with
  | act action => exact h.act hm
  | proceed => exact ⟨[], List.nil_sublist _, h.proceed⟩
  | refuse => cases hm

/-- **A run during the call** is one of the other emulator with some of the same actions. -/
theorem run (h : Shadows g t) {moves : List Move} (hmoves : ∀ m ∈ moves, m.duringCall = true) :
    ∃ steps, steps.Sublist (actions moves) ∧ Shadows (g.actAll steps).2 (t.run moves) := by
  induction moves generalizing g t with
  | nil => exact ⟨[], .refl _, h⟩
  | cons m moves ih =>
    obtain ⟨first, hfirst, hstep⟩ := h.step (hmoves m List.mem_cons_self)
    obtain ⟨rest, hrest, hrun⟩ := ih hstep fun m' hmem => hmoves m' (List.mem_cons_of_mem _ hmem)
    refine ⟨first ++ rest, ?_, ?_⟩
    · have happend : actions (m :: moves) = actions [m] ++ actions moves :=
        List.filterMap_append (l := [m])
      rw [happend]
      exact hfirst.append hrest
    · rw [actAll_append]
      exact hrun

end Shadows

theorem Shadows.sameButLog {t : Threads} (h : Shadows g t) (hidle : t.control = .idle) :
    SameButLog g t.emulator := by
  cases h with
  | idle hsame => exact hsame
  | joining | working | starting => cases hidle

theorem setSpeed_of_isError {rate : UInt32} (h : (e.act (.setSpeed rate)).1.isError = true) :
    e.firstControl (.setSpeed rate) = none ∧ (e.act (.setSpeed rate)).2 = e := by
  rw [reply_setSpeed] at h
  cases hvalid : Config.validate { e.config with cyclesPerSecond := rate } with
  | ok =>
    rw [hvalid] at h
    cases h
  | error error =>
    have hfirst : e.firstControl (.setSpeed rate) = none := by simp only [firstControl, hvalid]
    exact ⟨hfirst, setSpeed_of_firstControl hfirst⟩

theorem setKey_of_isError {key : UInt8} {down : Bool}
    (h : (e.act (.setKey key down)).1.isError = true) : (e.act (.setKey key down)).2 = e := by
  rw [reply_setKey] at h
  by_cases hkey : key.toNat < 16
  · rw [if_pos hkey] at h
    cases h
  · simp only [act, setKey, Vm.setKey, Keypad.setPressed, hkey, dite_false, Prod.map_snd, id]

/-- A call that answers with an error begins beside the emulator without it. -/
theorem shadows_begin (h : (e.act action).1.isError = true) :
    Shadows e ((Threads.idle e).step (.act action)) := by
  cases action with
  | load program =>
    rw [isError_load, Option.isSome_iff_exists] at h
    obtain ⟨error, herror⟩ := h
    exact .joining (Vm.isRefused_load herror) rfl
  | loadFile files path =>
    rw [isError_loadFile, Option.isSome_iff_exists] at h
    obtain ⟨error, herror⟩ := h
    exact .joining (Vm.isRefused_loadFile herror) rfl
  | setSpeed rate =>
    obtain ⟨hfirst, hact⟩ := setSpeed_of_isError h
    rw [Threads.step, Threads.idle, hfirst]
    dsimp only
    rw [hact]
    exact .idle rfl
  | setKey key down =>
    have hact := setKey_of_isError h
    rw [Threads.step, Threads.idle]
    dsimp only [firstControl]
    rw [hact]
    exact .idle rfl
  | takeFault =>
    unfold act at h
    dsimp only at h
    split at h <;> cases h
  | takeBeep =>
    unfold act at h
    dsimp only at h
    split at h <;> cases h
  | _ => cases h

/-! ## Drivers that send what they hold -/

/-- **Drivers have sent what they held**, or part of it. -/
structure Sent (e e' : Emulator) : Prop where
  vm : e'.vm = e.vm
  config : e'.config = e.config
  isStarted : e'.isStarted = e.isStarted
  faults : e'.faults ++ e'.unsentFault.toList = e.faults ++ e.unsentFault.toList
  settled : e.isSettled = true → e' = e

theorem Sent.refl (e : Emulator) : Sent e e := ⟨rfl, rfl, rfl, rfl, fun _ => rfl⟩

theorem Sent.trans {e' e'' : Emulator} (h : Sent e e') (h' : Sent e' e'') : Sent e e'' where
  vm := h'.vm.trans h.vm
  config := h'.config.trans h.config
  isStarted := h'.isStarted.trans h.isStarted
  faults := h'.faults.trans h.faults
  settled := by
    intro hsettled
    have hfirst := h.settled hsettled
    rw [hfirst] at h'
    exact h'.settled hsettled

theorem sent_sendFault (e : Emulator) : Sent e e.sendFault := by
  rcases hdrivers : e.drivers with _ | ⟨_ | fault, beep⟩
  case some.some =>
    refine ⟨e.vm_sendFault, ?_, e.isStarted_sendFault, ?_, fun hsettled => ?_⟩
    · simp only [sendFault, hdrivers]
    · simp [sendFault, unsentFault, hdrivers]
    · simp [isSettled, unsentFault, hdrivers] at hsettled
  all_goals
    have hsame : e.sendFault = e := by simp only [sendFault, hdrivers]
    rw [hsame]
    exact .refl e

theorem sent_sendBeep (e : Emulator) : Sent e e.sendBeep := by
  rcases hdrivers : e.drivers with _ | ⟨fault, _ | _⟩
  case some.true =>
    refine ⟨e.vm_sendBeep, ?_, e.isStarted_sendBeep, ?_, fun hsettled => ?_⟩
    · simp only [sendBeep, hdrivers]
    · simp [sendBeep, unsentFault, hdrivers]
    · simp [isSettled, unsentBeep, hdrivers] at hsettled
  all_goals
    have hsame : e.sendBeep = e := by simp only [sendBeep, hdrivers]
    rw [hsame]
    exact .refl e

theorem sent_actAll {steps : List Action} (h : ∀ step ∈ steps, step = .sendFault ∨ step = .sendBeep) :
    Sent e (e.actAll steps).2 := by
  induction steps generalizing e with
  | nil => exact .refl e
  | cons step steps ih =>
    have hrest := fun e' : Emulator => ih (e := e') fun step hmem => h step (List.mem_cons_of_mem _ hmem)
    rw [actAll_cons]
    rcases h step List.mem_cons_self with rfl | rfl
    · exact (sent_sendFault e).trans (hrest _)
    · exact (sent_sendBeep e).trans (hrest _)

/-! ## Refused calls -/

/-- **A call goes unnoticed.** It leaves the machine, the configuration, the drivers and the faults as
they are, and if nothing was left to be sent, all but the log. Whatever the drivers do while it goes on,
they leave behind what they would have without it, as far as they are not stopped. -/
structure Unnoticed (e : Emulator) (action : Action) : Prop where
  vm : (e.act action).2.vm = e.vm
  config : (e.act action).2.config = e.config
  isStarted : (e.act action).2.isStarted = e.isStarted
  /-- The faults that are queued or held; control waits for those held. -/
  faults : (e.act action).2.faults ++ (e.act action).2.unsentFault.toList =
    e.faults ++ e.unsentFault.toList
  settled : e.isSettled = true → SameButLog e (e.act action).2
  interleaved : ∀ moves : List Move, (∀ m ∈ moves, m.duringCall = true) →
    ((Threads.idle e).run (.act action :: moves)).control = .idle →
      ∃ steps, steps.Sublist (actions moves) ∧
        SameButLog (e.actAll steps).2 ((Threads.idle e).run (.act action :: moves)).emulator

theorem uninterrupted_duringCall (e : Emulator) (action : Action) :
    ∃ rest, e.uninterrupted action = .act action :: rest ∧ (∀ m ∈ rest, m.duringCall = true) ∧
      ∀ step ∈ actions rest, step = .sendFault ∨ step = .sendBeep := by
  refine ⟨_, rfl, ?_⟩
  cases e.firstControl action with
  | none => exact ⟨fun m hmem => absurd hmem List.not_mem_nil,
      fun step hmem => absurd hmem List.not_mem_nil⟩
  | some control => cases control <;> simp [Control.rest, Move.duringCall, Action.inBackground,
      Action.isDriving, actions]

theorem unnoticed_of_isError (h : (e.act action).1.isError = true) : Unnoticed e action := by
  have hinterleaved : ∀ moves : List Move, (∀ m ∈ moves, m.duringCall = true) →
      ((Threads.idle e).run (.act action :: moves)).control = .idle →
        ∃ steps, steps.Sublist (actions moves) ∧
          SameButLog (e.actAll steps).2 ((Threads.idle e).run (.act action :: moves)).emulator := by
    intro moves hmoves hidle
    obtain ⟨steps, hsteps, hshadows⟩ := (shadows_begin h).run hmoves
    exact ⟨steps, hsteps, hshadows.sameButLog hidle⟩
  -- The call that nothing comes between: the drivers only send what they hold.
  obtain ⟨rest, huninterrupted, hduring, hsends⟩ := e.uninterrupted_duringCall action
  have hrun := run_uninterrupted e action
  rw [huninterrupted] at hrun
  obtain ⟨steps, hsteps, hsame⟩ := hinterleaved rest hduring (congrArg Threads.control hrun)
  rw [hrun] at hsame
  have hsent : Sent e (e.actAll steps).2 := sent_actAll fun step hmem => hsends step (hsteps.subset hmem)
  have hafter : (e.act action).2 = { (e.actAll steps).2 with journal := (e.act action).2.journal } := hsame
  refine ⟨?_, ?_, ?_, ?_, fun hsettled => ?_, hinterleaved⟩
  · rw [hafter]
    exact hsent.vm
  · rw [hafter]
    exact hsent.config
  · rw [hafter]
    exact hsent.isStarted
  · rw [hafter]
    exact hsent.faults
  · rw [hsent.settled hsettled] at hafter
    exact .of_eq _ hafter

/-- **Refused calls go unnoticed.** A call that answers with an error leaves the emulator as it was,
also when the drivers go on while it takes its steps. The calls that do are the loads of programs that
are too large or cannot be read, a rate of zero, and keys that do not exist. A machine refuses a program
if and only if it is larger than the room for it, always with its size and before anything changes; the
copy after the reset never fails. -/
theorem refused_calls_unnoticed :
    (∀ (e : Emulator) (action : Action), (e.act action).1.isError = true → Unnoticed e action) ∧
    (∀ (e : Emulator) (action : Action) (reply : Reply), e.config.timersPerSecond ≠ 0 →
      (reply.isError = true ∧ (e.act action).1 = reply ↔ refusal action = some reply)) ∧
    ∀ (vm : Vm) (program : List UInt8),
      (∀ error, (vm.load program).1 = .error error ↔
        maxProgramSize < program.length ∧ error = .programTooLarge program.length) ∧
      (maxProgramSize < program.length → (vm.load program).2 = vm) ∧
      (program.length ≤ maxProgramSize →
        (vm.hardReset.copyProgram program).1 = .ok program.length) := by
  refine ⟨fun e action => unnoticed_of_isError, fun e action reply htimers => (refusal_iff htimers).symm,
    fun vm program => ⟨fun error => vm.load_eq_error_iff, fun hlarge => ?_, vm.copyProgram_hardReset⟩⟩
  rw [Vm.load_of_too_large vm hlarge]

/-- A running emulator. -/
def jumping : Emulator where
  vm := .booted (.ofSeed 0) [0x12, 0x00]
  config := {}
  audio := .mute
  drivers := some {}
  faults := []
  beeps := 0
  journal := []

/-- A program of one byte too many is refused, and the drivers go on. -/
theorem refused_calls_unnoticed_large :
    let program : List UInt8 := List.replicate (maxProgramSize + 1) 0
    (jumping.act (.load program)).1 = .loaded (.error (.programTooLarge 3585)) ∧
      (jumping.act (.load program)).2.vm = jumping.vm ∧
      (jumping.act (.load program)).2.isStarted = true := by
  intro program
  obtain ⟨hunnoticed, hcalls, -⟩ := refused_calls_unnoticed
  have hlength : program.length = 3585 := List.length_replicate
  have hlarge : ¬ program.length ≤ maxProgramSize := by
    rw [hlength]
    decide
  have hrefusal : refusal (.load program) = some (.loaded (.error (.programTooLarge 3585))) := by
    rw [refusal, Vm.loadRefusal, if_neg hlarge, hlength]
    rfl
  obtain ⟨herror, hreply⟩ := (hcalls jumping (.load program) _ (by decide)).mpr hrefusal
  have hsame := hunnoticed jumping (.load program) (by rw [hreply]; exact herror)
  exact ⟨hreply, hsame.vm, hsame.isStarted⟩

end Emulator

end Chip8
