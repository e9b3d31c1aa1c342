import Chip8.Proofs.Hidden

/-!
# Rendering and sound

The request to redraw and the sound timer are there for the surroundings: no instruction and no
operation decides anything by them. So a renderer may take frames and set requests where it likes, and
the machine does the same.

* **`SameUnheard`**: machines that differ at most in the request and the sound timer;
* **`Access`**, `Vm.accessAll`: operations, with those of a renderer among them;
* `results`: what the operations answer, beeps apart;
* `accessAll_sameUnheard`: a renderer's part in a run can be left out;
* **`rendering_unnoticed`**: two runs that differ in the renderer's part.
-/

namespace Chip8

open View (Alike)

namespace Vm

variable {vm vm' vm'' : Vm} {op : Operation}

/-! ## What rendering and sound work on -/

/-- **Machines that differ at most in the request to redraw and the sound timer.** -/
def SameUnheard (vm vm' : Vm) : Prop := vm' = { vm with redraw := vm'.redraw, sound := vm'.sound }

namespace SameUnheard

theorem refl (vm : Vm) : SameUnheard vm vm := rfl

theorem symm (h : SameUnheard vm vm') : SameUnheard vm' vm := by
  rw [SameUnheard, h]

theorem trans (h : SameUnheard vm vm') (h' : SameUnheard vm' vm'') : SameUnheard vm vm'' := by
  rw [SameUnheard, h', h]

end SameUnheard

/-- The request to redraw and the sound timer hidden. -/
abbrev output : Hidden := { sound := True, redraw := True }

theorem sameUnheard_iff : SameUnheard vm vm' ↔ Alike output vm.view vm'.view := by
  constructor
  · intro h
    rw [h]
    exact ⟨fun _ _ => rfl, fun _ => rfl, absurd trivial, absurd trivial, fun _ => rfl, rfl⟩
  · intro h
    have hdelay : vm'.delay = vm.delay := h.delay id
    have hstrict : vm'.strict = vm.strict := h.strict id
    have heq := eq_of_alike h fun _ => id
    rwa [hdelay, hstrict] at heq

theorem blind_output (vm : Vm) : vm.Blind output := ⟨fun _ _ => id, nofun, nofun⟩

theorem SameUnheard.setRedraw (h : SameUnheard vm vm') (on : Bool) :
    SameUnheard vm (vm'.setRedraw on) := by
  rw [SameUnheard, Vm.setRedraw, h]

theorem SameUnheard.takeFrame (h : SameUnheard vm vm') : SameUnheard vm vm'.takeFrame.2 := by
  unfold Vm.takeFrame
  split
  · exact h.setRedraw false
  · exact h

/-! ## Operations with a renderer -/

/-- **What is done to a machine that a renderer watches.** -/
inductive Access where
  | perform (op : Operation)
  /-- The renderer takes the pixels of the display, if they may have changed. -/
  | takeFrame

/-- What is done apart from rendering: frames are taken and requests are set by the renderer. -/
def Access.operation? : Access → Option Operation
  | .takeFrame | .perform (.setRedraw _) => none
  | .perform op => some op

/-- **The answers of operations carried out one after the other, and the machine after them.** Frames
go to the renderer. -/
def accessAll (vm : Vm) : List Access → List Answer × Vm
  | [] => ([], vm)
  | .takeFrame :: rest => vm.takeFrame.2.accessAll rest
  | .perform op :: rest =>
    let (answer, vm') := vm.perform op
    let (answers, vm'') := vm'.accessAll rest
    (answer :: answers, vm'')

/-- The answer tells what a cycle did, or whether a program or a key was accepted. -/
def Answer.isResult : Answer → Bool
  | .cycled _ | .loaded _ | .keySet _ => true
  | .done | .ticked _ => false

/-- What cycles, loads and keys answered in a run, oldest first. -/
def results (answers : List Answer) : List Answer := answers.filter Answer.isResult

theorem accessAll_perform (vm : Vm) (op : Operation) (rest : List Access) :
    vm.accessAll (.perform op :: rest) =
      ((vm.perform op).1 :: ((vm.perform op).2.accessAll rest).1,
        ((vm.perform op).2.accessAll rest).2) := rfl

/-- An operation does the same and has the same result. -/
theorem perform_sameUnheard (h : SameUnheard vm vm') (op : Operation) :
    results [(vm'.perform op).1] = results [(vm.perform op).1] ∧
      SameUnheard (vm.perform op).2 (vm'.perform op).2 := by
  obtain ⟨hanswer, halike⟩ := perform_alike (sameUnheard_iff.mp h) op fun _ => vm.blind_output
  refine ⟨?_, sameUnheard_iff.mpr halike⟩
  cases op with
  | tick => rfl
  | _ => rw [hanswer fun _ => nofun]

theorem results_cons (answer : Answer) (answers : List Answer) :
    results (answer :: answers) = results [answer] ++ results answers :=
  List.filter_append [answer] answers

/-- **What a renderer does can be left out**: the operations of the others have the same results. -/
theorem accessAll_sameUnheard (h : SameUnheard vm vm') (calls : List Access) :
    results (vm'.accessAll calls).1 =
        results (vm.performAll (calls.filterMap Access.operation?)).1 ∧
      SameUnheard (vm.performAll (calls.filterMap Access.operation?)).2 (vm'.accessAll calls).2 := by
  induction calls generalizing vm vm' with
  | nil => exact ⟨rfl, h⟩
  | cons call calls ih =>
    cases hcall : call.operation? with
    | none =>
      -- The renderer's turn: the other run stays where it is.
      rw [List.filterMap_cons_none hcall]
      cases call with
      | takeFrame => exact ih h.takeFrame
      | perform op =>
        cases op with
        | setRedraw on => exact ih (h.setRedraw on)
        | _ => cases hcall
    | some op =>
      rw [List.filterMap_cons_some hcall]
      have hperform : call = .perform op := by
        cases call with
        | takeFrame => cases hcall
        | perform op' => cases op' <;> cases hcall <;> rfl
      obtain ⟨hresult, hsame⟩ := perform_sameUnheard h op
      obtain ⟨hresults, hafter⟩ := ih hsame
      rw [hperform, accessAll_perform, performAll_cons, results_cons, hresult, hresults,
        ← results_cons]
      exact ⟨rfl, hafter⟩

/-- **Rendering and sound go unnoticed.** Take machines that differ at most in the request to redraw
and the sound timer, and runs that differ at most in where a renderer takes frames and sets requests.
All cycles, loads and keys have the same results in both, and the machines after them again differ at
most in the request and the sound timer. -/
theorem rendering_unnoticed (h : SameUnheard vm vm') {calls calls' : List Access}
    (hcommon : calls'.filterMap Access.operation? = calls.filterMap Access.operation?) :
    results (vm'.accessAll calls').1 = results (vm.accessAll calls).1 ∧
      SameUnheard (vm.accessAll calls).2 (vm'.accessAll calls').2 := by
  obtain ⟨hresults, hsame⟩ := accessAll_sameUnheard (SameUnheard.refl vm) calls
  obtain ⟨hresults', hsame'⟩ := accessAll_sameUnheard h calls'
  rw [hcommon] at hresults' hsame'
  exact ⟨hresults'.trans hresults.symm, hsame.symm.trans hsame'⟩

/-- Jumps to itself for ever. -/
def jumping : Vm := booted (.ofSeed 0) [0x12, 0x00]

/-- A frame taken from a machine that is about to beep changes nothing for a cycle and a tick. -/
theorem rendering_unnoticed_jumping :
    results ({ jumping with sound := 1 }.accessAll
        [.perform .cycle, .takeFrame, .perform .tick, .perform (.setRedraw true)]).1 =
        [.cycled (.ok .executed)] ∧
      SameUnheard (jumping.accessAll [.perform .cycle, .perform .tick]).2
        ({ jumping with sound := 1 }.accessAll
          [.perform .cycle, .takeFrame, .perform .tick, .perform (.setRedraw true)]).2 := by
  have hsame : SameUnheard jumping { jumping with sound := 1 } := rfl
  have hcommon :
      [Access.perform .cycle, .takeFrame, .perform .tick, .perform (.setRedraw true)].filterMap
          Access.operation? =
        [Access.perform .cycle, .perform .tick].filterMap Access.operation? := rfl
  obtain ⟨hresults, hafter⟩ := rendering_unnoticed hsame hcommon
  have hexecuted : jumping.cycle.1 = .ok .executed := by decide +kernel
  refine ⟨hresults.trans ?_, hafter⟩
  rewrite [accessAll_perform, perform, Prod.map_fst, hexecuted]
  generalize (jumping.cycle.map Answer.cycled id).2 = after
  rfl

end Vm

end Chip8
