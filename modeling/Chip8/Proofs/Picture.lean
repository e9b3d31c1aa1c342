import Chip8.Proofs.Action
import Chip8.Proofs.Run
import Chip8.Session

/-!
# The picture on the screen

A display that differs from the picture on the screen is asked to be drawn again, or a frame is still on
its way: nothing that changes the display forgets to ask for it.

* `Vm.AsksFor`: the display did not change without a request to redraw, with `asksFor_perform`;
* `Screen.receiveAll`: the screen after the messages sent to it;
* `Terminal`, `Terminal.run`: a session and its screen, and what happens to them;
* `Terminal.Current`: the invariant, kept by each event;
* **`picture_current`**: a picture that nothing is asked or on its way for is the display.
-/

namespace Chip8

/-! ## Requests to redraw -/

namespace Vm

variable {vm vm' : Vm}

/-- **The display changed only with a request to redraw**, which is still there. -/
def AsksFor (vm vm' : Vm) : Prop :=
  vm'.redraw = false → vm.redraw = false ∧ vm'.display = vm.display

theorem AsksFor.of_redraw (h : vm'.redraw = true) : AsksFor vm vm' :=
  fun hredraw => absurd (h.symm.trans hredraw) nofun

theorem AsksFor.of_eq (hredraw : vm'.redraw = vm.redraw) (hdisplay : vm'.display = vm.display) :
    AsksFor vm vm' := fun h => ⟨hredraw.symm.trans h, hdisplay⟩

theorem asksFor_cycle (vm : Vm) : AsksFor vm vm.cycle.2 := by
  rcases hcycle : vm.cycle with ⟨answer, after⟩
  cases cycle_eq_iff.mp hcycle with
  | idle hrun => exact .of_eq rfl rfl
  | faulted hrun hfault => exact .of_eq rfl rfl
  | moved hrun hpc ht =>
    intro hredraw
    obtain ⟨hbefore, hlit⟩ := ht.lit_eq hredraw
    exact ⟨hbefore, Display.ext_lit fun p => congrFun hlit p⟩

/-- **No operation changes the display without a request to redraw**, but the requests can be cleared. -/
theorem asksFor_perform (vm : Vm) {op : Operation} (hop : op ≠ .setRedraw false) :
    AsksFor vm (vm.perform op).2 := by
  have hperformed := vm.performed op
  generalize (vm.perform op).2 = after at hperformed ⊢
  cases hperformed with
  | cycle => exact asksFor_cycle vm
  | loaded | softReset | hardReset => exact .of_redraw rfl
  | setRedraw on =>
    cases on with
    | false => exact absurd rfl hop
    | true => exact .of_redraw rfl
  | _ => exact .of_eq rfl rfl

end Vm

namespace Emulator

theorem eq_takeFrame_of_operation {e : Emulator} {action : Action}
    (h : e.operation action = some (.setRedraw false)) : action = .takeFrame := by
  cases action with
  | takeFrame => rfl
  | beginCycle | beginTick =>
    rw [operation] at h
    split at h <;> cases h
  | _ => cases h

theorem asksFor_act (e : Emulator) (action : Action) (haction : action ≠ .takeFrame) :
    e.vm.AsksFor (e.act action).2.vm := by
  rw [vm_act]
  cases hop : e.operation action with
  | none => exact .of_eq rfl rfl
  | some op =>
    refine Vm.asksFor_perform e.vm fun hclear => ?_
    subst hclear
    exact haction (eq_takeFrame_of_operation hop)

end Emulator

/-! ## Messages -/

namespace Screen

/-- A message arrives; frames are put on the screen. -/
def receive (s : Screen) : InterfaceMessage → Screen
  | .frame pixels => s.display pixels
  | .status _ => s

/-- **Messages arrive**, the oldest first. -/
def receiveAll (s : Screen) (messages : List InterfaceMessage) : Screen := messages.foldl receive s

theorem receiveAll_append (s : Screen) (messages later : List InterfaceMessage) :
    s.receiveAll (messages ++ later) = (s.receiveAll messages).receiveAll later :=
  List.foldl_append

theorem receiveAll_of_no_frame (s : Screen) {messages : List InterfaceMessage}
    (h : ∀ pixels, .frame pixels ∉ messages) : s.receiveAll messages = s := by
  induction messages with
  | nil => rfl
  | cons message messages ih =>
    cases message with
    | frame pixels => exact absurd List.mem_cons_self (h pixels)
    | status text => exact ih fun pixels hmem => h pixels (List.mem_cons_of_mem _ hmem)

theorem pixels_receive_frame (s : Screen) (pixels : Vector Bool pixelCount) :
    (s.receive (.frame pixels.toArray)).pixels = pixels := by
  rw [receive, display, dif_pos pixels.size_toArray]

end Screen

/-! ## Sessions -/

namespace Session

variable {s s' s'' : Session}

/-- **A session went on without a frame**, and the display changed only with a request to redraw. -/
structure Quiet (s s' : Session) : Prop where
  connected : s'.connected = s.connected
  asks : s.emulator.vm.AsksFor s'.emulator.vm
  outbox : ∃ texts : List String, s'.outbox = s.outbox ++ texts.map .status

theorem Quiet.trans (h : Quiet s s') (h' : Quiet s' s'') : Quiet s s'' := by
  obtain ⟨texts, htexts⟩ := h.outbox
  obtain ⟨texts', htexts'⟩ := h'.outbox
  refine ⟨h'.connected.trans h.connected, fun hredraw => ?_, texts ++ texts', ?_⟩
  · obtain ⟨hredraw', hdisplay'⟩ := h'.asks hredraw
    obtain ⟨hbefore, hdisplay⟩ := h.asks hredraw'
    exact ⟨hbefore, hdisplay'.trans hdisplay⟩
  · rw [htexts', htexts, List.map_append, List.append_assoc]

theorem quiet_emulator (s : Session) {e : Emulator} (h : s.emulator.vm.AsksFor e.vm) :
    Quiet s { s with emulator := e } := ⟨rfl, h, [], (List.append_nil _).symm⟩

theorem quiet_note (s : Session) (entries : List LogEntry) : Quiet s (s.note entries) :=
  s.quiet_emulator (.of_eq rfl rfl)

theorem quiet_report (s : Session) (message : String) : Quiet s (s.report message) := by
  cases hconnected : s.connected with
  | true =>
    simp only [report, sendStatus, send, hconnected, if_true]
    exact ⟨hconnected.symm, .of_eq rfl rfl, [_], rfl⟩
  | false =>
    simp only [report, sendStatus, send, hconnected, Bool.false_eq_true, if_false]
    exact s.quiet_note _

theorem quiet_changeSpeed (s : Session) (rate : UInt32) : Quiet s (s.changeSpeed rate) := by
  have hasks : s.emulator.vm.AsksFor (s.emulator.setSpeed rate).2.vm :=
    s.emulator.asksFor_act (.setSpeed rate) nofun
  unfold changeSpeed
  rcases hset : s.emulator.setSpeed rate with ⟨error | ok, emulator⟩
  · rw [hset] at hasks
    exact (s.quiet_emulator hasks).trans (quiet_note _ _)
  · rw [hset] at hasks
    exact ((s.quiet_emulator hasks).trans (quiet_note _ _)).trans (quiet_report _ _)

theorem quiet_pressKey (s : Session) (key : UInt8) : Quiet s (s.pressKey key) := by
  have hasks : s.emulator.vm.AsksFor (s.emulator.setKey key true).2.vm :=
    s.emulator.asksFor_act (.setKey key true) nofun
  unfold pressKey
  rcases hset : s.emulator.setKey key true with ⟨fault | ok, emulator⟩
  · rw [hset] at hasks
    exact (s.quiet_emulator hasks).trans (quiet_note _ _)
  · rw [hset] at hasks
    exact s.quiet_emulator hasks

/-- **What the user asks for is quiet.** -/
theorem quiet_handle (s : Session) (event : UserEvent) : Quiet s (s.handle event).2 := by
  cases event with
  | key key => exact s.quiet_pressKey key
  | releaseKeys => exact s.quiet_emulator (.of_eq rfl rfl)
  | speedUp | slowDown => exact s.quiet_changeSpeed _
  | reset =>
    have hreset : s.emulator.vm.AsksFor s.emulator.softReset.vm :=
      s.emulator.asksFor_act .softReset nofun
    exact (s.quiet_emulator hreset).trans (quiet_report _ _)
  | stop =>
    have hreset : s.emulator.vm.AsksFor s.emulator.hardReset.vm :=
      s.emulator.asksFor_act .hardReset nofun
    exact (s.quiet_emulator hreset).trans (quiet_report _ _)
  | quit => exact s.quiet_emulator (.of_eq rfl rfl)

/-- A redraw that was asked for sends the display as a frame. -/
theorem refresh_of_redraw (hconnected : s.connected = true)
    (hredraw : s.emulator.vm.redraw = true) : s.refresh = (true, { s with
      emulator := { s.emulator with vm := s.emulator.vm.setRedraw false }
      outbox := s.outbox ++ [.frame s.emulator.vm.display.pixels.toArray] }) := by
  rw [refresh, Emulator.takeFrame_eq, hredraw]
  exact if_pos hconnected

end Session

/-! ## Sessions and screens -/

/-- A session, and the screen that its messages arrive at. -/
structure Terminal where
  session : Session
  screen : Screen

namespace Terminal

/-- **What happens to a session and its screen.** -/
inductive Event where
  /-- A call of control, or a step of a driver. -/
  | act (action : Emulator.Action)
  /-- The user asks for something. -/
  | handle (event : UserEvent)
  /-- A frame is sent if the display may have changed. -/
  | refresh
  /-- The oldest message arrives. -/
  | deliver

def step (t : Terminal) : Event → Terminal
  | .act action =>
    { t with session := { t.session with emulator := (t.session.emulator.act action).2 } }
  | .handle event => { t with session := (t.session.handle event).2 }
  | .refresh => { t with session := t.session.refresh.2 }
  | .deliver =>
    match t.session.outbox with
    | [] => t
    | message :: rest => ⟨{ t.session with outbox := rest }, t.screen.receive message⟩

def run (t : Terminal) (events : List Event) : Terminal := events.foldl step t

/-- A new session with a blank screen. -/
def attach (e : Emulator) : Terminal := ⟨.attach e, .blank⟩

/-! ## The invariant -/

/-- **The picture is current** once the messages have arrived, unless a redraw is asked for. -/
structure Current (t : Terminal) : Prop where
  connected : t.session.connected = true
  sized : ∀ pixels, .frame pixels ∈ t.session.outbox → pixels.size = 2048
  shown : t.session.emulator.vm.redraw = false →
    (t.screen.receiveAll t.session.outbox).pixels = t.session.emulator.vm.display.pixels

variable {t : Terminal}

theorem Current.of_quiet (h : t.Current) {s : Session} (hquiet : t.session.Quiet s) :
    Current { t with session := s } := by
  obtain ⟨texts, htexts⟩ := hquiet.outbox
  refine ⟨hquiet.connected.trans h.connected, fun pixels hmem => ?_, fun hredraw => ?_⟩
  · refine h.sized pixels ?_
    simpa [htexts] using hmem
  · obtain ⟨hbefore, hdisplay⟩ := hquiet.asks hredraw
    -- The texts arrive after the frames and do not show.
    have hnone : ∀ pixels, .frame pixels ∉ texts.map InterfaceMessage.status := by simp
    rw [htexts, hdisplay, Screen.receiveAll_append, Screen.receiveAll_of_no_frame _ hnone]
    exact h.shown hbefore

theorem Current.refresh (h : t.Current) : (t.step .refresh).Current := by
  have hconnected := h.connected
  cases hredraw : t.session.emulator.vm.redraw with
  | false =>
    have hsame : t.session.refresh.2 = t.session := by
      simp [Session.refresh, Emulator.takeFrame, Vm.takeFrame, hredraw]
    rw [step, hsame]
    exact h
  | true =>
    rw [step, Session.refresh_of_redraw hconnected hredraw]
    refine ⟨hconnected, fun pixels hmem => ?_, fun _ => ?_⟩
    · rcases List.mem_append.mp hmem with hbefore | hlast
      · exact h.sized pixels hbefore
      · cases List.mem_singleton.mp hlast
        exact Vector.size_toArray _
    · -- The frame is the last message, whatever arrives before it.
      refine (congrArg Screen.pixels (Screen.receiveAll_append ..)).trans ?_
      exact Screen.pixels_receive_frame _ _

theorem Current.deliver (h : t.Current) : (t.step .deliver).Current := by
  rw [step]
  cases houtbox : t.session.outbox with
  | nil => exact h
  | cons message rest =>
    have hsized := h.sized
    have hshown := h.shown
    rw [houtbox] at hsized hshown
    exact ⟨h.connected, fun pixels hmem => hsized pixels (List.mem_cons_of_mem _ hmem), hshown⟩

theorem Current.step (h : t.Current) {event : Event} (hevent : event ≠ .act .takeFrame) :
    (t.step event).Current := by
  cases event with
  | act action =>
    refine h.of_quiet (t.session.quiet_emulator ?_)
    exact t.session.emulator.asksFor_act action fun htake => hevent (htake ▸ rfl)
  | handle event => exact h.of_quiet (t.session.quiet_handle event)
  | refresh => exact h.refresh
  | deliver => exact h.deliver

theorem Current.run (h : t.Current) {events : List Event} (hevents : .act .takeFrame ∉ events) :
    (t.run events).Current := by
  induction events generalizing t with
  | nil => exact h
  | cons event events ih =>
    rw [List.mem_cons, not_or] at hevents
    exact ih (h.step fun heq => hevents.1 heq.symm) hevents.2

theorem current_attach {random : RandomSource} {config : Config} {audio : Audio} {e : Emulator}
    (h : Emulator.create (.fresh random) config audio = .ok e) : (attach e).Current := by
  refine ⟨rfl, nofun, fun _ => ?_⟩
  have hblank : e.vm.display = .blank := by rw [Emulator.create_eq_ok h]; rfl
  exact (congrArg Display.pixels hblank).symm

/-- **The picture is current.** In every run of an emulator around a fresh machine with a screen, in
which only refreshes take frames, the screen shows the display whenever no redraw is asked for and all
frames have arrived. Every frame is of the size of the screen. -/
theorem picture_current {random : RandomSource} {config : Config} {audio : Audio} {e : Emulator}
    (hcreate : Emulator.create (.fresh random) config audio = .ok e) {events : List Event}
    (honly : .act .takeFrame ∉ events) :
    let now := (attach e).run events
    (now.session.emulator.vm.redraw = false → (∀ pixels, .frame pixels ∉ now.session.outbox) →
      now.screen.pixels = now.session.emulator.vm.display.pixels) ∧
    ∀ pixels, .frame pixels ∈ now.session.outbox → pixels.size = 2048 ∧
      Screen.displayLog pixels = [] ∧ (∀ s : Screen, (s.display pixels).pixels.toArray = pixels) ∧
      ∀ p : Pixel, p.index.val < pixels.size := by
  intro now
  have hcurrent : now.Current := (current_attach hcreate).run honly
  refine ⟨fun hredraw harrived => ?_, fun pixels hmem => ?_⟩
  · rw [← hcurrent.shown hredraw, Screen.receiveAll_of_no_frame _ harrived]
  · have hsize := hcurrent.sized pixels hmem
    refine ⟨hsize, if_pos hsize, fun s => Screen.pixels_display hsize, fun p => ?_⟩
    rw [hsize]
    exact p.index.isLt

/-- Draws the top row of the digit 0 into the upper left corner. -/
def barProgram : List UInt8 := [0xD0, 0x01]

/-- An emulator that has just drawn the row. -/
def drawing : Emulator where
  vm := (Vm.booted (.ofSeed 0) barProgram).cycle.2
  config := {}
  audio := .mute
  drivers := some {}
  faults := []
  beeps := 0
  journal := [.reset, .loadedProgram 2, .startedDrivers 500 60]

theorem run_drawing {e : Emulator} (h : Emulator.create (.fresh (.ofSeed 0)) {} .mute = .ok e) :
    (attach e).run [.act (.load barProgram), .act .beginCycle] = attach drawing := by
  let made : Emulator := ⟨.fresh (.ofSeed 0), {}, .mute, none, [], 0, []⟩
  have he : e = made := Emulator.create_eq_ok h
  have hload := Emulator.load_of_stopped (e := made) rfl
    (Vm.load_fresh (.ofSeed 0) (show barProgram.length ≤ maxProgramSize by decide))
  have hcycle : (Vm.booted (.ofSeed 0) barProgram).cycle.1 = .ok .executed := by decide +kernel
  have hdrawing : (e.load barProgram).2.beginCycle = drawing := by
    rw [he, hload]
    exact Emulator.beginCycle_of_ok rfl hcycle
  exact congrArg attach hdrawing

/-- A program draws a row. The screen stays blank until the frame arrives, and shows the row then. -/
theorem picture_current_after_draw :
    ∃ e : Emulator, Emulator.create (.fresh (.ofSeed 0)) {} .mute = .ok e ∧
      let drawn := (attach e).run [.act (.load barProgram), .act .beginCycle]
      let now := (attach e).run [.act (.load barProgram), .act .beginCycle, .refresh, .deliver]
      drawn.screen.pixels.get (Pixel.index ⟨3, 0⟩) = false ∧
        drawn.session.emulator.vm.display.lit ⟨3, 0⟩ = true ∧
        now.screen.pixels = now.session.emulator.vm.display.pixels ∧
        now.screen.pixels.get (Pixel.index ⟨3, 0⟩) = true ∧
        now.screen.pixels.get (Pixel.index ⟨4, 0⟩) = false := by
  obtain ⟨e, hcreate⟩ : ∃ e, Emulator.create (.fresh (.ofSeed 0)) {} .mute = .ok e := ⟨_, rfl⟩
  refine ⟨e, hcreate, ?_⟩
  intro drawn now
  have hdrawn : drawn = attach drawing := run_drawing hcreate
  have hasked : drawing.vm.redraw = true := by decide +kernel
  have hsent := Session.refresh_of_redraw (s := .attach drawing) rfl hasked
  have hsession : now.session = ⟨{ drawing with vm := drawing.vm.setRedraw false }, true, []⟩ := by
    change ((drawn.step .refresh).step .deliver).session = _
    rw [hdrawn, attach, step, hsent]
    rfl
  have honly : .act .takeFrame ∉
      [Event.act (.load barProgram), .act .beginCycle, .refresh, .deliver] := by simp
  obtain ⟨hshown, -⟩ := picture_current hcreate honly
  have hpixels : now.screen.pixels = now.session.emulator.vm.display.pixels := by
    refine hshown (congrArg (·.emulator.vm.redraw) hsession) fun pixels => ?_
    rw [show now.session.outbox = [] from congrArg (·.outbox) hsession]
    exact List.not_mem_nil
  have hkept (vm : Vm) : (vm.setRedraw false).display = vm.display := rfl
  have hscreen : now.screen.pixels = drawing.vm.display.pixels := by
    rewrite [hpixels, hsession]
    exact congrArg Display.pixels (hkept drawing.vm)
  refine ⟨?_, ?_, hpixels, ?_⟩
  · rw [hdrawn]
    decide +kernel
  · rw [hdrawn]
    decide +kernel
  · rw [hscreen]
    decide +kernel

end Terminal

end Chip8
