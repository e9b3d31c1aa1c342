import Chip8.EventLoop
import Chip8.Proofs.Refusal
import Chip8.Proofs.Stopped

/-!
# Schedules of the event loop

The loop chooses among the branches that are ready, the drivers and the interface go on between its
turns, and nothing says in which order. Whatever the order, events are handled one after the other as
they were sent, until one is to quit or no more will come, and only they change what the machine does.

* `EventLoop.Move`, **`EventLoop.run`**: the loop, the drivers and the interface in any order;
* `EventLoop.Exit`, `EventLoop.Occurrence`, **`EventLoop.history`**: what happens to events, and the end
  of the loop;
* `EventLoop.spared`, **`turned`**: all that a turn can do, with `turn_handles`, `turn_spares`;
* `Followed`: what a schedule does to the queue of events and to the stages of the loop;
* `Emulator.Agrees`: emulators with the same machine, redraws apart, and the same configuration;
* **`schedule_independent`**.
-/

namespace Chip8

open Emulator (SameButLog)

namespace EventLoop

/-- Why a loop leaves. -/
inductive Exit where
  | quit
  /-- No more events will come, and all are taken. -/
  | closed
  /-- The interface does not take a frame. -/
  | interfaceGone
  deriving DecidableEq, Repr

/-- **A move of the loop, of a driver or of the surroundings.** -/
inductive Move where
  | turn (branch : Branch)
  | windDown
  /-- A driver takes a step. -/
  | drive (action : Emulator.Action)
  /-- The interface sends an event, unless it has hung up. -/
  | forward (event : UserEvent)
  | hangUp
  /-- The interface takes the messages that it was sent. -/
  | takeMessages
  /-- The interface is gone. -/
  | close
  /-- Nobody waits any more to be told that the loop has shut down. -/
  | stopListening
  /-- Beeps come from nowhere else than the machine. -/
  | closeBeeps

/-- What a move does. Moves that are not possible do nothing. -/
def move (l : EventLoop) : Move → EventLoop
  | .turn branch => l.turn branch
  | .windDown => l.windDown
  | .drive action =>
    if action.isDriving then
      { l with session := { l.session with emulator := (l.session.emulator.act action).2 } }
    else l
  | .forward event => if l.eventsOpen then (l.forward event).2 else l
  | .hangUp => l.hangUp
  | .takeMessages => { l with session := l.session.takeMessages.2 }
  | .close => { l with session := l.session.close }
  | .stopListening => { l with listened := false }
  | .closeBeeps => { l with beepsOpen := l.session.emulator.audio == .queue }

/-- **A run**, by the moves that are made. -/
def run (l : EventLoop) : List Move → EventLoop
  | [] => l
  | m :: moves => (l.move m).run moves

/-- A step of the loop is a turn with the end of the loop, if it leaves, straight after it. -/
theorem run_step (l : EventLoop) (branch : Branch) :
    l.run [.turn branch, .windDown, .windDown] = l.step branch := rfl

/-! ## What happens in a run -/

/-- **What happens to events, and the end of the loop.** -/
inductive Occurrence where
  | sent (event : UserEvent)
  | handled (event : UserEvent)
  | left (why : Exit)
  | driversStopped
  /-- The loop tells that it has shut down, and somebody waits for it or not. -/
  | told (heard : Bool)
  deriving DecidableEq, Repr

/-- The event that a turn handles. -/
def taken (l : EventLoop) : Branch → Option UserEvent
  | .event => l.events.head?
  | _ => none

/-- Why the loop leaves in a turn, if it does. -/
def exit (l : EventLoop) : Branch → Option Exit
  | .event =>
    match l.events with
    | [] => if l.eventsOpen then none else some .closed
    | event :: _ => if event = .quit then some .quit else none
  | .refresh =>
    if l.session.emulator.vm.redraw && !l.session.connected then some .interfaceGone else none
  | .fault | .beep => none

/-- What happens in a turn. -/
def turnOccurred (l : EventLoop) (branch : Branch) : List Occurrence :=
  (l.taken branch).toList.map .handled ++ (l.exit branch).toList.map .left

/-- What happens in a move. -/
def occurred (l : EventLoop) : Move → List Occurrence
  | .turn branch => if l.stage = .looping then l.turnOccurred branch else []
  | .windDown =>
    match l.stage with
    | .leaving => [.driversStopped]
    | .stopped => [.told l.listened]
    | _ => []
  | .forward event => if l.eventsOpen && l.running then [.sent event] else []
  | _ => []

/-- **What happens in a run**, oldest first. -/
def history (l : EventLoop) : List Move → List Occurrence
  | [] => []
  | m :: moves => l.occurred m ++ (l.move m).history moves

/-- The events that were sent, oldest first; so are those handled. -/
def sent (past : List Occurrence) : List UserEvent :=
  past.filterMap fun | .sent event => some event | _ => none

def handled (past : List Occurrence) : List UserEvent :=
  past.filterMap fun | .handled event => some event | _ => none

/-- The end of the loop, as far as it has come. -/
def course (past : List Occurrence) : List Occurrence :=
  past.filter fun | .left _ | .driversStopped | .told _ => true | _ => false

/-- The end of the loop as it should be, up to a stage. -/
def ending (why : Exit) (heard : Bool) : Stage → List Occurrence
  | .looping => []
  | .leaving => [.left why]
  | .stopped => [.left why, .driversStopped]
  | .ended => [.left why, .driversStopped, .told heard]

@[simp]
theorem sent_append (past later : List Occurrence) :
    sent (past ++ later) = sent past ++ sent later := List.filterMap_append

@[simp]
theorem handled_append (past later : List Occurrence) :
    handled (past ++ later) = handled past ++ handled later := List.filterMap_append

@[simp]
theorem course_append (past later : List Occurrence) :
    course (past ++ later) = course past ++ course later := List.filter_append past later

theorem mem_course {past : List Occurrence} {why : Exit} :
    .left why ∈ course past ↔ .left why ∈ past := by
  simp [course]

/-! ## Turns -/

variable {l l' : EventLoop} {branch : Branch} {past : List Occurrence}

/-- What a branch without an event leaves of an emulator, its log apart: a frame is taken, and the oldest
fault or a beep. -/
def spared (e : Emulator) : Branch → Emulator
  | .event => e
  | .refresh => { e with vm := e.vm.setRedraw false }
  | .fault => { e with faults := e.faults.tail }
  | .beep => { e with beeps := e.beeps - 1 }

/-- **All that a turn can do**, with what happens in it. -/
inductive Turned (l : EventLoop) : Branch → List Occurrence → EventLoop → Prop
  | idle {branch : Branch} (h : l.stage = .looping → branch = .event ∧ l.events = []) :
    Turned l branch [] l
  | handled (hstage : l.stage = .looping) {event : UserEvent} {rest : List UserEvent}
    (h : l.events = event :: rest) (hquit : event ≠ .quit) :
    Turned l .event [.handled event]
      { l with events := rest, session := (l.session.handle event).2 }
  | quit (hstage : l.stage = .looping) {rest : List UserEvent} (h : l.events = .quit :: rest) :
    Turned l .event [.handled .quit, .left .quit] { l with events := rest, stage := .leaving }
  | closed (hstage : l.stage = .looping) (h : l.events = []) (hclosed : l.eventsOpen = false) :
    Turned l .event [.left .closed] { l with stage := .leaving }
  | quiet {branch : Branch} (hbranch : branch ≠ .event) {session : Session}
    (h : SameButLog (spared l.session.emulator branch) session.emulator) :
    Turned l branch [] { l with session := session }
  | gone (hstage : l.stage = .looping) {session : Session}
    (h : SameButLog (spared l.session.emulator .refresh) session.emulator) :
    Turned l .refresh [.left .interfaceGone] { l with session := session, stage := .leaving }

theorem turned_event (hstage : l.stage = .looping) :
    Turned l .event (l.turnOccurred .event) l.takeEvent := by
  rw [turnOccurred, taken, exit, takeEvent]
  cases hevents : l.events with
  | nil =>
    cases hopen : l.eventsOpen with
    | true => exact .idle fun _ => ⟨rfl, hevents⟩
    | false => exact .closed hstage hevents hopen
  | cons event rest =>
    by_cases hquit : event = .quit
    · subst hquit
      exact .quit hstage hevents
    · dsimp only
      rw [if_neg hquit, continueIf, l.session.answer_handle hquit, if_pos rfl]
      exact .handled hstage hevents hquit

theorem turned_refresh (hstage : l.stage = .looping) :
    Turned l .refresh (l.turnOccurred .refresh) l.sendFrame := by
  have hrefresh : Branch.refresh ≠ .event := by decide
  rw [turnOccurred, exit, sendFrame, Session.refresh, Emulator.takeFrame_eq]
  cases l.session.emulator.vm.redraw with
  | false => exact .quiet hrefresh (.refl _)
  | true =>
    simp only [if_true, Bool.true_and, Session.send]
    cases l.session.connected with
    | true => exact .quiet hrefresh (.refl _)
    | false => exact .gone hstage (.refl _)

/-- A report changes no more than the log. -/
theorem turned_report (l : EventLoop) (hbranch : branch ≠ .event) (message : String) :
    Turned l branch [] { l with
      session := { l.session with emulator := spared l.session.emulator branch }.report message } :=
  .quiet hbranch (Session.sameButLog_report { l.session with emulator := _ } message)

/-- A branch that is not ready has nothing to take. -/
theorem spared_of_not_ready (h : l.ready branch = false) :
    spared l.session.emulator branch = l.session.emulator := by
  cases branch with
  | event => rfl
  | refresh => cases h
  | fault =>
    have hfaults : l.session.emulator.faults = [] := by simpa [ready] using h
    rw [spared, hfaults, List.tail_nil, ← hfaults]
  | beep =>
    have hbeeps : l.session.emulator.beeps = 0 := by
      simp only [ready, Bool.or_eq_false_iff, decide_eq_false_iff_not] at h
      omega
    rw [spared, hbeeps, Nat.zero_sub, ← hbeeps]

theorem turned_fault (hready : l.ready .fault = true) : Turned l .fault [] l.reportFault := by
  rw [reportFault, Emulator.takeFault]
  cases hfaults : l.session.emulator.faults with
  | nil => simp [ready, hfaults] at hready
  | cons fault rest =>
    have hspared : spared l.session.emulator .fault = { l.session.emulator with faults := rest } := by
      rw [spared, hfaults, List.tail_cons]
    have hfault : Branch.fault ≠ .event := by decide
    have hreport := turned_report l hfault ("halted: " ++ fault.message)
    rwa [hspared] at hreport

theorem turned_beep (l : EventLoop) : Turned l .beep [] l.reportBeep := by
  have hspared : l.session.emulator.takeBeep.getD l.session.emulator =
      spared l.session.emulator .beep := by
    rw [Emulator.takeBeep, spared]
    cases hbeeps : l.session.emulator.beeps with
    | zero =>
      show l.session.emulator = { l.session.emulator with beeps := 0 }
      rw [← hbeeps]
    | succ n => rfl
  rw [reportBeep, hspared]
  have hbeep : Branch.beep ≠ .event := by decide
  exact turned_report l hbeep "beep"

/-- **A turn, taken apart.** -/
theorem turned (l : EventLoop) (branch : Branch) :
    Turned l branch (l.occurred (.turn branch)) (l.turn branch) := by
  rw [occurred, turn]
  by_cases hstage : l.stage = .looping
  · rw [if_pos hstage, beq_iff_eq.mpr hstage, Bool.true_and]
    cases hready : l.ready branch with
    | true =>
      cases branch with
      | event => exact turned_event hstage
      | refresh => exact turned_refresh hstage
      | fault => exact turned_fault hready
      | beep => exact turned_beep l
    | false =>
      have hspared := spared_of_not_ready hready
      cases branch with
      | event =>
        simp only [ready, Bool.or_eq_false_iff, Bool.not_eq_false'] at hready
        have hevents : l.events = [] := List.isEmpty_iff.mp hready.1
        rw [turnOccurred, taken, exit, hevents, hready.2]
        exact .idle fun _ => ⟨rfl, hevents⟩
      | refresh => cases hready
      | fault | beep =>
        refine .quiet (by decide) ?_
        rw [hspared]
        exact .refl _
  · rw [if_neg hstage, beq_false_of_ne hstage]
    exact .idle fun hlooping => absurd hlooping hstage

/-- **A turn with an event** hands it to the session, the oldest first. -/
theorem turn_handles (hstage : l.stage = .looping) {event : UserEvent} {rest : List UserEvent}
    (hevents : l.events = event :: rest) :
    handled (l.occurred (.turn .event)) = [event] ∧ (l.turn .event).events = rest ∧
      (l.turn .event).session = (l.session.handle event).2 := by
  have hturned := turned l .event
  generalize l.occurred (.turn .event) = later at hturned ⊢
  generalize l.turn .event = after at hturned ⊢
  cases hturned with
  | idle hidle => exact absurd (hevents.symm.trans (hidle hstage).2) (List.cons_ne_nil _ _)
  | handled _ hsplit =>
    obtain ⟨rfl, rfl⟩ := List.cons.inj (hsplit.symm.trans hevents)
    exact ⟨rfl, rfl, rfl⟩
  | quit _ hsplit =>
    obtain ⟨rfl, rfl⟩ := List.cons.inj (hsplit.symm.trans hevents)
    exact ⟨rfl, rfl, rfl⟩
  | closed _ hempty => exact absurd (hevents.symm.trans hempty) (List.cons_ne_nil _ _)
  | quiet hbranch => exact absurd rfl hbranch

/-- **A turn without an event** takes a frame, a fault or a beep, and does nothing else to the emulator
than to log. -/
theorem turn_spares (hstage : l.stage = .looping) (hbranch : branch ≠ .event) :
    (l.turn branch).events = l.events ∧
      SameButLog (spared l.session.emulator branch) (l.turn branch).session.emulator := by
  have hturned := turned l branch
  generalize l.occurred (.turn branch) = later at hturned
  generalize l.turn branch = after at hturned ⊢
  cases hturned with
  | idle hidle => exact absurd (hidle hstage).1 hbranch
  | handled | quit | closed => exact absurd rfl hbranch
  | quiet _ hsame | gone _ hsame => exact ⟨rfl, hsame⟩

/-! ## The queue of events and the stages of the loop -/

/-- **What a run has done to the events and to the loop.** -/
structure Followed (past : List Occurrence) (l : EventLoop) : Prop where
  order : sent past = handled past ++ l.events
  quitLast : .quit ∉ (handled past).dropLast
  quit : .left .quit ∈ past ↔ .quit ∈ handled past
  closed : .left .closed ∈ past → l.events = [] ∧ l.eventsOpen = false
  course : ∃ why heard, course past = ending why heard l.stage
  shutdowns : l.shutdowns = past.count (.told true)
  stopped : l.stage = .stopped ∨ l.stage = .ended → l.session.emulator.drivers = none

/-- Nothing happens to the events, and the loop comes no further. -/
structure Beside (l l' : EventLoop) : Prop where
  events : l'.events = l.events
  stage : l'.stage = l.stage
  shutdowns : l'.shutdowns = l.shutdowns
  closed : l.eventsOpen = false → l'.eventsOpen = false
  drivers : l.session.emulator.drivers = none → l'.session.emulator.drivers = none

theorem Beside.of_session (l : EventLoop) {session : Session}
    (h : l.session.emulator.drivers = none → session.emulator.drivers = none) :
    Beside l { l with session := session } := ⟨rfl, rfl, rfl, id, h⟩

theorem followed_enter (session : Session) : Followed [] (enter session) where
  order := rfl
  quitLast := List.not_mem_nil
  quit := iff_of_false List.not_mem_nil List.not_mem_nil
  closed h := absurd h List.not_mem_nil
  course := ⟨.quit, true, rfl⟩
  shutdowns := rfl
  stopped h := by rcases h with h | h <;> cases h

namespace Followed

theorem not_left (h : Followed past l) (hstage : l.stage = .looping) (why : Exit) :
    .left why ∉ past := by
  obtain ⟨_, _, hcourse⟩ := h.course
  rw [hstage, ending] at hcourse
  rw [← mem_course, hcourse]
  exact List.not_mem_nil

theorem quit_not_handled (h : Followed past l) (hstage : l.stage = .looping) :
    .quit ∉ handled past := fun hquit => h.not_left hstage .quit (h.quit.mpr hquit)

theorem beside (h : Followed past l) (hl : Beside l l') : Followed past l' where
  order := by rw [hl.events, h.order]
  quitLast := h.quitLast
  quit := h.quit
  closed hleft := by
    obtain ⟨hevents, hclosed⟩ := h.closed hleft
    exact ⟨hl.events.trans hevents, hl.closed hclosed⟩
  course := by
    rw [hl.stage]
    exact h.course
  shutdowns := hl.shutdowns.trans h.shutdowns
  stopped hstage := by
    rw [hl.stage] at hstage
    exact hl.drivers (h.stopped hstage)

theorem forward (h : Followed past l) (hopen : l.eventsOpen = true) (event : UserEvent) :
    Followed (past ++ [.sent event]) { l with events := l.events ++ [event] } := by
  have hsent : sent (past ++ [.sent event]) = sent past ++ [event] := sent_append ..
  have hhandled : handled (past ++ [.sent event]) = handled past :=
    (handled_append ..).trans (List.append_nil _)
  have hcourse : EventLoop.course (past ++ [.sent event]) = EventLoop.course past :=
    (course_append ..).trans (List.append_nil _)
  have hleft (why : Exit) : .left why ∈ past ++ [.sent event] ↔ .left why ∈ past := by
    rw [← mem_course, hcourse, mem_course]
  refine ⟨?_, ?_, ?_, ?_, ?_, ?_, h.stopped⟩
  · rw [hsent, hhandled, h.order, List.append_assoc]
  · rw [hhandled]
    exact h.quitLast
  · rw [hhandled, hleft]
    exact h.quit
  · intro hclosed
    rw [hleft] at hclosed
    rw [(h.closed hclosed).2] at hopen
    cases hopen
  · rw [hcourse]
    exact h.course
  · rw [List.count_append]
    exact h.shutdowns

theorem handle (h : Followed past l) (hstage : l.stage = .looping) {event : UserEvent}
    {rest : List UserEvent} (hevents : l.events = event :: rest) (hquit : event ≠ .quit)
    (session : Session) :
    Followed (past ++ [.handled event]) { l with events := rest, session := session } := by
  have hsent : sent (past ++ [.handled event]) = sent past :=
    (sent_append ..).trans (List.append_nil _)
  have hhandled : handled (past ++ [.handled event]) = handled past ++ [event] := handled_append ..
  have hcourse : EventLoop.course (past ++ [.handled event]) = EventLoop.course past :=
    (course_append ..).trans (List.append_nil _)
  have hleft (why : Exit) : .left why ∉ past ++ [.handled event] := by
    rw [← mem_course, hcourse, mem_course]
    exact h.not_left hstage why
  have hnone := h.quit_not_handled hstage
  refine ⟨?_, ?_, ?_, ?_, ?_, ?_, ?_⟩
  · rw [hsent, hhandled, h.order, hevents, List.append_assoc]
    rfl
  · rw [hhandled, List.dropLast_concat]
    exact hnone
  · refine iff_of_false (hleft .quit) ?_
    rw [hhandled, List.mem_append, List.mem_singleton, not_or]
    exact ⟨hnone, hquit.symm⟩
  · exact fun hclosed => absurd hclosed (hleft .closed)
  · rw [hcourse]
    exact h.course
  · rw [List.count_append]
    exact h.shutdowns
  · intro hlater
    rcases hlater with hlater | hlater <;> exact absurd (hstage.symm.trans hlater) (by decide)

/-- The last event that is handled is to quit. -/
theorem quitting (h : Followed past l) (hstage : l.stage = .looping) {rest : List UserEvent}
    (hevents : l.events = .quit :: rest) :
    Followed (past ++ [.handled .quit, .left .quit]) { l with events := rest, stage := .leaving } := by
  have hsent : sent (past ++ [.handled .quit, .left .quit]) = sent past :=
    (sent_append ..).trans (List.append_nil _)
  have hhandled : handled (past ++ [.handled .quit, .left .quit]) = handled past ++ [.quit] :=
    handled_append ..
  obtain ⟨_, _, hcourse⟩ := h.course
  rw [hstage, ending] at hcourse
  refine ⟨?_, ?_, ?_, ?_, ⟨.quit, true, ?_⟩, ?_, ?_⟩
  · rw [hsent, hhandled, h.order, hevents, List.append_assoc]
    rfl
  · rw [hhandled, List.dropLast_concat]
    exact h.quit_not_handled hstage
  · rw [hhandled]
    exact iff_of_true (by simp) (by simp)
  · intro hclosed
    have hpast : .left .closed ∈ past := by simpa using hclosed
    exact absurd hpast (h.not_left hstage .closed)
  · rw [course_append, hcourse]
    rfl
  · rw [List.count_append]
    exact h.shutdowns
  · intro hlater
    rcases hlater with hlater | hlater <;> cases hlater

/-- Nothing happens to the events while the loop ends. -/
theorem ends (h : Followed past l) {last : Occurrence} (hsent : sent [last] = [])
    (hhandled : handled [last] = []) (hquit : last ≠ .left .quit) (hevents : l'.events = l.events)
    (hopen : l'.eventsOpen = l.eventsOpen)
    (hclosed : last = .left .closed → l.events = [] ∧ l.eventsOpen = false)
    (hcourse : ∃ why heard, EventLoop.course (past ++ [last]) = ending why heard l'.stage)
    (hshutdowns : l'.shutdowns = l.shutdowns + [last].count (.told true))
    (hstopped : l'.stage = .stopped ∨ l'.stage = .ended → l'.session.emulator.drivers = none) :
    Followed (past ++ [last]) l' := by
  have hsent' : sent (past ++ [last]) = sent past := by rw [sent_append, hsent, List.append_nil]
  have hhandled' : handled (past ++ [last]) = handled past := by
    rw [handled_append, hhandled, List.append_nil]
  refine ⟨?_, ?_, ?_, ?_, hcourse, ?_, hstopped⟩
  · rw [hsent', hhandled', hevents, h.order]
  · rw [hhandled']
    exact h.quitLast
  · rw [hhandled', ← h.quit, List.mem_append, List.mem_singleton]
    exact or_iff_left hquit.symm
  · intro hleft
    rw [hevents, hopen]
    rcases List.mem_append.mp hleft with hpast | hlast
    · exact h.closed hpast
    · exact hclosed (List.mem_singleton.mp hlast).symm
  · rw [hshutdowns, h.shutdowns, List.count_append]

theorem leaving (h : Followed past l) (hstage : l.stage = .looping) {why : Exit} (hquit : why ≠ .quit)
    (hclosed : why = .closed → l.events = [] ∧ l.eventsOpen = false) (session : Session) :
    Followed (past ++ [.left why]) { l with session := session, stage := .leaving } := by
  obtain ⟨_, _, hcourse⟩ := h.course
  rw [hstage, ending] at hcourse
  refine h.ends rfl rfl ?_ rfl rfl ?_ ⟨why, true, ?_⟩ rfl ?_
  · exact fun hlast => hquit (Occurrence.left.inj hlast)
  · exact fun hlast => hclosed (Occurrence.left.inj hlast)
  · rw [course_append, hcourse]
    rfl
  · intro hlater
    rcases hlater with hlater | hlater <;> cases hlater

theorem stopping (h : Followed past l) (hstage : l.stage = .leaving) :
    Followed (past ++ [.driversStopped]) { l with
      session := { l.session with emulator := l.session.emulator.stop }, stage := .stopped } := by
  obtain ⟨why, heard, hcourse⟩ := h.course
  rw [hstage, ending] at hcourse
  have hdrivers : l.session.emulator.stop.drivers = none := by
    have hstopped := l.session.emulator.isStarted_stop
    rwa [Emulator.isStarted, Option.isSome_eq_false_iff, Option.isNone_iff_eq_none] at hstopped
  refine h.ends rfl rfl (by decide) rfl rfl ?_ ⟨why, heard, ?_⟩ rfl fun _ => hdrivers
  · intro hlast
    cases hlast
  · rw [course_append, hcourse]
    rfl

theorem telling (h : Followed past l) (hstage : l.stage = .stopped) (heard : Bool)
    (hdrivers : l'.session.emulator.drivers = l.session.emulator.drivers)
    (hevents : l'.events = l.events) (hopen : l'.eventsOpen = l.eventsOpen)
    (hended : l'.stage = .ended)
    (hshutdowns : l'.shutdowns = l.shutdowns + [Occurrence.told heard].count (.told true)) :
    Followed (past ++ [.told heard]) l' := by
  obtain ⟨why, _, hcourse⟩ := h.course
  rw [hstage, ending] at hcourse
  refine h.ends rfl rfl ?_ hevents hopen ?_ ⟨why, heard, ?_⟩ hshutdowns fun _ => ?_
  · intro hlast
    cases hlast
  · intro hlast
    cases hlast
  · rw [course_append, hcourse, hended]
    rfl
  · exact hdrivers.trans (h.stopped (.inl hstage))

theorem turn (h : Followed past l) (branch : Branch) :
    Followed (past ++ l.occurred (.turn branch)) (l.turn branch) := by
  have hturned := turned l branch
  generalize l.occurred (.turn branch) = later at hturned
  generalize l.turn branch = after at hturned
  cases hturned with
  | idle => rwa [List.append_nil]
  | handled hstage hevents hquit => exact h.handle hstage hevents hquit _
  | quit hstage hevents => exact h.quitting hstage hevents
  | closed hstage hevents hclosed =>
    have hquit : Exit.closed ≠ .quit := by decide
    exact h.leaving hstage hquit (fun _ => ⟨hevents, hclosed⟩) l.session
  | quiet _ hsame =>
    rw [List.append_nil]
    refine h.beside (.of_session l fun hdrivers => ?_)
    rw [hsame.drivers_eq]
    cases branch <;> exact hdrivers
  | gone hstage hsame =>
    have hquit : Exit.interfaceGone ≠ .quit := by decide
    refine h.leaving hstage hquit ?_ _
    intro hclosed
    cases hclosed

theorem windDown (h : Followed past l) : Followed (past ++ l.occurred .windDown) l.windDown := by
  rw [occurred, EventLoop.windDown]
  cases hstage : l.stage with
  | looping | ended =>
    rw [List.append_nil]
    exact h
  | leaving => exact h.stopping hstage
  | stopped =>
    cases hlistened : l.listened with
    | true => exact h.telling hstage true rfl rfl rfl rfl rfl
    | false => exact h.telling hstage false rfl rfl rfl rfl rfl

/-- Whatever moves, events are handled as they were sent, and the loop ends in order. -/
theorem move (h : Followed past l) (m : Move) : Followed (past ++ l.occurred m) (l.move m) := by
  cases m with
  | turn branch => exact h.turn branch
  | windDown => exact h.windDown
  | forward event =>
    by_cases haccepted : l.eventsOpen = true ∧ l.running = true
    · obtain ⟨hopen, hrunning⟩ := haccepted
      have hmove : l.move (.forward event) = { l with events := l.events ++ [event] } := by
        rw [EventLoop.move, if_pos hopen, EventLoop.forward, if_pos hrunning]
      have hoccurred : l.occurred (.forward event) = [.sent event] := by
        rw [occurred, hopen, hrunning]
        rfl
      rw [hmove, hoccurred]
      exact h.forward hopen event
    · have hmove : l.move (.forward event) = l := by
        rw [EventLoop.move, EventLoop.forward]
        cases hopen : l.eventsOpen <;> cases hrunning : l.running <;> simp_all
      have hoccurred : l.occurred (.forward event) = [] := by
        rw [occurred, if_neg (by simpa using haccepted)]
      rw [hmove, hoccurred, List.append_nil]
      exact h
  | drive action =>
    have hoccurred : past ++ l.occurred (.drive action) = past := List.append_nil past
    rw [hoccurred, EventLoop.move]
    split
    · next hdriving =>
      refine h.beside (.of_session l fun hdrivers => ?_)
      show (l.session.emulator.act action).2.drivers = none
      rw [Emulator.act_of_isDriving hdrivers hdriving]
      exact hdrivers
    · exact h
  | hangUp => exact (List.append_nil past).symm ▸ h.beside ⟨rfl, rfl, rfl, fun _ => rfl, id⟩
  | takeMessages | close => exact (List.append_nil past).symm ▸ h.beside (.of_session l id)
  | stopListening | closeBeeps =>
    exact (List.append_nil past).symm ▸ h.beside ⟨rfl, rfl, rfl, id, id⟩

theorem run (h : Followed past l) (moves : List Move) :
    Followed (past ++ l.history moves) (l.run moves) := by
  induction moves generalizing past l with
  | nil => exact (List.append_nil past).symm ▸ h
  | cons m moves ih =>
    rw [history, ← List.append_assoc]
    exact ih (h.move m)

theorem quit_first (h : Followed past l) (hquit : .left .quit ∈ past) :
    ∃ before, handled past = before ++ [.quit] ∧ .quit ∉ before := by
  have hhandled := h.quit.mp hquit
  have hsplit := List.dropLast_append_getLast (List.ne_nil_of_mem hhandled)
  -- No event but the last can be to quit.
  have hlast : (handled past).getLast (List.ne_nil_of_mem hhandled) = .quit := by
    rw [← hsplit, List.mem_append, List.mem_singleton] at hhandled
    exact (hhandled.resolve_left h.quitLast).symm
  rw [hlast] at hsplit
  exact ⟨(handled past).dropLast, hsplit.symm, h.quitLast⟩

theorem handled_all (h : Followed past l) (hclosed : .left .closed ∈ past) :
    handled past = sent past := by
  rw [h.order, (h.closed hclosed).1, List.append_nil]

/-- Nobody is told before the drivers are stopped. -/
theorem not_told (h : Followed past l) (hstage : l.stage ≠ .ended) : l.shutdowns = 0 := by
  obtain ⟨why, heard, hcourse⟩ := h.course
  rw [h.shutdowns, List.count_eq_zero]
  intro htold
  have hmem : .told true ∈ EventLoop.course past := List.mem_filter.mpr ⟨htold, rfl⟩
  rw [hcourse] at hmem
  cases hl : l.stage <;> simp_all [ending]

end Followed

end EventLoop

/-! ## The machine and the configuration -/

theorem Vm.setKey_setRedraw (vm : Vm) (key : UInt8) (down on : Bool) :
    ((vm.setRedraw on).setKey key down).2 = (vm.setKey key down).2.setRedraw on := by
  rw [setKey, setKey, setRedraw]
  cases vm.keypad.setPressed key down <;> rfl

namespace Emulator

variable {g e e' : Emulator}

/-- **Emulators with the same machine, redraws apart, and the same configuration.** -/
structure Agrees (g e : Emulator) : Prop where
  vm : e.vm = g.vm.setRedraw e.vm.redraw
  config : e.config = g.config

theorem config_setSpeed (h : e.config = g.config) (rate : UInt32) :
    (e.setSpeed rate).2.config = (g.setSpeed rate).2.config := by
  rw [setSpeed, setSpeed, h]
  cases Config.validate { g.config with cyclesPerSecond := rate } with
  | error error => exact h
  | ok =>
    dsimp only
    rw [config_restart, config_restart]

namespace Agrees

theorem refl (e : Emulator) : Agrees e e := ⟨rfl, rfl⟩

theorem symm (h : Agrees g e) : Agrees e g := by
  refine ⟨?_, h.config.symm⟩
  rw [h.vm]
  rfl

theorem trans (h : Agrees g e) (h' : Agrees e e') : Agrees g e' := by
  refine ⟨?_, h'.config.trans h.config⟩
  rw [h'.vm, h.vm]
  rfl

theorem of_sameButLog (h : SameButLog g e) : Agrees g e := by
  rw [h]
  exact ⟨rfl, rfl⟩

theorem stop (e : Emulator) : Agrees e e.stop := by
  refine ⟨?_, config_stop e⟩
  rw [vm_stop]
  rfl

theorem spared (e : Emulator) (branch : EventLoop.Branch) : Agrees e (EventLoop.spared e branch) := by
  cases branch <;> exact ⟨rfl, rfl⟩

theorem setKey (h : Agrees g e) (key : UInt8) (down : Bool) :
    Agrees (g.setKey key down).2 (e.setKey key down).2 := by
  refine ⟨?_, h.config⟩
  show (e.vm.setKey key down).2 = (g.vm.setKey key down).2.setRedraw (e.vm.setKey key down).2.redraw
  rw [h.vm, Vm.setKey_setRedraw]
  rfl

theorem releaseKeys (h : Agrees g e) : Agrees g.releaseKeys e.releaseKeys := by
  refine ⟨?_, h.config⟩
  show e.vm.releaseKeys = _
  rw [h.vm]
  rfl

theorem setSpeed (h : Agrees g e) (rate : UInt32) : Agrees (g.setSpeed rate).2 (e.setSpeed rate).2 := by
  refine ⟨?_, config_setSpeed h.config rate⟩
  rw [vm_setSpeed, vm_setSpeed]
  exact h.vm

theorem softReset (h : Agrees g e) : Agrees g.softReset e.softReset := by
  have hvm (e : Emulator) : e.softReset.vm = e.vm.softReset := vm_act e .softReset
  refine ⟨?_, (config_softReset e).trans (h.config.trans (config_softReset g).symm)⟩
  rw [hvm, hvm, h.vm]
  rfl

theorem hardReset (h : Agrees g e) : Agrees g.hardReset e.hardReset := by
  have hvm (e : Emulator) : e.hardReset.vm = e.vm.hardReset := vm_act e .hardReset
  refine ⟨?_, (config_hardReset e).trans (h.config.trans (config_hardReset g).symm)⟩
  rw [hvm, hvm, h.vm]
  rfl

end Agrees

end Emulator

namespace Session

open Emulator (Agrees)

variable {s s' : Session}

/-- **An event does the same** to sessions whose emulators agree. -/
theorem agrees_handle (h : Agrees s.emulator s'.emulator) (event : UserEvent) :
    Agrees (s.handle event).2.emulator (s'.handle event).2.emulator := by
  have hcall : Agrees ((s.call event).elim s.emulator fun action => (s.emulator.act action).2)
      ((s'.call event).elim s'.emulator fun action => (s'.emulator.act action).2) := by
    cases event with
    | key key => exact h.setKey key true
    | releaseKeys => exact h.releaseKeys
    | speedUp | slowDown =>
      rw [call, call, h.config]
      exact h.setSpeed _
    | reset => exact h.softReset
    | stop => exact h.hardReset
    | quit => exact h
  have hleft := Agrees.of_sameButLog (s.sameButLog_handle event)
  have hright := Agrees.of_sameButLog (s'.sameButLog_handle event)
  exact hleft.symm.trans (hcall.trans hright)

theorem handleAll_concat (s : Session) (events : List UserEvent) (event : UserEvent) :
    (s.handleAll (events ++ [event])).2 = ((s.handleAll events).2.handle event).2 := by
  induction events generalizing s with
  | nil => rfl
  | cons first events ih =>
    rw [List.cons_append, handleAll_cons, handleAll_cons]
    exact ih _

end Session

namespace EventLoop

open Emulator (Agrees)

variable {l : EventLoop} {past : List Occurrence} {s : Session}

/-- A step of a driver. -/
def Move.isDriving : Move → Bool
  | .drive _ => true
  | _ => false

/-- The emulator is what the events that were handled make of it. -/
def Folded (s : Session) (past : List Occurrence) (l : EventLoop) : Prop :=
  Agrees (s.handleAll (handled past)).2.emulator l.session.emulator

namespace Folded

theorem of_silent {l' : EventLoop} {later : List Occurrence} (h : Folded s past l)
    (hlater : handled later = []) (hl : Agrees l.session.emulator l'.session.emulator) :
    Folded s (past ++ later) l' := by
  rw [Folded, handled_append, hlater, List.append_nil]
  exact h.trans hl

theorem handle {event : UserEvent} {later : List Occurrence} {l' : EventLoop} (h : Folded s past l)
    (hlater : handled later = [event])
    (hl : l'.session.emulator = (l.session.handle event).2.emulator) :
    Folded s (past ++ later) l' := by
  rw [Folded, handled_append, hlater, Session.handleAll_concat, hl]
  exact Session.agrees_handle h event

theorem turn (h : Folded s past l) (branch : Branch) :
    Folded s (past ++ l.occurred (.turn branch)) (l.turn branch) := by
  have hturned := turned l branch
  generalize l.occurred (.turn branch) = later at hturned
  generalize l.turn branch = after at hturned
  cases hturned with
  | idle | closed => exact h.of_silent rfl (.refl _)
  | handled | quit => exact h.handle rfl rfl
  | quiet _ hsame | gone _ hsame =>
    exact h.of_silent rfl ((Agrees.spared _ _).trans (.of_sameButLog hsame))

theorem move (h : Folded s past l) {m : Move} (hm : m.isDriving = false) :
    Folded s (past ++ l.occurred m) (l.move m) := by
  cases m with
  | turn branch => exact h.turn branch
  | windDown =>
    rw [occurred, EventLoop.move, windDown]
    cases l.stage with
    | looping | ended => exact h.of_silent rfl (.refl _)
    | leaving => exact h.of_silent rfl (.stop _)
    | stopped =>
      cases l.listened with
      | true => exact h.of_silent rfl (.refl _)
      | false => exact h.of_silent rfl (.of_sameButLog ((SameButLog.refl _).note _))
  | drive action => cases hm
  | forward event =>
    have hsilent : handled (l.occurred (.forward event)) = [] := by
      rw [occurred]
      split <;> rfl
    refine h.of_silent hsilent ?_
    rw [EventLoop.move, forward]
    cases l.eventsOpen <;> cases l.running <;> exact .refl _
  | _ => exact h.of_silent rfl (.refl _)

theorem run (h : Folded s past l) {moves : List Move} (hmoves : ∀ m ∈ moves, m.isDriving = false) :
    Folded s (past ++ l.history moves) (l.run moves) := by
  induction moves generalizing past l with
  | nil => exact h.of_silent rfl (.refl _)
  | cons m moves ih =>
    rw [history, ← List.append_assoc]
    refine ih (h.move (hmoves m List.mem_cons_self)) ?_
    exact fun m' hm' => hmoves m' (List.mem_cons_of_mem _ hm')

end Folded

/-- The steps after the last turn can always be taken, and whoever waits is then told. -/
theorem windDown_windDown (h : l.stage = .leaving ∨ l.stage = .stopped) :
    l.windDown.windDown.stage = .ended ∧
      l.windDown.windDown.shutdowns = l.shutdowns + (if l.listened then 1 else 0) := by
  have hstopped (l : EventLoop) (hl : l.stage = .stopped) : l.windDown.stage = .ended ∧
      l.windDown.shutdowns = l.shutdowns + (if l.listened then 1 else 0) := by
    rw [windDown, hl]
    cases l.listened <;> exact ⟨rfl, rfl⟩
  rcases h with h | h
  · have hstep : l.windDown.stage = .stopped ∧ l.windDown.shutdowns = l.shutdowns ∧
        l.windDown.listened = l.listened := by
      rw [windDown, h]
      exact ⟨rfl, rfl, rfl⟩
    rw [← hstep.2.1, ← hstep.2.2]
    exact hstopped _ hstep.1
  · have hstage := (hstopped l h).1
    have hended : l.windDown.windDown = l.windDown := by
      rw [windDown, hstage]
    rw [hended]
    exact hstopped l h

/-- **Schedules do not matter.** Whatever the order in which the loop chooses its branches and the
drivers and the interface go on: events are handled in the order in which they were sent, up to the first
that is to quit; the other branches take a frame, a fault or a beep and leave the rest alone; the loop
leaves, stops the drivers and tells that it has shut down, once each and in this order; and when the
drivers stand still, machine and configuration are what the events that were handled make of them. -/
theorem schedule_independent (session : Session) (moves : List Move) :
    let l := (enter session).run moves
    let past := (enter session).history moves
    sent past = handled past ++ l.events ∧
    .quit ∉ (handled past).dropLast ∧
    (.left .quit ∈ past → ∃ before, handled past = before ++ [.quit] ∧ .quit ∉ before) ∧
    (.left .closed ∈ past → handled past = sent past) ∧
    (l.stage = .looping → ∀ event rest, l.events = event :: rest →
      handled (l.occurred (.turn .event)) = [event] ∧ (l.turn .event).events = rest ∧
        (l.turn .event).session = (l.session.handle event).2) ∧
    (l.stage = .looping → ∀ branch ≠ .event, (l.turn branch).events = l.events ∧
      SameButLog (spared l.session.emulator branch) (l.turn branch).session.emulator) ∧
    ((∀ m ∈ moves, m.isDriving = false) →
      Agrees (session.handleAll (handled past)).2.emulator l.session.emulator) ∧
    (∃ why heard, course past = ending why heard l.stage) ∧
    (l.stage = .stopped ∨ l.stage = .ended → l.session.emulator.isStarted = false) ∧
    l.shutdowns = past.count (.told true) ∧
    (l.stage = .leaving ∨ l.stage = .stopped → l.windDown.windDown.stage = .ended ∧
      l.windDown.windDown.shutdowns = if l.listened then 1 else 0) := by
  intro l past
  have hfollowed : Followed past l := (followed_enter session).run moves
  have hfolded (hmoves : ∀ m ∈ moves, m.isDriving = false) : Folded session past l := by
    have henter : Folded session [] (enter session) := .of_sameButLog (session.sameButLog_report "")
    exact henter.run hmoves
  refine ⟨hfollowed.order, hfollowed.quitLast, hfollowed.quit_first, hfollowed.handled_all,
    fun hstage _ _ => turn_handles hstage, fun hstage _ => turn_spares hstage, hfolded,
    hfollowed.course, ?_, hfollowed.shutdowns, ?_⟩
  · intro hstage
    rw [Emulator.isStarted, hfollowed.stopped hstage]
    rfl
  · intro hstage
    have hended : l.stage ≠ .ended := by
      rintro h
      rcases hstage with hstage | hstage <;> cases hstage.symm.trans h
    obtain ⟨hstage', hshutdowns⟩ := windDown_windDown hstage
    rw [hfollowed.not_told hended, Nat.zero_add] at hshutdowns
    exact ⟨hstage', hshutdowns⟩

end EventLoop

end Chip8
