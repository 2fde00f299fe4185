import DiyPs3Controller.Foundations.Watchdogs
import DiyPs3Controller.Firmware.Events

/-!
# Recentring of an idle mouse

`ms_trigger` is shared by the clock interrupt, the timer interrupt and the main
loop. It is a watchdog that every clock edge kicks: a poll recentres exactly when
the countdown has run out since the last edge and no poll has recentred since.
-/

namespace DiyPs3Controller.IdleRecentring

open UsbJoystick MouseDriver Watchdogs
open Events (msJoy? msJoy_map)

/-- The interrupts of the mouse, and the pieces of `MS_EventTask` between which
they can occur: one round of its loop, and the check of the trigger. -/
inductive Action
  | clock (pin : U8)
  | timer
  | scancode
  | poll
  | mouseReset
  deriving DecidableEq, Repr

/-- One round of the loop in `MS_EventTask`. -/
def filterScancode (m : Mouse) : Mouse × List MsCall :=
  if hasScancode m then eventFilter (getScancode m).1 (getScancode m).2 else (m, [])

/-- `MS_EventTask` behind its loop. -/
def pollTrigger (m : Mouse) : Mouse × List MsCall :=
  if m.trigger.action = 1#8 then
    ({ m with trigger := { m.trigger with action := 0#8 } }, idleCalls.map .joy)
  else (m, [])

/-- The driver over all interleavings; the calls of the main loop are listed. -/
def triggerMachine : Machine Mouse Action MsCall where
  step m
    | .clock pin => ((msClockInterrupt m pin).1, [])
    | .timer => (msTimerInterrupt m, [])
    | .scancode => filterScancode m
    | .poll => pollTrigger m
    | .mouseReset => msMouseReset m

/-- The calls on the joystick that a poll makes. -/
def pollCalls (m : Mouse) : List JoyCall := (triggerMachine.step m .poll).2.filterMap msJoy?

/-- The joystick behind a poll. -/
def polled (m : Mouse) (j : Joystick) : Joystick := joyMachine.state j (pollCalls m)

/-- The joystick states that a poll reports. -/
def pollReports (m : Mouse) (j : Joystick) : List Joystick := joyMachine.outputs j (pollCalls m)

/-- `z` and `rz` are at their centre, and R2 and L2 are released. -/
structure Centred (j : Joystick) : Prop where
  z : j.axisZ = 128#8
  rz : j.axisRz = 128#8
  r2 : j.buttons &&& r2Button = 0#16
  l2 : j.buttons &&& l2Button = 0#16

/-- A poll in this state recentres `z` and `rz` and releases R2 and L2, wherever the
axes stand and whatever is pressed. -/
def Recentres (m : Mouse) : Prop := ∀ j, Centred (polled m j)

/-- A button that has been released is up. -/
theorem released_and (buttons button : U16) : buttons &&& ~~~button &&& button = 0#16 := by
  rw [BitVec.and_assoc, BitVec.and_comm (~~~button), BitVec.and_not_self]
  exact BitVec.and_zero

/-- What the calls of the action branch make of a joystick, and what they report. -/
theorem idleCalls_run (j : Joystick) :
    Centred (joyMachine.state j idleCalls) ∧
      joyMachine.outputs j idleCalls = [joyMachine.state j idleCalls] := by
  have hbuttons : (joyMachine.state j idleCalls).buttons =
      (j.buttons &&& 0xFFF0#16 ||| noButton) &&& ~~~r2Button &&& ~~~l2Button := rfl
  refine ⟨⟨rfl, rfl, ?_, ?_⟩, rfl⟩
  · rw [hbuttons, BitVec.and_assoc _ (~~~r2Button), BitVec.and_comm (~~~r2Button),
      ← BitVec.and_assoc, released_and]
  · rw [hbuttons, released_and]

theorem pollCalls_of_action {m : Mouse} (h : m.trigger.action = 1#8) :
    pollCalls m = idleCalls := by
  have hstep : triggerMachine.step m .poll =
      ({ m with trigger := { m.trigger with action := 0#8 } }, idleCalls.map .joy) := if_pos h
  rw [pollCalls, hstep, msJoy_map]

theorem pollCalls_of_no_action {m : Mouse} (h : m.trigger.action ≠ 1#8) : pollCalls m = [] := by
  have hstep : triggerMachine.step m .poll = (m, []) := if_neg h
  rw [pollCalls, hstep, List.filterMap_nil]

theorem recentres_iff (m : Mouse) : Recentres m ↔ m.trigger.action = 1#8 := by
  constructor
  · intro h
    by_contra haction
    have hcentred := h { usbJoystickRaz with axisZ := 0#8 }
    rw [polled, pollCalls_of_no_action haction] at hcentred
    exact absurd hcentred.z (by decide)
  · intro h j
    rw [polled, pollCalls_of_action h]
    exact (idleCalls_run j).1

/-- A poll reports the joystick that it has recentred, or does nothing to it. -/
theorem poll_reports (m : Mouse) (j : Joystick) :
    (Recentres m → pollReports m j = [polled m j]) ∧
      (¬Recentres m → polled m j = j ∧ pollReports m j = []) := by
  rw [recentres_iff, pollReports, polled]
  constructor
  · intro h
    rw [pollCalls_of_action h]
    exact (idleCalls_run j).2
  · intro h
    rw [pollCalls_of_no_action h]
    exact ⟨rfl, rfl⟩

theorem filterScancodes_rounds (fuel : Nat) (m : Mouse) :
    filterScancodes fuel m =
      (triggerMachine.state m (List.replicate fuel .scancode),
        triggerMachine.outputs m (List.replicate fuel .scancode)) := by
  induction fuel generalizing m with
  | zero => rfl
  | succ fuel ih =>
      rw [filterScancodes, List.replicate_succ, Machine.state_cons, Machine.outputs_cons]
      by_cases h : hasScancode m
      · have hround : triggerMachine.step m .scancode =
            eventFilter (getScancode m).1 (getScancode m).2 := if_pos h
        rw [if_pos h, hround]
        simp only [ih]
      · have hround : triggerMachine.step m .scancode = (m, []) := if_neg h
        have hrest : filterScancodes fuel m = (m, []) := by
          cases fuel with
          | zero => rfl
          | succ fuel => rw [filterScancodes, if_neg h]
        have hih := ih m
        rw [hrest] at hih
        rw [if_neg h, hround]
        simpa using hih

/-- `MS_EventTask` without interrupts is its rounds and then the check. -/
theorem msEventTask_eq (m : Mouse) :
    msEventTask m =
      (triggerMachine.state m
          (List.replicate m.driver.ringbuffer.contents.length .scancode ++ [.poll]),
        triggerMachine.outputs m
          (List.replicate m.driver.ringbuffer.contents.length .scancode ++ [.poll])) := by
  rw [Machine.state_append, Machine.outputs_append, msEventTask, filterScancodes_rounds]
  simp only [Machine.state_cons, Machine.state_nil, Machine.outputs_cons, Machine.outputs_nil,
    triggerMachine, pollTrigger]
  split <;> simp

/-! ## The trigger as a watchdog -/

/-- What an action means to the trigger. -/
def signal : Action → Option Signal
  | .clock _ => some .kick
  | .timer => some .tick
  | .poll => some .poll
  | .scancode => none
  | .mouseReset => none

/-- The variables of the trigger in each phase. -/
def Shows (t : Trigger) : Phase → Prop
  | .idle => t.timer = 0#8 ∧ t.action = 0#8
  | .counting elapsed => t.timer.toNat + elapsed = 15 ∧ elapsed < 15 ∧ t.action = 0#8
  | .due => t.timer = 0#8 ∧ t.action = 1#8
  | .spent => t.timer = 0#8 ∧ t.action = 0#8

theorem eventFilter_trigger (m : Mouse) (b : U8) : (eventFilter m b).1.trigger = m.trigger := by
  have hstep := eventFilter_step m b
  generalize eventFilter m b = next at hstep ⊢
  cases hstep with
  | accepted hm =>
      simp only [answer]
      split <;> rfl
  | retried | gaveUp | skipped | stored | dispatched => rfl

theorem filterScancode_trigger (m : Mouse) : (filterScancode m).1.trigger = m.trigger := by
  unfold filterScancode
  split
  · exact eventFilter_trigger _ _
  · rfl

/-- One tick of the timer. -/
theorem msTimerInterrupt_shows {m : Mouse} {phase : Phase} (h : Shows m.trigger phase) :
    Shows (msTimerInterrupt m).trigger (phase.next 15 .tick) := by
  cases phase with
  | idle | spent | due =>
      have hstill : msTimerInterrupt m = m := by
        rw [msTimerInterrupt, h.1]
        rfl
      rw [hstill]
      exact h
  | counting elapsed =>
      obtain ⟨htimer, hlt, haction⟩ := h
      have hpos : 0#8 < m.trigger.timer := by bv_omega
      have hnext : (m.trigger.timer - 1#8).toNat + (elapsed + 1) = 15 := by bv_omega
      rw [msTimerInterrupt, if_pos hpos]
      by_cases hmore : elapsed + 1 < 15
      · have hne : ¬(m.trigger.timer - 1#8 = 0#8 ∧ m.trigger.action = 0#8) := by
          rintro ⟨hzero, -⟩
          rw [hzero] at hnext
          simp at hnext
          omega
        simp only [Phase.next, if_pos hmore, Shows, if_neg hne]
        exact ⟨hnext, hmore, haction⟩
      · have hzero : m.trigger.timer - 1#8 = 0#8 := by bv_omega
        simp only [Phase.next, if_neg hmore, Shows]
        rw [if_pos ⟨hzero, haction⟩]
        exact ⟨hzero, rfl⟩

/-- The countdown is reloaded with the same value at every clock edge. -/
def Follows (m : Mouse) (phase : Phase) : Prop :=
  m.trigger.timeout = 15#8 ∧ Shows m.trigger phase

theorem Follows.recentres_iff {m : Mouse} {phase : Phase} (h : Follows m phase) :
    Recentres m ↔ phase = .due := by
  rw [IdleRecentring.recentres_iff]
  cases phase with
  | idle | spent => simp [h.2.2]
  | counting elapsed => simp [h.2.2.2]
  | due => simp [h.2.2]

/-- Every action moves the trigger as its signal moves the watchdog. -/
theorem follows_step {m : Mouse} {phase : Phase} (h : Follows m phase) (a : Action) :
    Follows (triggerMachine.step m a).1 ((watchdog 15 signal).step phase a).1 := by
  cases a with
  | clock pin =>
      refine ⟨h.1, ?_⟩
      change Shows { m.trigger with timer := m.trigger.timeout, action := 0#8 } (.counting 0)
      rw [h.1]
      exact ⟨rfl, by decide, rfl⟩
  | timer =>
      refine ⟨?_, msTimerInterrupt_shows h.2⟩
      rw [← h.1]
      simp only [triggerMachine, msTimerInterrupt]
      split <;> rfl
  | scancode =>
      change Follows (filterScancode m).1 phase
      rw [Follows, filterScancode_trigger]
      exact h
  | poll =>
      change Follows (pollTrigger m).1 (phase.next 15 .poll)
      cases phase with
      | idle | spent | counting =>
          have hstill : (pollTrigger m).1 = m := by
            rw [pollTrigger, if_neg (by rw [← IdleRecentring.recentres_iff, h.recentres_iff]; simp)]
          rw [hstill]
          exact h
      | due =>
          rw [pollTrigger, if_pos h.2.2]
          exact ⟨h.1, h.2.1, rfl⟩
  | mouseReset => exact h

theorem follows_run (history : List Action) :
    Follows (triggerMachine.state msInit history)
      ((watchdog 15 signal).state .idle history) := by
  have hinit : Follows msInit .idle := ⟨rfl, rfl, rfl⟩
  apply Machine.history_of_step (M := triggerMachine) (h := [])
    (H := fun history m => Follows m ((watchdog 15 signal).state .idle history)) _ hinit
  intro history m a h
  rw [Machine.state_append]
  exact follows_step h a

theorem signal_kick_iff (a : Action) : signal a = some .kick ↔ ∃ pin, a = .clock pin := by
  cases a <;> simp [signal]

theorem signal_poll_iff (a : Action) : signal a = some .poll ↔ a = .poll := by
  cases a <;> simp [signal]

theorem ticks_eq_count (actions : List Action) : ticks signal actions = actions.count .timer := by
  apply List.countP_congr
  intro a _
  cases a <;> simp [signal]

/-- After every interleaving a poll recentres exactly when a clock interrupt has
occurred, at least fifteen timer interrupts have occurred since the last one, and
no poll has recentred since; it then reports the centred joystick, and else leaves the
joystick alone. The action flag is raised with the timer at zero. -/
theorem recentres_when_due (history : List Action) :
    (Recentres (triggerMachine.state msInit history) ↔
      ∃ before pin after, history = before ++ .clock pin :: after ∧
        (∀ pin', .clock pin' ∉ after) ∧ 15 ≤ after.count .timer ∧
        ∀ pre post, after = pre ++ .poll :: post →
          ¬Recentres (triggerMachine.state msInit (before ++ .clock pin :: pre))) ∧
    (∀ j, (Recentres (triggerMachine.state msInit history) →
        pollReports (triggerMachine.state msInit history) j =
          [polled (triggerMachine.state msInit history) j]) ∧
      (¬Recentres (triggerMachine.state msInit history) →
        polled (triggerMachine.state msInit history) j = j ∧
          pollReports (triggerMachine.state msInit history) j = [])) ∧
    ((triggerMachine.state msInit history).trigger.action = 1#8 →
      (triggerMachine.state msInit history).trigger.timer = 0#8) := by
  refine ⟨?_, poll_reports _, ?_⟩
  · rw [(follows_run history).recentres_iff, due_iff (by decide)]
    constructor
    · rintro ⟨before, i, after, since, hticks, hquiet⟩
      obtain ⟨pin, rfl⟩ := (signal_kick_iff i).mp since.kick
      refine ⟨before, pin, after, since.split, ?_, ?_, ?_⟩
      · intro pin' hmem
        exact since.last _ hmem rfl
      · rw [← ticks_eq_count]
        exact hticks
      · intro pre post hafter
        rw [(follows_run _).recentres_iff]
        simpa using hquiet pre .poll post hafter rfl
    · rintro ⟨before, pin, after, hsplit, hlast, hticks, hquiet⟩
      refine ⟨before, .clock pin, after, ⟨hsplit, rfl, ?_⟩, ?_, ?_⟩
      · intro j hj hkick
        obtain ⟨pin', rfl⟩ := (signal_kick_iff j).mp hkick
        exact hlast pin' hj
      · rw [ticks_eq_count]
        exact hticks
      · intro pre j post hafter hpoll
        obtain rfl := (signal_poll_iff j).mp hpoll
        have hpre := hquiet pre post hafter
        rw [(follows_run _).recentres_iff] at hpre
        simpa using hpre
  · intro haction
    have hfollows := follows_run history
    have hdue := hfollows.recentres_iff.mp ((recentres_iff _).mpr haction)
    rw [hdue] at hfollows
    exact hfollows.2.1

/-- Fifteen ticks behind a clock edge, and one less. -/
theorem recentres_when_due_fifteen :
    Recentres (triggerMachine.state msInit (.clock 0#8 :: List.replicate 15 .timer)) ∧
      ¬Recentres (triggerMachine.state msInit (.clock 0#8 :: List.replicate 14 .timer)) := by
  refine ⟨(recentres_when_due _).1.mpr ⟨[], 0#8, List.replicate 15 .timer, rfl, ?_, ?_, ?_⟩, ?_⟩
  · simp
  · simp
  · intro pre post hafter
    have hpoll : Action.poll ∈ List.replicate 15 Action.timer := by
      rw [hafter]
      simp
    simp at hpoll
  · rw [recentres_iff]
    decide

end DiyPs3Controller.IdleRecentring
