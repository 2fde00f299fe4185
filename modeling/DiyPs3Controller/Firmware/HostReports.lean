import DiyPs3Controller.Firmware.Events

/-!
# What the host has seen

Every change of the joystick state is followed by an attempt to send it, but
an attempt that fails is not made again. The host therefore holds the state of
the latest attempt that succeeded, while the current state is that of the
latest attempt.
-/

namespace DiyPs3Controller.HostReports

open RingBuffer UsbJoystick MouseDriver KeyboardDriver Events

/-- An event, or one round of the main loop over what the drivers have queued. -/
inductive LoopInput
  | event (e : Event)
  | round
  deriving DecidableEq, Repr

/-- `KB_EventTask` and then `MS_EventTask`. -/
def mainLoop (fw : Firmware) : Firmware × List Joystick :=
  let kb := kbEventTask fw.kb
  let first := perform kbCalls { fw with kb := kb.1 } kb.2
  let ms := msEventTask first.1.ms
  let second := perform msCalls { first.1 with ms := ms.1 } ms.2
  (second.1, first.2 ++ second.2)

def loopStep (fw : Firmware) : LoopInput → Firmware × List Joystick
  | .event e => handle fw e
  | .round => mainLoop fw

/-- `usb_joystick_send`: the report is delivered, or `-1` is returned. -/
def usbJoystickSend (host : Option (List U8)) (attempt : Joystick × Bool) : Option (List U8) :=
  if attempt.2 then some (usbSendCodes attempt.1) else host

/-- The firmware with the last report that the host has received. -/
structure Link where
  fw : Firmware
  host : Option (List U8)
  deriving DecidableEq

/-- The firmware and the host; with each input goes the outcome of every send
that the input leads to. The outputs are the attempts with their outcomes. -/
def linkMachine : Machine Link (LoopInput × (Nat → Bool)) (Joystick × Bool) where
  step l input :=
    let ran := loopStep l.fw input.1
    let attempts := ran.2.zipIdx.map fun a => (a.1, input.2 a.2)
    ({ fw := ran.1, host := attempts.foldl usbJoystickSend l.host }, attempts)

/-- The firmware when `main` enters its loop: after the initialisations, a first
send and a mouse reset. -/
def begun (ok : Bool) : Link where
  fw := { kb := kbInit, ms := (msMouseReset msInit).1, joy := usbJoystickRaz }
  host := usbJoystickSend none (usbJoystickRaz, ok)

/-- All attempts of a run, from the first send in `main` on. -/
def attempts (ok : Bool) (inputs : List (LoopInput × (Nat → Bool))) : List (Joystick × Bool) :=
  (usbJoystickRaz, ok) :: linkMachine.outputs (begun ok) inputs

/-- The latest of several reports, or the state before all of them. -/
def latest (j : Joystick) (reports : List Joystick) : Joystick := reports.getLast?.getD j

@[simp] theorem latest_nil (j : Joystick) : latest j [] = j := rfl

theorem latest_append (j : Joystick) (xs ys : List Joystick) :
    latest j (xs ++ ys) = latest (latest j xs) ys := by
  unfold latest
  rw [List.getLast?_append]
  cases ys.getLast? <;> rfl

/-- Calls that end with a send, if there are any. -/
def Flushed (calls : List JoyCall) : Prop := calls = [] ∨ ∃ before, calls = before ++ [.send]

theorem Flushed.append {xs ys : List JoyCall} (hxs : Flushed xs) (hys : Flushed ys) :
    Flushed (xs ++ ys) := by
  rcases hys with rfl | ⟨before, rfl⟩
  · rwa [List.append_nil]
  · exact Or.inr ⟨xs ++ before, by rw [List.append_assoc]⟩

/-- The state after calls that end with a send is the latest report. -/
theorem flushed_run {calls : List JoyCall} (h : Flushed calls) (j : Joystick) :
    joyMachine.state j calls = latest j (joyMachine.outputs j calls) := by
  rcases h with rfl | ⟨before, rfl⟩
  · rfl
  · rw [Machine.state_append, Machine.outputs_append]
    simp [latest, JoyCall.apply]

theorem keySwitch_flushed (scancode : U16) : Flushed (keySwitch scancode) := by
  rcases keySwitch_cases scancode with hnone | ⟨call, -, hcalls⟩
  · exact Or.inl hnone
  · exact Or.inr ⟨[call], hcalls⟩

theorem eventDispatcher_flushed (d : Dispatch) (packet : Packet) :
    Flushed (eventDispatcher d packet).2 :=
  Or.inr ⟨_, (List.cons_append ..).symm⟩

theorem idleCalls_flushed : Flushed idleCalls :=
  Or.inr ⟨[.moveZrz actionVwIdle actionVwIdle, .pressDir noButton, .release r2Button,
    .release l2Button], rfl⟩

/-- The event filter of the mouse sends after every change it makes. -/
theorem eventFilter_flushed (m : Mouse) (b : U8) :
    Flushed ((eventFilter m b).2.filterMap msJoy?) := by
  have hstep := eventFilter_step m b
  generalize eventFilter m b = next at hstep ⊢
  cases hstep with
  | accepted hm =>
      left
      simp [answer_calls, List.filterMap_map, Function.comp_def, msJoy?]
  | retried | gaveUp | skipped | stored => exact Or.inl rfl
  | dispatched hp hk hsize =>
      simp only [List.filterMap_cons, msJoy?, msJoy_map]
      exact eventDispatcher_flushed _ _

theorem filterScancodes_flushed (fuel : Nat) (m : Mouse) :
    Flushed ((filterScancodes fuel m).2.filterMap msJoy?) := by
  induction fuel generalizing m with
  | zero => exact Or.inl rfl
  | succ fuel ih =>
      rw [filterScancodes]
      split
      · rw [List.filterMap_append]
        exact (eventFilter_flushed _ _).append (ih _)
      · exact Or.inl rfl

theorem msEventTask_flushed (m : Mouse) : Flushed ((msEventTask m).2.filterMap msJoy?) := by
  have hfilter := filterScancodes_flushed m.driver.ringbuffer.contents.length m
  simp only [msEventTask]
  split
  · rw [List.filterMap_append, msJoy_map]
    exact hfilter.append idleCalls_flushed
  · exact hfilter

theorem kbEventTask_flushed (k : Keyboard) : Flushed ((kbEventTask k).2.filterMap kbJoy?) := by
  simp only [kbEventTask]
  split_ifs
  · rw [filter_joy]
    exact keySwitch_flushed _
  · rw [filter_joy]
    exact keySwitch_flushed _
  · exact Or.inl rfl

theorem kbCalls_latest (fw : Firmware) {calls : List KbCall}
    (h : Flushed (calls.filterMap kbJoy?)) :
    (perform kbCalls fw calls).1.joy = latest fw.joy (perform kbCalls fw calls).2 := by
  obtain ⟨hstate, hout⟩ := kbCalls_joy fw calls
  simp only [perform, hstate, hout]
  exact flushed_run h fw.joy

theorem msCalls_latest (fw : Firmware) {calls : List MsCall}
    (h : Flushed (calls.filterMap msJoy?)) :
    (perform msCalls fw calls).1.joy = latest fw.joy (perform msCalls fw calls).2 := by
  obtain ⟨hstate, hout⟩ := msCalls_joy fw calls
  simp only [perform, hstate, hout]
  exact flushed_run h fw.joy

/-- After every input the joystick state is that of the latest attempt. -/
theorem loopStep_latest (fw : Firmware) (input : LoopInput) :
    (loopStep fw input).1.joy = latest fw.joy (loopStep fw input).2 := by
  cases input with
  | event e =>
      cases e with
      | scancode scancode =>
          apply kbCalls_latest
          rw [filter_joy]
          exact keySwitch_flushed scancode
      | packet packet =>
          apply msCalls_latest
          rw [msJoy_map]
          exact eventDispatcher_flushed fw.ms.dispatch packet
      | idleTimeout =>
          apply msCalls_latest
          rw [msJoy_map]
          exact idleCalls_flushed
  | round =>
      have hkb : _ = latest fw.joy _ :=
        kbCalls_latest { fw with kb := (kbEventTask fw.kb).1 } (kbEventTask_flushed fw.kb)
      simp only [loopStep, mainLoop, latest_append, ← hkb]
      exact msCalls_latest _ (msEventTask_flushed _)

/-- Over a whole run the joystick state is that of the latest attempt. -/
theorem run_latest (inputs : List (LoopInput × (Nat → Bool))) (l : Link) :
    (linkMachine.state l inputs).fw.joy =
      latest l.fw.joy ((linkMachine.outputs l inputs).map Prod.fst) := by
  induction inputs generalizing l with
  | nil => rfl
  | cons input rest ih =>
      have hreports : (linkMachine.step l input).2.map Prod.fst = (loopStep l.fw input.1).2 := by
        simp [linkMachine, Function.comp_def]
      rw [Machine.state_cons, Machine.outputs_cons, List.map_append, latest_append, hreports,
        ← loopStep_latest]
      exact ih _

/-- The attempts that succeeded. -/
def delivered (tries : List (Joystick × Bool)) : List Joystick :=
  tries.filterMap fun a => if a.2 then some a.1 else none

/-- The host holds the latest report delivered, or what it held before. -/
theorem deliver_eq (tries : List (Joystick × Bool)) (host : Option (List U8)) :
    tries.foldl usbJoystickSend host =
      ((delivered tries).getLast?.map usbSendCodes).or host := by
  induction tries generalizing host with
  | nil => rfl
  | cons a rest ih =>
      rw [List.foldl_cons, ih]
      obtain ⟨report, ok⟩ := a
      cases ok with
      | false => simp [usbJoystickSend, delivered]
      | true =>
          have hdelivered : delivered ((report, true) :: rest) = report :: delivered rest := rfl
          rw [hdelivered, List.getLast?_cons]
          cases (delivered rest).getLast? <;> rfl

theorem run_host (inputs : List (LoopInput × (Nat → Bool))) (l : Link) :
    (linkMachine.state l inputs).host =
      (linkMachine.outputs l inputs).foldl usbJoystickSend l.host := by
  induction inputs generalizing l with
  | nil => rfl
  | cons input rest ih =>
      rw [Machine.state_cons, Machine.outputs_cons, List.foldl_append, ih]
      rfl

theorem delivered_getLast? {tries : List (Joystick × Bool)} {report : Joystick}
    (h : tries.getLast? = some (report, true)) : (delivered tries).getLast? = some report := by
  obtain ⟨before, rfl⟩ := List.getLast?_eq_some_iff.mp h
  simp [delivered]

/-- In every run, whatever sends fail, the host holds the state of the latest
attempt that succeeded, the current state is that of the latest attempt, and so
the two agree whenever the latest attempt succeeded. -/
theorem host_report (ok : Bool) (inputs : List (LoopInput × (Nat → Bool))) :
    (linkMachine.state (begun ok) inputs).host =
        (delivered (attempts ok inputs)).getLast?.map usbSendCodes ∧
      (attempts ok inputs).getLast?.map Prod.fst =
        some (linkMachine.state (begun ok) inputs).fw.joy ∧
      ((attempts ok inputs).getLast?.map Prod.snd = some true →
        (linkMachine.state (begun ok) inputs).host =
          some (usbSendCodes (linkMachine.state (begun ok) inputs).fw.joy)) := by
  have hhost : (linkMachine.state (begun ok) inputs).host =
      (delivered (attempts ok inputs)).getLast?.map usbSendCodes := by
    rw [run_host, ← Option.or_none (o := Option.map _ _), ← deliver_eq]
    rfl
  have hcurrent : (attempts ok inputs).getLast?.map Prod.fst =
      some (linkMachine.state (begun ok) inputs).fw.joy := by
    rw [run_latest, latest, attempts, List.getLast?_cons, List.getLast?_map]
    cases (linkMachine.outputs (begun ok) inputs).getLast? <;> rfl
  refine ⟨hhost, hcurrent, fun hok => ?_⟩
  cases hlast : (attempts ok inputs).getLast? with
  | none => simp [hlast] at hok
  | some a =>
      obtain ⟨report, sent⟩ := a
      rw [hlast] at hok hcurrent
      obtain rfl : sent = true := Option.some.inj hok
      have hreport : report = (linkMachine.state (begun ok) inputs).fw.joy :=
        Option.some.inj hcurrent
      rw [hhost, delivered_getLast? hlast, hreport]
      rfl

/-- Nothing is queued for either driver and no idle timeout is due. -/
def NothingPending (fw : Firmware) : Prop :=
  fw.kb.rx.ringbuffer.contents = [] ∧ fw.ms.driver.ringbuffer.contents = [] ∧
    fw.ms.trigger.action = 0#8

instance (fw : Firmware) : Decidable (NothingPending fw) :=
  inferInstanceAs (Decidable (_ ∧ _))

/-- A round of the main loop while the endpoint accepts data. -/
def readyRound : LoopInput × (Nat → Bool) := (.round, fun _ => true)

/-- `Space` goes down with a send that succeeds and up with one that fails. -/
def failedRelease : List (LoopInput × (Nat → Bool)) :=
  [(.event (.scancode (kbKeyPress spaceKey)), fun _ => true),
    (.event (.scancode (kbKeyRelease spaceKey)), fun _ => false)]

/-- The host still sees the button down after the main loop has gone round with
the endpoint ready and nothing pending. -/
theorem failedRelease_stale :
    ¬ ∀ (ok : Bool) (inputs : List (LoopInput × (Nat → Bool))) (rounds : Nat), 0 < rounds →
      let l := linkMachine.state (begun ok) (inputs ++ List.replicate rounds readyRound)
      NothingPending l.fw → l.host = some (usbSendCodes l.fw.joy) := by
  intro h
  have hhost := h true failedRelease 3 (by decide) (by decide +kernel)
  revert hhost
  decide +kernel

end DiyPs3Controller.HostReports
