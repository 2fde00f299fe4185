import DiyPs3Controller.Firmware.KeyControls

/-!
# The buttons that the mouse drives

`EventDispatcher` writes R1 and L1 only when the mouse button of a packet
differs from the remembered one. Nothing else writes these two buttons, so what
is remembered and what the button word shows never come apart.
-/

namespace DiyPs3Controller.MouseButtons

open UsbJoystick MouseDriver KeyboardDriver Events HeldControls KeyControls

/-- The buttons of the joystick for the left and the right mouse button, and for
the wheel turned one way or the other. -/
inductive MouseButton
  | r1
  | l1
  | r2
  | l2
  deriving DecidableEq, Repr

/-- The bit of the button in the button word. -/
def MouseButton.bit : MouseButton → U16
  | .r1 => r1Button
  | .l1 => l1Button
  | .r2 => r2Button
  | .l2 => l2Button

/-- What a call writes to a button, if it writes it. -/
def buttonWrite (button : MouseButton) (call : JoyCall) : Option Bool :=
  (maskWrite button.bit call).map (· == button.bit)

/-- What calls write to a button, in order. -/
def writes (button : MouseButton) (calls : List JoyCall) : List Bool :=
  calls.filterMap (buttonWrite button)

theorem writes_append (button : MouseButton) (xs ys : List JoyCall) :
    writes button (xs ++ ys) = writes button xs ++ writes button ys := List.filterMap_append

section Calls
variable (button : MouseButton)

theorem isDown_apply {call : JoyCall} (h : WritesWhole button.bit call) (j : Joystick) :
    isDown button.bit (call.apply j) =
      (buttonWrite button call).getD (isDown button.bit j) := by
  rw [isDown, apply_maskWrite h j, buttonWrite]
  cases maskWrite button.bit call <;> rfl

/-- After calls a button is as the last of them that writes it says. -/
theorem isDown_calls {calls : List JoyCall} (h : ∀ call ∈ calls, WritesWhole button.bit call)
    (j : Joystick) :
    isDown button.bit (joyMachine.state j calls) =
      (writes button calls).getLast?.getD (isDown button.bit j) := by
  have hrun : isDown button.bit (joyMachine.state j calls) =
      lastWrite (buttonWrite button) (isDown button.bit j) calls := by
    induction calls generalizing j with
    | nil => rfl
    | cons call rest ih =>
        obtain ⟨hcall, hrest⟩ := List.forall_mem_cons.mp h
        rw [Machine.state_cons, ih hrest, lastWrite_cons, joyMachine_step,
          isDown_apply button hcall]
  exact hrun

/-- The key switch writes each of the buttons whole. -/
theorem keyCases_whole : ∀ entry ∈ keyCases, WritesWhole button.bit entry.2 := by
  cases button <;> decide +kernel

/-- An edge on one button of the word. -/
theorem buttonEdge_whole (edge : U16)
    (hedge : edge &&& button.bit = 0#16 ∨ edge &&& button.bit = button.bit)
    (remembered now : Bool) :
    ∀ call ∈ (buttonEdge remembered now edge).2, WritesWhole button.bit call :=
  forall_buttonEdge hedge hedge remembered now

theorem wheel_whole (z : U8) : ∀ call ∈ wheel z, WritesWhole button.bit call :=
  forall_wheel (by cases button <;> decide) (by cases button <;> decide) z

/-- Every call of an event writes a button whole or leaves it alone. -/
theorem joyCalls_whole (d : Dispatch) (e : Event) :
    ∀ call ∈ joyCalls d e, WritesWhole button.bit call := by
  cases e with
  | scancode scancode =>
      exact forall_keySwitch (fun call => keyCases_whole button (scancode, call)) trivial
  | packet packet =>
      have hleft := buttonEdge_whole button r1Button (by cases button <;> decide)
        d.left packet.left
      have hright := buttonEdge_whole button l1Button (by cases button <;> decide)
        d.right packet.right
      have hmiddle := buttonEdge_whole button rightHatButton (by cases button <;> decide)
        d.middle packet.middle
      exact forall_eventDispatcher (fun _ _ => trivial) hleft hright hmiddle
        (wheel_whole button packet.z) trivial
  | idleTimeout => cases button <;> exact of_decide_eq_true rfl

/-- After an event a button is as the last call that writes it says. -/
theorem isDown_handle (fw : Firmware) (e : Event) :
    isDown button.bit (handle fw e).1.joy =
      (writes button (joyCalls fw.ms.dispatch e)).getLast?.getD (isDown button.bit fw.joy) := by
  rw [(handle_joy fw e).1]
  exact isDown_calls button (joyCalls_whole button fw.ms.dispatch e) fw.joy

end Calls

/-- What a packet writes to a button, part by part. -/
theorem writes_packet (button : MouseButton) (d : Dispatch) (packet : Packet) :
    writes button (joyCalls d (.packet packet)) =
      writes button (buttonEdge d.left packet.left r1Button).2 ++
        writes button (buttonEdge d.right packet.right l1Button).2 ++
        writes button (buttonEdge d.middle packet.middle rightHatButton).2 ++
        writes button (wheel packet.z) := by
  have hmove : ∀ calls, writes button (.moveZrz (val (vectorX packet) 3)
      (0xFF#8 - val (vectorY packet) 3) :: calls) = writes button calls := fun calls => rfl
  have hsend : writes button [.send] = [] := rfl
  rw [joyCalls, eventDispatcher, eventDispatcherBy, hmove, writes_append, hsend, List.append_nil, writes_append,
    writes_append, writes_append]

/-- An edge on another button writes nothing. -/
theorem writes_otherEdge {button : MouseButton} {edge : U16} (hedge : edge &&& button.bit = 0#16)
    (remembered now : Bool) : writes button (buttonEdge remembered now edge).2 = [] := by
  have hpress : buttonWrite button (.press edge) = none := by
    simp [buttonWrite, maskWrite, hedge]
  have hrelease : buttonWrite button (.release edge) = none := by
    simp [buttonWrite, maskWrite, hedge]
  unfold buttonEdge
  split_ifs
  · rfl
  · simp [writes, hpress]
  · simp [writes, hrelease]

/-- An edge on the button itself writes its new value, if that differs. -/
theorem writes_edge (button : MouseButton) (remembered now : Bool) :
    writes button (buttonEdge remembered now button.bit).2 =
      if now = remembered then [] else [now] := by
  cases button <;> cases remembered <;> cases now <;> decide

/-- The wheel writes neither R1 nor L1. -/
theorem writes_wheel_none {button : MouseButton} (hbutton : button = .r1 ∨ button = .l1) (z : U8) :
    writes button (wheel z) = [] := by
  by_cases hz : z = 0#8
  · rw [hz, wheel_still]
    rcases hbutton with rfl | rfl <;> rfl
  · rcases wheel_moved hz with h | h <;> rw [h] <;> rcases hbutton with rfl | rfl <;> rfl

/-- A packet writes to R1 and L1 what has changed of its buttons. -/
theorem writes_r1 (d : Dispatch) (packet : Packet) :
    writes .r1 (joyCalls d (.packet packet)) =
      if packet.left = d.left then [] else [packet.left] := by
  rw [writes_packet, writes_otherEdge (by decide : l1Button &&& MouseButton.r1.bit = 0#16),
    writes_otherEdge (by decide : rightHatButton &&& MouseButton.r1.bit = 0#16),
    writes_wheel_none (Or.inl rfl), List.append_nil, List.append_nil, List.append_nil]
  exact writes_edge .r1 d.left packet.left

theorem writes_l1 (d : Dispatch) (packet : Packet) :
    writes .l1 (joyCalls d (.packet packet)) =
      if packet.right = d.right then [] else [packet.right] := by
  rw [writes_packet, writes_otherEdge (by decide : r1Button &&& MouseButton.l1.bit = 0#16),
    writes_otherEdge (by decide : rightHatButton &&& MouseButton.l1.bit = 0#16),
    writes_wheel_none (Or.inr rfl), List.nil_append, List.append_nil, List.append_nil]
  exact writes_edge .l1 d.right packet.right

/-- No event but a packet writes R1 or L1. -/
theorem writes_none {button : MouseButton} (hbutton : button = .r1 ∨ button = .l1) (d : Dispatch)
    {e : Event} (hother : ∀ packet, e ≠ .packet packet) : writes button (joyCalls d e) = [] := by
  cases e with
  | scancode scancode =>
      rcases keySwitch_cases scancode with hnone | ⟨call, hcase, hcalls⟩
      · rw [joyCalls, hnone]
        rfl
      · obtain ⟨⟨-, hr1⟩, -, hl1⟩ := untouched_cases (scancode, call) hcase
        have hnone : maskWrite button.bit call = none := by
          rcases hbutton with rfl | rfl
          · exact hr1
          · exact hl1
        have hcall : buttonWrite button call = none := by rw [buttonWrite, hnone, Option.map_none]
        rw [joyCalls, hcalls, writes, List.filterMap_cons, hcall]
        rfl
  | packet packet => exact absurd rfl (hother packet)
  | idleTimeout => rcases hbutton with rfl | rfl <;> rfl

/-- The buttons that are remembered after an event. -/
def rememberedAfter (d : Dispatch) : Event → Dispatch
  | .packet packet => { left := packet.left, right := packet.right, middle := packet.middle }
  | .scancode _ | .idleTimeout => d

theorem buttonEdge_fst (remembered now : Bool) (button : U16) :
    (buttonEdge remembered now button).1 = now := by
  unfold buttonEdge
  split
  · exact Eq.symm ‹now = remembered›
  · rfl

/-- The calls of the drivers leave the remembered buttons alone. -/
theorem handle_dispatch (fw : Firmware) (e : Event) :
    (handle fw e).1.ms.dispatch = rememberedAfter fw.ms.dispatch e := by
  have hkb : ∀ (fw : Firmware) calls, (kbCalls.state fw calls).ms.dispatch = fw.ms.dispatch := by
    intro fw calls
    refine Machine.state_of_step (M := kbCalls)
      (I := fun next : Firmware => next.ms.dispatch = fw.ms.dispatch) ?_ rfl calls
    intro next call h
    cases call <;> exact h
  have hms : ∀ (fw : Firmware) calls, (msCalls.state fw calls).ms.dispatch = fw.ms.dispatch := by
    intro fw calls
    refine Machine.state_of_step (M := msCalls)
      (I := fun next : Firmware => next.ms.dispatch = fw.ms.dispatch) ?_ rfl calls
    intro next call h
    cases call <;> exact h
  cases e with
  | scancode scancode => exact hkb _ _
  | packet packet =>
      have hedges : (eventDispatcher fw.ms.dispatch packet).1 =
          rememberedAfter fw.ms.dispatch (.packet packet) := by
        simp only [eventDispatcher, eventDispatcherBy, buttonEdge_fst, rememberedAfter]
      exact (hms _ _).trans hedges
  | idleTimeout => exact hms _ _

/-- What is remembered of the mouse is what the button word shows. -/
structure Coherent (fw : Firmware) : Prop where
  left : isDown r1Button fw.joy = fw.ms.dispatch.left
  right : isDown l1Button fw.joy = fw.ms.dispatch.right

/-- A packet shows its buttons on R1 and L1, and every other event leaves them alone. -/
def Agrees (fw : Firmware) (e : Event) (next : Firmware) : Prop :=
  match e with
  | .packet packet =>
      isDown r1Button next.joy = packet.left ∧ isDown l1Button next.joy = packet.right
  | .scancode _ | .idleTimeout =>
      isDown r1Button next.joy = isDown r1Button fw.joy ∧
        isDown l1Button next.joy = isDown l1Button fw.joy

/-- An edge leaves the button as it is now. -/
theorem edge_shown (remembered now : Bool) :
    (if now = remembered then [] else [now]).getLast?.getD remembered = now := by
  split_ifs with hsame
  · exact hsame.symm
  · rfl

theorem agrees_step {fw : Firmware} (h : Coherent fw) (e : Event) :
    Agrees fw e (handle fw e).1 := by
  have hr1 := isDown_handle .r1 fw e
  have hl1 := isDown_handle .l1 fw e
  cases e with
  | packet packet =>
      rw [writes_r1, MouseButton.bit, h.left, edge_shown] at hr1
      rw [writes_l1, MouseButton.bit, h.right, edge_shown] at hl1
      exact ⟨hr1, hl1⟩
  | scancode scancode =>
      rw [writes_none (Or.inl rfl) _ (by simp)] at hr1
      rw [writes_none (Or.inr rfl) _ (by simp)] at hl1
      exact ⟨hr1, hl1⟩
  | idleTimeout =>
      rw [writes_none (Or.inl rfl) _ (by simp)] at hr1
      rw [writes_none (Or.inr rfl) _ (by simp)] at hl1
      exact ⟨hr1, hl1⟩

theorem coherent_step (fw : Firmware) (e : Event) (h : Coherent fw) :
    Coherent (handle fw e).1 := by
  have hagrees := agrees_step h e
  have hdispatch := handle_dispatch fw e
  cases e with
  | packet packet =>
      rw [rememberedAfter] at hdispatch
      exact ⟨by rw [hdispatch]; exact hagrees.1, by rw [hdispatch]; exact hagrees.2⟩
  | scancode _ | idleTimeout =>
      rw [rememberedAfter] at hdispatch
      exact ⟨by rw [hdispatch, hagrees.1, h.left], by rw [hdispatch, hagrees.2, h.right]⟩

/-- After any events from start-up, one more event agrees with the mouse buttons. -/
theorem started_agrees (events : List Event) (e : Event) :
    Agrees (eventMachine.state started events) e (eventMachine.state started (events ++ [e])) := by
  have hstart : Coherent started := ⟨rfl, rfl⟩
  have hrun : Coherent (eventMachine.state started events) :=
    Machine.state_of_step coherent_step hstart events
  rw [Machine.state_append]
  exact agrees_step hrun e

end DiyPs3Controller.MouseButtons
