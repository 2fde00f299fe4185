import DiyPs3Controller.Foundations.Histories
import DiyPs3Controller.Firmware.MouseButtons

/-!
# The wheel over a run

A packet with a wheel movement presses R2 or L2, a packet without one releases
both, and so does an idle timeout. `EventDispatcher` takes a wheel byte as
negative when it is greater than 128, so `0x80` counts as a movement forwards.
-/

namespace DiyPs3Controller.WheelButtons

open Histories UsbJoystick MouseDriver Events HeldControls KeyControls MouseButtons

/-- A mouse packet, or a mouse idle timeout. -/
inductive MouseEvent
  | packet (packet : Packet)
  | idleTimeout
  deriving DecidableEq, Repr

/-- The event of the drivers. -/
def toEvent : MouseEvent → Event
  | .packet packet => .packet packet
  | .idleTimeout => .idleTimeout

/-- The drivers with nothing typed. -/
def mouseMachine : Machine Firmware MouseEvent Joystick := eventMachine.comap toEvent

/-- A wheel byte that is positive as a signed number. -/
def Forwards : MouseEvent → Prop
  | .packet packet => 0 < packet.z.toInt
  | .idleTimeout => False

/-- A wheel byte that is negative as a signed number. -/
def Backwards : MouseEvent → Prop
  | .packet packet => packet.z.toInt < 0
  | .idleTimeout => False

/-- A packet without wheel movement, or an idle timeout. -/
def Still : MouseEvent → Prop
  | .packet packet => packet.z = 0#8
  | .idleTimeout => True

/-- R2 and L2 are as the wheel has been turned since it was last still. -/
structure Turned (events : List MouseEvent) : Prop where
  r2 : isDown r2Button (mouseMachine.state started events).joy = true ↔
    Latched Forwards Still events
  l2 : isDown l2Button (mouseMachine.state started events).joy = true ↔
    Latched Backwards Still events

/-- The two buttons are so after every step. -/
def TurnedThroughout (events : List MouseEvent) : Prop :=
  ∀ before after, events = before ++ after → Turned before

/-- The wheel byte that is its own negation. -/
def Extreme : MouseEvent → Prop
  | .packet packet => packet.z = 0x80#8
  | .idleTimeout => False

/-- The byte `0x80` comes only when the wheel has been turned both ways since it
was last still. -/
def ExtremesHidden (events : List MouseEvent) : Prop :=
  ∀ before e after, events = before ++ e :: after → Extreme e →
    Latched Forwards Still before ∧ Latched Backwards Still before

/-- What a wheel byte writes to the two buttons. -/
theorem writes_wheel (z : U8) :
    writes .r2 (wheel z) = (if z = 0#8 then [false] else if 128#8 < z then [] else [true]) ∧
      writes .l2 (wheel z) = (if z = 0#8 then [false] else if 128#8 < z then [true] else []) := by
  by_cases hz : z = 0#8
  · rw [hz, wheel_still]
    exact ⟨rfl, rfl⟩
  · have hpos : ∀ v : U8, v ≠ 0#8 → 0#8 < v ∧ 1#8 ≤ v := fun v hv => by bv_omega
    by_cases hsign : 128#8 < z
    · have hneg : ~~~z + 1#8 ≠ 0#8 := by bv_omega
      have hcalls : wheel z = [.press l2Button] := by
        simp [wheel, hsign, hpos _ hneg]
      rw [hcalls, if_neg hz, if_neg hz, if_pos hsign, if_pos hsign]
      exact ⟨rfl, rfl⟩
    · have hcalls : wheel z = [.press r2Button] := by
        simp [wheel, hsign, hpos _ hz]
      rw [hcalls, if_neg hz, if_neg hz, if_neg hsign, if_neg hsign]
      exact ⟨rfl, rfl⟩

/-- A packet writes to R2 and L2 what its wheel byte writes. -/
theorem writes_wheelPacket {button : MouseButton} (hbutton : button = .r2 ∨ button = .l2)
    (d : Dispatch) (packet : Packet) :
    writes button (joyCalls d (.packet packet)) = writes button (wheel packet.z) := by
  have hleft : r1Button &&& button.bit = 0#16 := by rcases hbutton with rfl | rfl <;> decide
  have hright : l1Button &&& button.bit = 0#16 := by rcases hbutton with rfl | rfl <;> decide
  have hmiddle : rightHatButton &&& button.bit = 0#16 := by
    rcases hbutton with rfl | rfl <;> decide
  rw [writes_packet, writes_otherEdge hleft, writes_otherEdge hright, writes_otherEdge hmiddle,
    List.append_nil, List.append_nil, List.nil_append]

/-- The sign of a wheel byte, and where `EventDispatcher` takes it otherwise. -/
theorem toInt_pos_iff (z : U8) : 0 < z.toInt ↔ z ≠ 0#8 ∧ ¬128#8 < z ∧ z ≠ 0x80#8 := by
  have hcond := BitVec.toInt_eq_toNat_cond z
  split_ifs at hcond <;> bv_omega

theorem toInt_neg_iff (z : U8) : z.toInt < 0 ↔ 128#8 < z ∨ z = 0x80#8 := by
  have hcond := BitVec.toInt_eq_toNat_cond z
  split_ifs at hcond <;> bv_omega

section Step
variable (fw : Firmware)

theorem r2_packet (packet : Packet) :
    isDown r2Button (mouseMachine.step fw (.packet packet)).1.joy =
      if packet.z = 0#8 then false else if 128#8 < packet.z then isDown r2Button fw.joy
      else true := by
  have hdown := isDown_handle .r2 fw (.packet packet)
  rw [writes_wheelPacket (Or.inl rfl), (writes_wheel packet.z).1] at hdown
  refine hdown.trans ?_
  split_ifs <;> rfl

theorem l2_packet (packet : Packet) :
    isDown l2Button (mouseMachine.step fw (.packet packet)).1.joy =
      if packet.z = 0#8 then false else if 128#8 < packet.z then true
      else isDown l2Button fw.joy := by
  have hdown := isDown_handle .l2 fw (.packet packet)
  rw [writes_wheelPacket (Or.inr rfl), (writes_wheel packet.z).2] at hdown
  refine hdown.trans ?_
  split_ifs <;> rfl

/-- An idle timeout releases both. -/
theorem released_idle :
    isDown r2Button (mouseMachine.step fw .idleTimeout).1.joy = false ∧
      isDown l2Button (mouseMachine.step fw .idleTimeout).1.joy = false :=
  ⟨isDown_handle .r2 fw .idleTimeout, isDown_handle .l2 fw .idleTimeout⟩

end Step

theorem turned_nil : Turned [] where
  r2 := ⟨fun hdown => absurd hdown (by decide), fun h => absurd h (not_latched_nil _ _)⟩
  l2 := ⟨fun hdown => absurd hdown (by decide), fun h => absurd h (not_latched_nil _ _)⟩

/-- One more step. -/
theorem turned_step (before : List MouseEvent) (e : MouseEvent) (h : Turned before) :
    Turned (before ++ [e]) ↔
      (Extreme e → Latched Forwards Still before ∧ Latched Backwards Still before) := by
  have hstate : mouseMachine.state started (before ++ [e]) =
      (mouseMachine.step (mouseMachine.state started before) e).1 := Machine.state_append ..
  obtain ⟨hr2, hl2⟩ := h
  have hiff : Turned (before ++ [e]) ↔
      (isDown r2Button (mouseMachine.step (mouseMachine.state started before) e).1.joy = true ↔
          Latched Forwards Still (before ++ [e])) ∧
        (isDown l2Button (mouseMachine.step (mouseMachine.state started before) e).1.joy = true ↔
          Latched Backwards Still (before ++ [e])) := by
    rw [← hstate]
    exact ⟨fun h => ⟨h.r2, h.l2⟩, fun h => ⟨h.1, h.2⟩⟩
  rw [hiff, latched_concat_iff, latched_concat_iff]
  cases e with
  | idleTimeout =>
      obtain ⟨hnoR2, hnoL2⟩ := released_idle (mouseMachine.state started before)
      rw [hnoR2, hnoL2]
      simp [Extreme, Forwards, Backwards, Still]
  | packet packet =>
      rw [r2_packet, l2_packet]
      simp only [Extreme, Forwards, Backwards, Still, toInt_pos_iff, toInt_neg_iff, ← hr2, ← hl2]
      by_cases hzero : packet.z = 0#8
      · simp [hzero]
      · by_cases hsign : 128#8 < packet.z
        · have hne : packet.z ≠ 0x80#8 := by bv_omega
          simp [hzero, hsign, hne]
        · by_cases hextreme : packet.z = 0x80#8
          · simp [hextreme]
          · simp [hzero, hsign, hextreme]

/-- In every run of packets and idle timeouts from start-up the two buttons are
as the wheel has been turned, after every step, exactly when each byte `0x80`
comes after movements both ways. -/
theorem turnedThroughout_iff (events : List MouseEvent) :
    TurnedThroughout events ↔ ExtremesHidden events :=
  forall_prefix_iff turned_nil turned_step events

/-- One packet with the wheel byte `0x80`. -/
def extremePacket : MouseEvent :=
  .packet { size := 4#8, bytes := [0x08#8, 0#8, 0#8, 0x80#8] }

/-- R2 is set for a movement backwards. -/
theorem extremePacket_not_turned : ¬∀ events, TurnedThroughout events := by
  intro h
  have hturned := h [extremePacket] [extremePacket] [] rfl
  have hdown : isDown r2Button (mouseMachine.state started [extremePacket]).joy = true := by
    decide +kernel
  obtain ⟨before, e, after, hsplit, hset, -⟩ := hturned.r2.mp hdown
  have hmem : e ∈ [extremePacket] := by simp [hsplit]
  rw [List.mem_singleton.mp hmem] at hset
  exact ((toInt_pos_iff 0x80#8).mp hset).2.2 rfl

end DiyPs3Controller.WheelButtons
