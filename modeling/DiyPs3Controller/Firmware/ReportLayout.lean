import Mathlib.Data.List.Forall2
import DiyPs3Controller.Foundations.HidReports
import DiyPs3Controller.Firmware.KeyControls

/-!
# Reports against their descriptor

The six bytes of `usb_send_codes`, unpacked as `joystick_hid_report_desc` tells
the host to, give back the axes, the hat and the twelve buttons. The hat is a
direction or the null value in every report that the firmware makes.
-/

namespace DiyPs3Controller.ReportLayout

open BitLists HidReports UsbJoystick MouseDriver KeyboardDriver Events HeldControls KeyControls

/-- `joystick_hid_report_desc` -/
def joystickHidReportDesc : List U8 := [
  0x05#8, 0x01#8,
  0x09#8, 0x04#8,
  0xA1#8, 0x01#8,
  0xA1#8, 0x02#8,
  0x15#8, 0x00#8,
  0x26#8, 0xFF#8, 0x00#8,
  0x35#8, 0x00#8,
  0x46#8, 0xFF#8, 0x00#8,
  0x75#8, 0x08#8,
  0x95#8, 0x04#8,
  0x09#8, 0x30#8,
  0x09#8, 0x31#8,
  0x09#8, 0x32#8,
  0x09#8, 0x35#8,
  0x81#8, 0x02#8,
  0x25#8, 0x07#8,
  0x46#8, 0x3B#8, 0x01#8,
  0x75#8, 0x04#8,
  0x95#8, 0x01#8,
  0x65#8, 0x14#8,
  0x09#8, 0x39#8,
  0x81#8, 0x42#8,
  0x65#8, 0x00#8,
  0x25#8, 0x01#8,
  0x45#8, 0x01#8,
  0x75#8, 0x01#8,
  0x95#8, 0x0C#8,
  0x05#8, 0x09#8,
  0x19#8, 0x01#8,
  0x29#8, 0x0C#8,
  0x81#8, 0x02#8,
  0xC0#8,
  0xC0#8]

/-- An axis of the generic desktop page, eight bits wide. -/
def axisField (usage : Nat) : Field where
  usagePage := 0x01
  usage := usage
  size := 8
  logicalMinimum := 0
  logicalMaximum := 255
  flags := 0x02#9

/-- The hat switch, four bits wide and with a null state. -/
def hatField : Field where
  usagePage := 0x01
  usage := 0x39
  size := 4
  logicalMinimum := 0
  logicalMaximum := 7
  flags := 0x42#9

/-- A button of the button page. -/
def buttonField (number : Nat) : Field where
  usagePage := 0x09
  usage := number
  size := 1
  logicalMinimum := 0
  logicalMaximum := 1
  flags := 0x02#9

/-- Axes X, Y, Z and Rz, the hat, and buttons 1 to 12. -/
def joystickFields : List Field :=
  [axisField 0x30, axisField 0x31, axisField 0x32, axisField 0x35, hatField] ++
    (List.range 12).map fun i => buttonField (i + 1)

theorem joystickHidReportDesc_fields :
    reportFields joystickHidReportDesc = some joystickFields := by
  decide +kernel

/-- What the fields should show: the axes, the low nibble and the twelve bits above it. -/
def shownValues (j : Joystick) : List Nat :=
  [j.axisX.toNat, j.axisY.toNat, j.axisZ.toNat, j.axisRz.toNat, (hat j).toNat] ++
    (List.range 12).map fun i => (j.buttons.getLsbD (i + 4)).toNat

section Layout
variable (j : Joystick)

/-- The twelve bits above the hat. -/
def buttonBits : List Bool := (List.range 12).map fun i => j.buttons.getLsbD (i + 4)

/-- The button word goes out as the hat and then the buttons. -/
theorem buttonWord_bits :
    toLsb (j.buttons.setWidth 8) ++ toLsb ((j.buttons >>> 8).setWidth 8) =
      toLsb (j.buttons.setWidth 4) ++ buttonBits j := by
  simp [toLsb, buttonBits, List.range_succ]

theorem report_bits :
    reportBits (usbSendCodes j) =
      toLsb j.axisX ++ (toLsb j.axisY ++ (toLsb j.axisZ ++ (toLsb j.axisRz ++
        (toLsb (j.buttons.setWidth 4) ++ buttonBits j)))) := by
  rw [← buttonWord_bits]
  simp [reportBits, usbSendCodes]

theorem hat_toNat : (hat j).toNat = (j.buttons.setWidth 4).toNat := by
  have hlow : (15 : Nat) = 2 ^ 4 - 1 := rfl
  rw [hat, BitVec.toNat_and, BitVec.toNat_setWidth]
  exact Nat.and_two_pow_sub_one_eq_mod j.buttons.toNat 4

/-- Unpacked by its descriptor a report shows the state it was made from. -/
theorem unpack_usbSendCodes :
    unpack joystickFields (reportBits (usbSendCodes j)) = shownValues j := by
  have haxis : ∀ usage, (axisField usage).size = 8 := fun _ => rfl
  have hhat : hatField.size = 4 := rfl
  have hbuttons : ∀ f ∈ (List.range 12).map (fun i => buttonField (i + 1)), f.size = 1 := by
    intro f hf
    obtain ⟨i, -, rfl⟩ := List.mem_map.mp hf
    rfl
  rw [report_bits, joystickFields]
  simp only [List.cons_append, List.nil_append]
  rw [unpack_cons (haxis _), unpack_cons (haxis _), unpack_cons (haxis _),
    unpack_cons (haxis _), unpack_cons hhat, unpack_flags hbuttons (by simp [buttonBits]),
    ← hat_toNat]
  simp [shownValues, buttonBits]

end Layout

/-- The hat is a direction or the null value. -/
def HatInRange (j : Joystick) : Prop := hat j ≤ 8#16

/-- A call that leaves the hat alone or moves it to a value in range. -/
def KeepsHat : JoyCall → Prop
  | .press button | .release button => button &&& 0x000F#16 = 0#16
  | .pressDir dir => dir &&& 0x000F#16 ≤ 8#16
  | .moveX _ | .moveY _ | .moveZrz _ _ | .send => True

instance (call : JoyCall) : Decidable (KeepsHat call) :=
  match call with
  | .press _ | .release _ => inferInstanceAs (Decidable (_ = _))
  | .pressDir _ => inferInstanceAs (Decidable (_ ≤ _))
  | .moveX _ | .moveY _ | .moveZrz _ _ | .send => inferInstanceAs (Decidable True)

/-- Such a call keeps the hat in range. -/
theorem apply_keepsHat {j : Joystick} {call : JoyCall} (hj : HatInRange j) (hcall : KeepsHat call) :
    HatInRange (call.apply j) := by
  unfold HatInRange hat at hj ⊢
  rw [apply_mask]
  cases call with
  | press button =>
      have hbutton : button &&& 0x000F#16 = 0#16 := hcall
      rw [onMask, hbutton, BitVec.or_zero]
      exact hj
  | release button =>
      have hbutton : button &&& 0x000F#16 = 0#16 := hcall
      rw [onMask, hbutton, BitVec.not_zero, BitVec.and_allOnes]
      exact hj
  | pressDir dir =>
      have hlow : 0x000F#16 &&& 0xFFF0#16 = 0#16 := by decide
      rw [onMask, BitVec.and_assoc, hlow, BitVec.and_zero, BitVec.zero_or]
      exact hcall
  | moveX _ | moveY _ | moveZrz _ _ | send => exact hj

theorem keyCases_keepsHat : ∀ entry ∈ keyCases, KeepsHat entry.2 := by
  decide +kernel

theorem buttonEdge_keepsHat {button : U16} (hbutton : button &&& 0x000F#16 = 0#16)
    (remembered now : Bool) : ∀ call ∈ (buttonEdge remembered now button).2, KeepsHat call :=
  forall_buttonEdge hbutton hbutton remembered now

theorem wheel_keepsHat (z : U8) : ∀ call ∈ wheel z, KeepsHat call :=
  forall_wheel (by decide) (by decide) z

/-- No event makes a call that takes the hat out of range. -/
theorem joyCalls_keepsHat (d : Dispatch) (e : Event) : ∀ call ∈ joyCalls d e, KeepsHat call := by
  cases e with
  | scancode scancode =>
      exact forall_keySwitch (fun call => keyCases_keepsHat (scancode, call)) trivial
  | packet packet =>
      rw [joyCalls]
      apply forall_eventDispatcher
      · exact fun _ _ => trivial
      · exact buttonEdge_keepsHat (by decide) _ _
      · exact buttonEdge_keepsHat (by decide) _ _
      · exact buttonEdge_keepsHat (by decide) _ _
      · exact wheel_keepsHat packet.z
      · trivial
  | idleTimeout =>
      rw [joyCalls]
      decide

/-- The calls of an event keep the hat in range and send it so. -/
theorem calls_hat {calls : List JoyCall} (hcalls : ∀ call ∈ calls, KeepsHat call) {j : Joystick}
    (hj : HatInRange j) :
    HatInRange (joyMachine.state j calls) ∧
      ∀ report ∈ joyMachine.outputs j calls, HatInRange report := by
  refine Machine.run_of_step ?_ hj hcalls
  intro j call hj hcall
  refine ⟨apply_keepsHat hj hcall, ?_⟩
  intro report hreport
  rw [joyMachine_step] at hreport
  split at hreport
  · rwa [List.mem_singleton.mp hreport]
  · exact absurd hreport List.not_mem_nil

theorem events_hat {fw : Firmware} (hfw : HatInRange fw.joy) (events : List Event) :
    HatInRange (eventMachine.state fw events).joy ∧
      ∀ report ∈ eventMachine.outputs fw events, HatInRange report := by
  refine Machine.run_of_step (I := fun fw : Firmware => HatInRange fw.joy)
    (N := fun _ => True) ?_ hfw fun _ _ => trivial
  intro fw e hfw _
  obtain ⟨hjoy, hreports⟩ := handle_joy fw e
  have hcalls := calls_hat (joyCalls_keepsHat fw.ms.dispatch e) hfw
  rw [← hjoy, ← hreports] at hcalls
  exact hcalls

/-- Every field of such a state shows a value that its descriptor admits. -/
theorem shownValues_accepted (j : Joystick) :
    List.Forall₂ Field.Accepts joystickFields (shownValues j) := by
  have haxis : ∀ (usage : Nat) (v : U8), (axisField usage).Accepts v.toNat := by
    intro usage v
    left
    have hv : v.toNat < 256 := v.isLt
    simp only [axisField]
    omega
  have hhat : hatField.Accepts (hat j).toNat := Or.inr rfl
  have hbutton : ∀ (number : Nat) (b : Bool), (buttonField number).Accepts b.toNat := by
    intro number b
    left
    cases b <;> simp [buttonField]
  have hbuttons : List.Forall₂ Field.Accepts ((List.range 12).map fun i => buttonField (i + 1))
      ((List.range 12).map fun i => (j.buttons.getLsbD (i + 4)).toNat) := by
    rw [List.forall₂_map_left_iff, List.forall₂_map_right_iff, List.forall₂_same]
    exact fun i _ => hbutton _ _
  exact .cons (haxis _ _) (.cons (haxis _ _) (.cons (haxis _ _) (.cons (haxis _ _)
    (.cons hhat hbuttons))))

/-- From a controller at rest, over every run of events, the state and every
report on the way unpack to the axes, the hat and the twelve buttons that they
were made from, with values that the descriptor admits, and the hat is one of
its eight directions or the null value. -/
theorem reports_faithful (kb : Keyboard) (ms : Mouse) (events : List Event) :
    reportFields joystickHidReportDesc = some joystickFields ∧
      ∀ j, j = (eventMachine.state (neutralStart kb ms) events).joy ∨
          j ∈ eventMachine.outputs (neutralStart kb ms) events →
        unpack joystickFields (reportBits (usbSendCodes j)) = shownValues j ∧
          List.Forall₂ Field.Accepts joystickFields (shownValues j) ∧ (hat j).toNat ≤ 8 := by
  have hraz : HatInRange usbJoystickRaz := by
    unfold HatInRange
    decide
  have hstart : HatInRange (neutralStart kb ms).joy := hraz
  obtain ⟨hstate, hreports⟩ := events_hat hstart events
  refine ⟨joystickHidReportDesc_fields, ?_⟩
  intro j hj
  have hhat : HatInRange j := by
    rcases hj with rfl | hj
    · exact hstate
    · exact hreports j hj
  exact ⟨unpack_usbSendCodes j, shownValues_accepted j, hhat⟩

/-- `D3` down, an idle timeout and `D3` up, with the report that shows the key. -/
theorem reports_faithful_d3 :
    unpack joystickFields
        (reportBits (usbSendCodes { usbJoystickRaz with buttons := leftButton })) =
        shownValues { usbJoystickRaz with buttons := leftButton } ∧
      List.Forall₂ Field.Accepts joystickFields
        (shownValues { usbJoystickRaz with buttons := leftButton }) ∧
      (hat { usbJoystickRaz with buttons := leftButton }).toNat ≤ 8 :=
  (reports_faithful kbInit msInit
    [.scancode (kbKeyPress d3Key), .idleTimeout, .scancode (kbKeyRelease d3Key)]).2 _
    (Or.inr (by decide +kernel))

end DiyPs3Controller.ReportLayout
