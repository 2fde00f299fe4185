import DiyPs3Controller.Ps2.MouseDriver
import DiyPs3Controller.Ps2.KeyboardDriver

/-!
# The two drivers over one joystick state

Keyboard scancodes, mouse packets and mouse idle timeouts, each handled by the
driver that it belongs to. The calls that a driver lists are carried out in
order on the joystick state and on the other driver; the outputs are the
joystick states that `usb_joystick_send` finds.
-/

namespace DiyPs3Controller.Events

open UsbJoystick MouseDriver KeyboardDriver

/-- The variables of both drivers and of the joystick. -/
structure Firmware where
  kb : Keyboard
  ms : Mouse
  joy : Joystick
  deriving DecidableEq

/-- Both drivers in any state, with the controller neutral. -/
def neutralStart (kb : Keyboard) (ms : Mouse) : Firmware :=
  { kb := kb, ms := ms, joy := usbJoystickRaz }

/-- A call on the joystick. -/
def Firmware.joyCall (fw : Firmware) (call : JoyCall) : Firmware × List Joystick :=
  ({ fw with joy := (joyMachine.step fw.joy call).1 }, (joyMachine.step fw.joy call).2)

/-- The calls of the keyboard driver. -/
def kbCalls : Machine Firmware KbCall Joystick where
  step fw
    | .kbSend _ => (fw, [])
    | .msMouseReset => ({ fw with ms := (msMouseReset fw.ms).1 }, [])
    | .joy call => fw.joyCall call

/-- The calls of the mouse driver; the dispatcher's own calls are listed behind it. -/
def msCalls : Machine Firmware MsCall Joystick where
  step fw
    | .sendByte _ => (fw, [])
    | .resetState => (fw, [])
    | .eventDispatcher _ => (fw, [])
    | .joy call => fw.joyCall call
    | .kbErrorStateLed => ({ fw with kb := kbErrorStateLed fw.kb }, [])

/-- Carrying out what a driver lists. -/
def perform {call : Type} (M : Machine Firmware call Joystick) (fw : Firmware)
    (calls : List call) : Firmware × List Joystick :=
  (M.state fw calls, M.outputs fw calls)

/-- A scancode, a mouse packet, or a mouse idle timeout. -/
inductive Event
  | scancode (scancode : U16)
  | packet (packet : Packet)
  | idleTimeout
  deriving DecidableEq, Repr

/-- `KB_KeyboardEventFilter`, `EventDispatcher` and the action branch of `MS_EventTask`. -/
def handle (fw : Firmware) : Event → Firmware × List Joystick
  | .scancode scancode =>
      let filtered := kbKeyboardEventFilter fw.kb scancode
      perform kbCalls { fw with kb := filtered.1 } filtered.2
  | .packet packet =>
      let dispatched := eventDispatcher fw.ms.dispatch packet
      perform msCalls { fw with ms := { fw.ms with dispatch := dispatched.1 } }
        (dispatched.2.map .joy)
  | .idleTimeout =>
      perform msCalls
        { fw with ms := { fw.ms with trigger := { fw.ms.trigger with action := 0#8 } } }
        (idleCalls.map .joy)

/-- The drivers as a machine over events. -/
def eventMachine : Machine Firmware Event Joystick := ⟨handle⟩

/-- The joystick calls among the keyboard driver's calls. -/
def kbJoy? : KbCall → Option JoyCall
  | .joy call => some call
  | _ => none

/-- The joystick calls among the mouse driver's calls. -/
def msJoy? : MsCall → Option JoyCall
  | .joy call => some call
  | _ => none

/-- The joystick calls that an event makes. -/
def joyCalls (d : Dispatch) : Event → List JoyCall
  | .scancode scancode => keySwitch scancode
  | .packet packet => (eventDispatcher d packet).2
  | .idleTimeout => idleCalls

section Calls
variable (fw : Firmware)

/-- Of the keyboard driver's calls only those on the joystick reach the joystick. -/
theorem kbCalls_joy (calls : List KbCall) :
    (kbCalls.state fw calls).joy = joyMachine.state fw.joy (calls.filterMap kbJoy?) ∧
      kbCalls.outputs fw calls = joyMachine.outputs fw.joy (calls.filterMap kbJoy?) := by
  induction calls generalizing fw with
  | nil => exact ⟨rfl, rfl⟩
  | cons call rest ih =>
      cases call with
      | kbSend data => exact ih fw
      | msMouseReset => exact ih _
      | joy call =>
          obtain ⟨hstate, hout⟩ := ih (fw.joyCall call).1
          exact ⟨hstate, congrArg ((fw.joyCall call).2 ++ ·) hout⟩

/-- Of the mouse driver's calls only those on the joystick reach the joystick. -/
theorem msCalls_joy (calls : List MsCall) :
    (msCalls.state fw calls).joy = joyMachine.state fw.joy (calls.filterMap msJoy?) ∧
      msCalls.outputs fw calls = joyMachine.outputs fw.joy (calls.filterMap msJoy?) := by
  induction calls generalizing fw with
  | nil => exact ⟨rfl, rfl⟩
  | cons call rest ih =>
      cases call with
      | sendByte data => exact ih fw
      | resetState => exact ih fw
      | eventDispatcher packet => exact ih fw
      | kbErrorStateLed => exact ih _
      | joy call =>
          obtain ⟨hstate, hout⟩ := ih (fw.joyCall call).1
          exact ⟨hstate, congrArg ((fw.joyCall call).2 ++ ·) hout⟩

/-- The commands of the keyboard driver are no joystick calls. -/
theorem commandFilter_joy (k : Keyboard) (scancode : U16) :
    (commandFilter k scancode).2.filterMap kbJoy? = [] := by
  have hresend : (resendRequested k).2.filterMap kbJoy? = [] := by
    simp only [resendRequested]
    split_ifs <;> rfl
  unfold commandFilter
  split_ifs
  all_goals first | rfl | exact hresend

theorem filter_joy (k : Keyboard) (scancode : U16) :
    (kbKeyboardEventFilter k scancode).2.filterMap kbJoy? = keySwitch scancode := by
  simp [kbKeyboardEventFilter, commandFilter_joy, List.filterMap_map, Function.comp_def, kbJoy?]

theorem msJoy_map (calls : List JoyCall) : (calls.map MsCall.joy).filterMap msJoy? = calls := by
  simp [List.filterMap_map, Function.comp_def, msJoy?]

/-- An event changes the joystick by its joystick calls alone. -/
theorem handle_joy (e : Event) :
    (handle fw e).1.joy = joyMachine.state fw.joy (joyCalls fw.ms.dispatch e) ∧
      (handle fw e).2 = joyMachine.outputs fw.joy (joyCalls fw.ms.dispatch e) := by
  cases e with
  | scancode scancode =>
      have hcalls := kbCalls_joy { fw with kb := (kbKeyboardEventFilter fw.kb scancode).1 }
        (kbKeyboardEventFilter fw.kb scancode).2
      rwa [filter_joy] at hcalls
  | packet packet =>
      have hcalls := msCalls_joy
        { fw with ms := { fw.ms with dispatch := (eventDispatcher fw.ms.dispatch packet).1 } }
        ((eventDispatcher fw.ms.dispatch packet).2.map .joy)
      rwa [msJoy_map] at hcalls
  | idleTimeout =>
      have hcalls := msCalls_joy
        { fw with ms := { fw.ms with trigger := { fw.ms.trigger with action := 0#8 } } }
        (idleCalls.map .joy)
      rwa [msJoy_map] at hcalls

end Calls

end DiyPs3Controller.Events
