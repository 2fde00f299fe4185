import DiyPs3Controller.Foundations.Machines
import DiyPs3Controller.Ps2.Avr

/-!
# The joystick state and its calls

The four axes and the button word of `usb_joystick.c`, with the functions that
both drivers call on them. A driver is modelled by the list of these calls it
makes; running the list gives the next joystick state and the state that each
`usb_joystick_send` finds. Whether a send reaches the host is not decided here.
-/

namespace DiyPs3Controller.UsbJoystick

def upButton : U16 := 0x0000#16
def rightButton : U16 := 0x0002#16
def downButton : U16 := 0x0004#16
def leftButton : U16 := 0x0006#16
def noButton : U16 := 0x0008#16
def rightHatButton : U16 := 0x8000#16
def leftHatButton : U16 := 0x4000#16
def startButton : U16 := 0x2000#16
def selectButton : U16 := 0x1000#16
def r2Button : U16 := 0x0800#16
def l2Button : U16 := 0x0400#16
def r1Button : U16 := 0x0200#16
def l1Button : U16 := 0x0100#16
def triangleButton : U16 := 0x0080#16
def circleButton : U16 := 0x0040#16
def crossButton : U16 := 0x0020#16
def squareButton : U16 := 0x0010#16

def actionVwIdle : U8 := 128#8
def actionVwDeadZone : U16 := 25#16
def actionVwMaxvector : U16 := 126#16

/-- `joystick_buttons` and the four `joystick_axis_` variables. -/
structure Joystick where
  buttons : U16
  axisX : U8
  axisY : U8
  axisZ : U8
  axisRz : U8
  deriving DecidableEq, Repr

/-- `usb_joystick_raz`: the buttons, then the axes. -/
def usbJoystickRaz : Joystick where
  buttons := noButton
  axisX := 0x80#8
  axisY := 0x80#8
  axisZ := 0x80#8
  axisRz := 0x80#8

/-- The calls that the two drivers make on this module. -/
inductive JoyCall
  | press (button : U16)
  | release (button : U16)
  | pressDir (dir : U16)
  | moveX (axisX : U8)
  | moveY (axisY : U8)
  | moveZrz (axisZ axisRz : U8)
  | send
  deriving DecidableEq, Repr

/-- The bodies of the `usb_joystick_` functions; a send leaves the state alone. -/
def JoyCall.apply (j : Joystick) : JoyCall → Joystick
  | .press button => { j with buttons := j.buttons ||| button }
  | .release button => { j with buttons := j.buttons &&& ~~~button }
  | .pressDir dir => { j with buttons := (j.buttons &&& 0xFFF0#16) ||| dir }
  | .moveX axisX => { j with axisX := axisX }
  | .moveY axisY => { j with axisY := axisY }
  | .moveZrz axisZ axisRz => { j with axisZ := axisZ, axisRz := axisRz }
  | .send => j

/-- `usb_send_codes`: the six report bytes, the button word low byte first. -/
def usbSendCodes (j : Joystick) : List U8 :=
  [j.axisX, j.axisY, j.axisZ, j.axisRz, j.buttons.setWidth 8, (j.buttons >>> 8).setWidth 8]

/-- Running calls: the output is the state found by each `usb_joystick_send`. -/
def joyMachine : Machine Joystick JoyCall Joystick where
  step j call := (call.apply j, if call = .send then [j] else [])

@[simp] theorem joyMachine_step (j : Joystick) (call : JoyCall) :
    joyMachine.step j call = (call.apply j, if call = .send then [j] else []) := rfl

/-- The six bytes tell the whole state. -/
theorem usbSendCodes_injective : Function.Injective usbSendCodes := by
  rintro ⟨b, x, y, z, rz⟩ ⟨b', x', y', z', rz'⟩ h
  simp only [usbSendCodes, List.cons.injEq, and_true] at h
  obtain ⟨rfl, rfl, rfl, rfl, hlow, hhigh⟩ := h
  congr 1
  apply BitVec.eq_of_getLsbD_eq
  intro i hi
  rcases Nat.lt_or_ge i 8 with hlt | hge
  · simpa [hlt] using congrArg (fun v => v.getLsbD i) hlow
  · have hbit := congrArg (fun v => v.getLsbD (i - 8)) hhigh
    simpa [show i - 8 < 8 by omega, show 8 + (i - 8) = i by omega] using hbit

end DiyPs3Controller.UsbJoystick
