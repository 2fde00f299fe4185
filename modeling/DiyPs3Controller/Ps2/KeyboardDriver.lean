import DiyPs3Controller.Ps2.Reception
import DiyPs3Controller.Ps2.UsbJoystick

/-!
# The keyboard driver

`KeyboardDriver.c` over its own static variables: the scancode decoder, the
lock LED handshake and the key table. Every case of the key switch makes one
call on the joystick and then sends, so the switch is a table of such calls.
-/

namespace DiyPs3Controller.KeyboardDriver

open RingBuffer Reception UsbJoystick

/-- `KB_DATA_BIT`, which is `PE1` on the at90usb1286. -/
def kbDataBit : Nat := 1

/-- `KB_BUFSIZE` -/
def kbBufsize : U8 := 8#8

def kbLedError : U16 := 10000#16
def kbLedNormal : U16 := 50000#16

/-! Key codes of `Keys_t` that the filter names. -/

def aKey : U8 := 0x1C#8
def dKey : U8 := 0x23#8
def eKey : U8 := 0x24#8
def fKey : U8 := 0x2B#8
def gKey : U8 := 0x34#8
def mKey : U8 := 0x3A#8
def rKey : U8 := 0x2D#8
def sKey : U8 := 0x1B#8
def tKey : U8 := 0x2C#8
def wKey : U8 := 0x1D#8
def d1Key : U8 := 0x16#8
def d2Key : U8 := 0x1E#8
def d3Key : U8 := 0x26#8
def d4Key : U8 := 0x25#8
def spaceKey : U8 := 0x29#8
def tabKey : U8 := 0x0D#8
def capsLockKey : U8 := 0x58#8
def leftShiftKey : U8 := 0x12#8
def rightControlKey : U8 := 0x14#8
def escapeKey : U8 := 0x76#8
def scrollLockKey : U8 := 0x7E#8
def numLockKey : U8 := 0x77#8

/-- `EVA_NewEvent` -/
def evaNewEvent (key value : U16) : U16 := key ||| value

/-- `EVA_NewEventKey` -/
def evaNewEventKey (device trigger : U16) : U16 := (device <<< 12) ||| (trigger <<< 8)

/-- `Keyboard` of `Device_t` -/
def keyboardDevice : U16 := 1#16

/-- `KB_KeyPress`, with the trigger `KeyPress`. -/
def kbKeyPress (value : U8) : U16 :=
  evaNewEvent (evaNewEventKey keyboardDevice 0#16) (value.setWidth 16)

/-- `KB_KeyRelease`, with the trigger `KeyRelease`. -/
def kbKeyRelease (value : U8) : U16 :=
  evaNewEvent (evaNewEventKey keyboardDevice 1#16) (value.setWidth 16)

/-- The static variables of the driver. -/
structure Keyboard where
  rx : Receiver
  e0f0 : U8
  scancode : U16
  lastbyte : U8
  retry : U8
  leds : U8
  cmd : U8
  ledDutycycle : U16
  ledDelay : U16
  ledKeycode : U16
  deriving DecidableEq

/-- The calls of the driver into other files and onto the line. -/
inductive KbCall
  | kbSend (data : U8)
  | msMouseReset
  | joy (call : JoyCall)
  deriving DecidableEq, Repr

/-- `KB_Send`, without the handshake on the line. -/
def kbSend (k : Keyboard) (data : U8) : Keyboard × List KbCall :=
  ({ k with rx := clearIsr k.rx }, [.kbSend data])

/-- `KB_ErrorStateLed` -/
def kbErrorStateLed (k : Keyboard) : Keyboard :=
  { k with ledKeycode := kbKeyPress scrollLockKey, ledDutycycle := kbLedError }

/-- `KB_NormalStateLed` -/
def kbNormalStateLed (k : Keyboard) : Keyboard :=
  { k with ledKeycode := kbKeyPress scrollLockKey, ledDutycycle := kbLedNormal }

/-- The variables after `KB_Init`; static variables that it does not set are zero. -/
def kbInit : Keyboard :=
  kbNormalStateLed
    { rx := initial kbBufsize
      e0f0 := 0#8
      scancode := 0#16
      lastbyte := 0#8
      retry := 0#8
      leds := 0#8
      cmd := 0#8
      ledDutycycle := 0#16
      ledDelay := 0#16
      ledKeycode := 0#16 }

/-- The body of the three lock key cases, with the LED bit of the key. -/
def lockRequest (k : Keyboard) (cmd : U8) : Keyboard × List KbCall :=
  let sent := kbSend { k with lastbyte := 0xED#8 } 0xED#8
  ({ sent.1 with cmd := cmd, retry := 0#8 }, sent.2)

/-- The acknowledged LED command: toggle the LED bit and send the LED byte. -/
def ledAcknowledged (k : Keyboard) : Keyboard × List KbCall :=
  let leds := k.leds ^^^ k.cmd
  let sent := kbSend { k with leds := leds, lastbyte := leds } leds
  ({ sent.1 with retry := 0#8 }, sent.2)

/-- The resend case; each of the two conditions increments the counter. -/
def resendRequested (k : Keyboard) : Keyboard × List KbCall :=
  let first := { k with retry := k.retry + 1#8 }
  if k.retry < 4#8 then kbSend first first.lastbyte
  else
    let second := { first with retry := first.retry + 1#8 }
    if first.retry < 8#8 then kbSend { second with lastbyte := 0xFF#8 } 0xFF#8
    else (second, [])

/-- The first half of `KB_KeyboardEventFilter`: reset, lock keys and responses. -/
def commandFilter (k : Keyboard) (scancode : U16) : Keyboard × List KbCall :=
  if scancode = kbKeyPress mKey then (kbNormalStateLed k, [.msMouseReset])
  else if scancode = kbKeyPress scrollLockKey then lockRequest k 0x01#8
  else if scancode = kbKeyPress numLockKey then lockRequest k 0x02#8
  else if scancode = kbKeyPress capsLockKey then lockRequest k 0x04#8
  else if scancode = kbKeyPress 0xFA#8 ∧ k.lastbyte = 0xED#8 then ledAcknowledged k
  else if scancode = kbKeyPress 0xFE#8 then resendRequested k
  else (k, [])

/-- The cases of the key switch; each case sends after its call. -/
def keyCases : List (U16 × JoyCall) := [
  (kbKeyPress spaceKey, .press crossButton),
  (kbKeyRelease spaceKey, .release crossButton),
  (kbKeyPress rightControlKey, .press circleButton),
  (kbKeyRelease rightControlKey, .release circleButton),
  (kbKeyPress eKey, .press triangleButton),
  (kbKeyRelease eKey, .release triangleButton),
  (kbKeyPress rKey, .press squareButton),
  (kbKeyRelease rKey, .release squareButton),
  (kbKeyPress aKey, .moveX 0x00#8),
  (kbKeyRelease aKey, .moveX 0x80#8),
  (kbKeyPress dKey, .moveX 0xFF#8),
  (kbKeyRelease dKey, .moveX 0x80#8),
  (kbKeyPress wKey, .moveY 0x00#8),
  (kbKeyRelease wKey, .moveY 0x80#8),
  (kbKeyPress sKey, .moveY 0xFF#8),
  (kbKeyRelease sKey, .moveY 0x80#8),
  (kbKeyPress leftShiftKey, .press leftHatButton),
  (kbKeyRelease leftShiftKey, .release leftHatButton),
  (kbKeyPress escapeKey, .press startButton),
  (kbKeyRelease escapeKey, .release startButton),
  (kbKeyPress tabKey, .press selectButton),
  (kbKeyRelease tabKey, .release selectButton),
  (kbKeyPress d1Key, .pressDir upButton),
  (kbKeyRelease d1Key, .pressDir noButton),
  (kbKeyPress d2Key, .pressDir rightButton),
  (kbKeyRelease d2Key, .pressDir noButton),
  (kbKeyPress d3Key, .pressDir leftButton),
  (kbKeyRelease d3Key, .pressDir noButton),
  (kbKeyPress d4Key, .pressDir downButton),
  (kbKeyRelease d4Key, .pressDir noButton),
  (kbKeyPress gKey, .press r2Button),
  (kbKeyRelease gKey, .release r2Button),
  (kbKeyPress fKey, .press rightHatButton),
  (kbKeyRelease fKey, .release rightHatButton),
  (kbKeyPress tKey, .press l2Button),
  (kbKeyRelease tKey, .release l2Button)]

/-- The key switch, the second half of `KB_KeyboardEventFilter`. -/
def keySwitch (scancode : U16) : List JoyCall :=
  match keyCases.lookup scancode with
  | some call => [call, .send]
  | none => []

/-- `KB_KeyboardEventFilter` -/
def kbKeyboardEventFilter (k : Keyboard) (scancode : U16) : Keyboard × List KbCall :=
  let commanded := commandFilter k scancode
  (commanded.1, commanded.2 ++ (keySwitch scancode).map .joy)

/-- `KB_GetScancode`; `KB_E0` is bit 1 and `KB_F0` is bit 0 of the flags. -/
def kbGetScancode (k : Keyboard) : Keyboard × U16 :=
  let cleared := { k with scancode := 0#16 }
  if cleared.rx.ringbuffer.hasElement then
    let taken := cleared.rx.ringbuffer.getElement
    let read := { cleared with rx := { cleared.rx with ringbuffer := taken.1 } }
    if taken.2 = 0xE0#8 then ({ read with e0f0 := 1#8 <<< 1 }, 0#16)
    else if taken.2 = 0xF0#8 then ({ read with e0f0 := read.e0f0 ||| (1#8 <<< 0) }, 0#16)
    else
      let scancode := evaNewEvent (evaNewEventKey keyboardDevice (read.e0f0.setWidth 16))
        (taken.2.setWidth 16)
      ({ read with scancode := scancode, e0f0 := 0#8 }, scancode)
  else (cleared, 0#16)

/-- `KB_EventTask`; the delay is decremented after its comparison with zero. -/
def kbEventTask (k : Keyboard) : Keyboard × List KbCall :=
  let got := kbGetScancode k
  if 0#16 < got.2 then kbKeyboardEventFilter got.1 got.2
  else
    let counted := { got.1 with ledDelay := got.1.ledDelay - 1#16 }
    if got.1.ledDelay = 0#16 then
      let beat := kbKeyboardEventFilter counted counted.ledKeycode
      ({ beat.1 with ledDelay := beat.1.ledDutycycle }, beat.2)
    else (counted, [])

/-- `KB_ClockInterrupt` -/
def kbClockInterrupt (k : Keyboard) (pin : U8) : Keyboard × List RxCall :=
  let received := clockInterrupt kbDataBit k.rx pin
  ({ k with rx := received.1 }, received.2)

/-- `KB_GetScancode` takes the oldest byte, if there is one. -/
theorem kbGetScancode_rx (k : Keyboard) :
    (kbGetScancode k).1.rx = { k.rx with ringbuffer := k.rx.ringbuffer.getElement.1 } := by
  by_cases h : k.rx.ringbuffer.contents = []
  · simp [kbGetScancode, Ring.hasElement_eq, h, Ring.getElement_empty h]
  · have helement : k.rx.ringbuffer.hasElement = true := by simp [Ring.hasElement_eq, h]
    simp only [kbGetScancode, helement, if_true]
    split_ifs <;> rfl

/-- The scancode that `KB_GetScancode` makes of its prefix flags and a byte. -/
def flagged (flags byte : U8) : U16 :=
  evaNewEvent (evaNewEventKey keyboardDevice (flags.setWidth 16)) (byte.setWidth 16)

theorem flagged_zero (byte : U8) : flagged 0#8 byte = kbKeyPress byte := rfl

theorem flagged_pos (flags byte : U8) : 0#16 < flagged flags byte := by
  have hne : flagged flags byte ≠ 0#16 := by
    simp [flagged, evaNewEvent, evaNewEventKey, keyboardDevice, BitVec.or_eq_zero_iff]
  bv_omega

theorem kbGetScancode_nil {k : Keyboard} (h : k.rx.ringbuffer.contents = []) :
    kbGetScancode k = ({ k with scancode := 0#16 }, 0#16) := by
  simp [kbGetScancode, Ring.hasElement_eq, h]

section Oldest
variable {k : Keyboard} {byte : U8} {rest : List U8}
  (h : k.rx.ringbuffer.contents = byte :: rest)
include h

theorem getElement_of_contents :
    k.rx.ringbuffer.getElement.2 = byte ∧ k.rx.ringbuffer.getElement.1.contents = rest := by
  have hne : k.rx.ringbuffer.contents ≠ [] := by simp [h]
  have hhead := Ring.contents_eq_getElement hne
  rw [h, List.cons.injEq] at hhead
  exact ⟨hhead.1.symm, hhead.2.symm⟩

theorem kbGetScancode_contents : (kbGetScancode k).1.rx.ringbuffer.contents = rest := by
  rw [kbGetScancode_rx]
  exact (getElement_of_contents h).2

/-- A byte that is no prefix comes out with the flags read so far. -/
theorem kbGetScancode_code (he : byte ≠ 0xE0#8) (hf : byte ≠ 0xF0#8) :
    kbGetScancode k =
      ({ k with
          rx := { k.rx with ringbuffer := k.rx.ringbuffer.getElement.1 }
          scancode := flagged k.e0f0 byte
          e0f0 := 0#8 }, flagged k.e0f0 byte) := by
  have helement : k.rx.ringbuffer.hasElement = true := by simp [Ring.hasElement_eq, h]
  simp only [kbGetScancode, helement, if_true, (getElement_of_contents h).1, he, hf, if_false,
    flagged]

/-- `KB_EventTask` with a byte queued that is no prefix. -/
theorem kbEventTask_code (he : byte ≠ 0xE0#8) (hf : byte ≠ 0xF0#8) :
    kbEventTask k = kbKeyboardEventFilter (kbGetScancode k).1 (flagged k.e0f0 byte) := by
  simp only [kbEventTask, kbGetScancode_code h he hf, flagged_pos, if_true]

end Oldest

section Empty
variable {k : Keyboard} (h : k.rx.ringbuffer.contents = [])
include h

/-- `KB_EventTask` with nothing queued and the delay running. -/
theorem kbEventTask_idle (hdelay : k.ledDelay ≠ 0#16) :
    kbEventTask k = ({ k with scancode := 0#16, ledDelay := k.ledDelay - 1#16 }, []) := by
  simp [kbEventTask, kbGetScancode_nil h, hdelay]

/-- `KB_EventTask` with nothing queued and the delay run out. -/
theorem kbEventTask_heartbeat (hdelay : k.ledDelay = 0#16) :
    kbEventTask k =
      let beat := kbKeyboardEventFilter
        { k with scancode := 0#16, ledDelay := k.ledDelay - 1#16 } k.ledKeycode
      ({ beat.1 with ledDelay := beat.1.ledDutycycle }, beat.2) := by
  simp [kbEventTask, kbGetScancode_nil h, hdelay]

end Empty

/-- What the switch does for a scancode is one of its cases. -/
theorem keySwitch_cases (scancode : U16) :
    keySwitch scancode = [] ∨
      ∃ call, (scancode, call) ∈ keyCases ∧ keySwitch scancode = [call, .send] := by
  unfold keySwitch
  cases h : keyCases.lookup scancode with
  | none => exact Or.inl rfl
  | some call =>
      refine Or.inr ⟨call, ?_, rfl⟩
      obtain ⟨before, after, hsplit, -⟩ := List.lookup_eq_some_iff.mp h
      simp [hsplit]

/-- What holds of the cases for a scancode holds of the calls of the switch. -/
theorem forall_keySwitch {P : JoyCall → Prop} {scancode : U16}
    (hcases : ∀ call, (scancode, call) ∈ keyCases → P call) (hsend : P .send) :
    ∀ call ∈ keySwitch scancode, P call := by
  rcases keySwitch_cases scancode with hnone | ⟨call, hcase, hcalls⟩
  · rw [hnone]
    exact List.forall_mem_nil _
  · rw [hcalls]
    exact List.forall_mem_cons.mpr ⟨hcases call hcase, List.forall_mem_singleton.mpr hsend⟩

end DiyPs3Controller.KeyboardDriver
