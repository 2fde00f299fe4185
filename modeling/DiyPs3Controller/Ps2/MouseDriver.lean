import DiyPs3Controller.Ps2.Reception
import DiyPs3Controller.Ps2.UsbJoystick

/-!
# The mouse driver

`MouseDriver.c` over its own static variables. Calls into other files and the
calls that the driver's protocol is judged by are listed in the order in which
they are made. The build without `FARCRY2` is modelled, for the at90usb1286.
-/

namespace DiyPs3Controller.MouseDriver

open RingBuffer Reception UsbJoystick

/-- `MS_DATA_BIT`, which is `PE0`. -/
def msDataBit : Nat := 0

/-- `MS_BUFSIZE` -/
def msBufsize : U8 := 2#8

/-- `ms_state_table`: in each row the byte to receive and the byte to answer. -/
def msStateTable : List U8 := [
  0xFA#8, 0x00#8,
  0xAA#8, 0x00#8,
  0x00#8, 0xFF#8,
  0xFA#8, 0x00#8,
  0xAA#8, 0x00#8,
  0x00#8, 0xFF#8,
  0xFA#8, 0x00#8,
  0xAA#8, 0x00#8,
  0x00#8, 0xFF#8,
  0xFA#8, 0x00#8,
  0xAA#8, 0x00#8,
  0x00#8, 0xF3#8,
  0xFA#8, 200#8,
  0xFA#8, 0xF3#8,
  0xFA#8, 100#8,
  0xFA#8, 0xF3#8,
  0xFA#8, 80#8,
  0xFA#8, 0xF2#8,
  0xFA#8, 0x00#8,
  0x03#8, 0xE8#8,
  0xFA#8, 0xD1#8,
  0xFA#8, 0xD2#8,
  0xFA#8, 0xF3#8,
  0xFA#8, 0xD3#8,
  0xFA#8, 0xF4#8,
  0xFA#8, 0x00#8]

/-- `trigger_t` -/
structure Trigger where
  timeout : U8
  timer : U8
  action : U8
  deriving DecidableEq, Repr

/-- `packet_t`; the header bit fields are read from the first byte. -/
structure Packet where
  size : U8
  bytes : List U8
  deriving DecidableEq, Repr

namespace Packet

def header (p : Packet) : U8 := p.bytes.getD 0 0#8
def x (p : Packet) : U8 := p.bytes.getD 1 0#8
def y (p : Packet) : U8 := p.bytes.getD 2 0#8
def z (p : Packet) : U8 := p.bytes.getD 3 0#8
def left (p : Packet) : Bool := p.header.getLsbD 0
def right (p : Packet) : Bool := p.header.getLsbD 1
def middle (p : Packet) : Bool := p.header.getLsbD 2
def xsign (p : Packet) : Bool := p.header.getLsbD 4
def ysign (p : Packet) : Bool := p.header.getLsbD 5
def xoverflow (p : Packet) : Bool := p.header.getLsbD 6
def yoverflow (p : Packet) : Bool := p.header.getLsbD 7

end Packet

/-- `vector_t` -/
structure MsVector where
  sign : Bool
  overflow : Bool
  label : BitVec 6
  data : U8
  deriving DecidableEq, Repr

/-- The remembered buttons of `dispatch_t`. -/
structure Dispatch where
  left : Bool
  right : Bool
  middle : Bool
  deriving DecidableEq, Repr

/-- `config_t`; resolution and scale are two-bit fields. -/
structure Config where
  frequency : U8
  resolution : BitVec 2
  scale : BitVec 2
  deriving DecidableEq, Repr

/-- `filter_t`, with the table behind its pointer. -/
structure FilterVars where
  state : U8
  retry : U8
  size : U8
  table : List U8
  deriving DecidableEq, Repr

/-- The static variables of the driver. -/
structure Mouse where
  driver : Receiver
  trigger : Trigger
  packet : Packet
  dispatch : Dispatch
  config : Config
  filter : FilterVars
  deriving DecidableEq

/-- The calls of the driver; `EventDispatcher` and `ResetState` are listed before what
they call. -/
inductive MsCall
  | sendByte (data : U8)
  | resetState
  | eventDispatcher (packet : Packet)
  | joy (call : JoyCall)
  | kbErrorStateLed
  deriving DecidableEq, Repr

/-- `SendByte`, without the handshake on the line. -/
def sendByte (m : Mouse) (data : U8) : Mouse × List MsCall :=
  ({ m with driver := clearIsr m.driver }, [.sendByte data])

/-- `SetMouseDefault` -/
def setMouseDefault (m : Mouse) : Mouse :=
  { m with config := { resolution := 3#2, frequency := 100#8, scale := 1#2 } }

/-- `ResetState` -/
def resetState (m : Mouse) : Mouse × List MsCall :=
  let sent := sendByte m 0xFF#8
  ({ sent.1 with filter := { sent.1.filter with state := 0#8 } }, .resetState :: sent.2)

/-- `MS_MouseReset` -/
def msMouseReset (m : Mouse) : Mouse × List MsCall := resetState (setMouseDefault m)

/-- `MS_SetResolution` -/
def msSetResolution (m : Mouse) (resolution : U8) : Mouse × List MsCall :=
  resetState { m with config := { m.config with resolution := resolution.setWidth 2 } }

/-- `MS_SetFrequency` -/
def msSetFrequency (m : Mouse) (frequency : U8) : Mouse × List MsCall :=
  resetState { m with config := { m.config with frequency := frequency } }

/-- `MS_SetScaling` -/
def msSetScaling (m : Mouse) (scale : U8) : Mouse × List MsCall :=
  resetState { m with config := { m.config with scale := scale.setWidth 2 } }

/-- `AbsoluteValue` -/
def absoluteValue (v : MsVector) : MsVector :=
  let data := if v.sign then ~~~v.data + 1#8 else v.data
  { v with data := if v.overflow then actionVwMaxvector.setWidth 8 else data }

/-- `VectorX` -/
def vectorX (p : Packet) : MsVector :=
  absoluteValue { label := 24#6, sign := p.xsign, overflow := p.xoverflow, data := p.x }

/-- `VectorY` -/
def vectorY (p : Packet) : MsVector :=
  absoluteValue { label := 25#6, sign := p.ysign, overflow := p.yoverflow, data := p.y }

/-- `Val`: the axis position for a vector, with the multiplier a whole number. -/
def val (v : MsVector) (mul : Nat) : U8 :=
  let scaled := BitVec.ofNat 16 (mul * v.data.toNat)
  let shifted := if scaled ≠ 0#16 then scaled + actionVwDeadZone else scaled
  if shifted ≤ actionVwMaxvector then
    if v.sign then (actionVwIdle.setWidth 16 - shifted).setWidth 8
    else (actionVwIdle.setWidth 16 + shifted).setWidth 8
  else if v.sign then 0#8 else 255#8

/-- One button of a packet, written only when it differs from the remembered one. -/
def buttonEdge (remembered now : Bool) (button : U16) : Bool × List JoyCall :=
  if now = remembered then (remembered, [])
  else (now, [if now then .press button else .release button])

/-- The wheel byte of a packet. -/
def wheel (z : U8) : List JoyCall :=
  let zsign : Bool := 128#8 < z
  let z := if zsign then ~~~z + 1#8 else z
  if 0#8 < z then
    if zsign then (if 1#8 ≤ z then [.press l2Button] else [])
    else (if 1#8 ≤ z then [.press r2Button] else [])
  else [.release r2Button, .release l2Button]

/-- `EventDispatcher` with the multiplier that it passes to `Val` as an argument. -/
def eventDispatcherBy (mul : Nat) (d : Dispatch) (p : Packet) : Dispatch × List JoyCall :=
  let mz := val (vectorX p) mul
  let mrz := 0xFF#8 - val (vectorY p) mul
  let left := buttonEdge d.left p.left r1Button
  let right := buttonEdge d.right p.right l1Button
  let middle := buttonEdge d.middle p.middle rightHatButton
  ({ left := left.1, right := right.1, middle := middle.1 },
    .moveZrz mz mrz :: (left.2 ++ right.2 ++ middle.2 ++ wheel p.z ++ [.send]))

/-- `EventDispatcher` -/
def eventDispatcher : Dispatch → Packet → Dispatch × List JoyCall := eventDispatcherBy 3

section Dispatched
variable {P : JoyCall → Prop}

/-- What holds of both calls on a button holds of the calls of its edges. -/
theorem forall_buttonEdge {button : U16} (hpress : P (.press button))
    (hrelease : P (.release button)) (remembered now : Bool) :
    ∀ call ∈ (buttonEdge remembered now button).2, P call := by
  unfold buttonEdge
  split_ifs
  · exact List.forall_mem_nil _
  · exact List.forall_mem_singleton.mpr hpress
  · exact List.forall_mem_singleton.mpr hrelease

theorem wheel_still : wheel 0#8 = [.release r2Button, .release l2Button] := rfl

/-- A wheel movement presses one of the two buttons. -/
theorem wheel_moved {z : U8} (hz : z ≠ 0#8) :
    wheel z = [.press r2Button] ∨ wheel z = [.press l2Button] := by
  by_cases hsign : 128#8 < z
  · have hpos : 0#8 < ~~~z + 1#8 := by bv_omega
    have hone : 1#8 ≤ ~~~z + 1#8 := by bv_omega
    right
    simp [wheel, hsign, hpos, hone]
  · have hpos : 0#8 < z := by bv_omega
    have hone : 1#8 ≤ z := by bv_omega
    left
    simp [wheel, hsign, hpos, hone]

/-- What holds of the calls on both wheel buttons holds of the calls of the wheel. -/
theorem forall_wheel (hr2 : P (.press r2Button) ∧ P (.release r2Button))
    (hl2 : P (.press l2Button) ∧ P (.release l2Button)) (z : U8) : ∀ call ∈ wheel z, P call := by
  by_cases hz : z = 0#8
  · rw [hz, wheel_still]
    exact List.forall_mem_cons.mpr ⟨hr2.2, List.forall_mem_singleton.mpr hl2.2⟩
  · rcases wheel_moved hz with h | h <;> rw [h]
    · exact List.forall_mem_singleton.mpr hr2.1
    · exact List.forall_mem_singleton.mpr hl2.1

variable {left right middle : List JoyCall} {z : U8} (hleft : ∀ call ∈ left, P call)
  (hright : ∀ call ∈ right, P call) (hmiddle : ∀ call ∈ middle, P call)
  (hwheel : ∀ call ∈ wheel z, P call) (hsend : P .send)
include hleft hright hmiddle hwheel hsend

/-- What holds of each part of the calls after the first holds of them all. -/
theorem forall_dispatched :
    ∀ call ∈ left ++ right ++ middle ++ wheel z ++ [.send], P call := by
  rw [List.forall_mem_append, List.forall_mem_append, List.forall_mem_append,
    List.forall_mem_append]
  exact ⟨⟨⟨⟨hleft, hright⟩, hmiddle⟩, hwheel⟩, List.forall_mem_singleton.mpr hsend⟩

end Dispatched

/-- The same for a packet. -/
theorem forall_eventDispatcher {P : JoyCall → Prop} {d : Dispatch} {p : Packet}
    (hmove : ∀ z rz, P (.moveZrz z rz))
    (hleft : ∀ call ∈ (buttonEdge d.left p.left r1Button).2, P call)
    (hright : ∀ call ∈ (buttonEdge d.right p.right l1Button).2, P call)
    (hmiddle : ∀ call ∈ (buttonEdge d.middle p.middle rightHatButton).2, P call)
    (hwheel : ∀ call ∈ wheel p.z, P call) (hsend : P .send) :
    ∀ call ∈ (eventDispatcher d p).2, P call :=
  List.forall_mem_cons.mpr ⟨hmove _ _, forall_dispatched hleft hright hmiddle hwheel hsend⟩

/-- Whether a scancode is what a table row waits for. -/
def accepts (target scancode : U8) : Bool :=
  scancode == target || (target == 0xFA#8 && scancode == 0xF4#8)

/-- The byte a matched row sends, where `0xD1` to `0xD3` stand for the settings. -/
def reply (c : Config) (byte : U8) : Option U8 :=
  if byte = 0xD1#8 then some (c.resolution.setWidth 8)
  else if byte = 0xD2#8 then some (if c.scale = 1#2 then 0xE6#8 else 0xE7#8)
  else if byte = 0xD3#8 then some c.frequency
  else if 0x00#8 < byte then some byte
  else none

/-- `SendByte` of the answer, if the row has one. -/
def answer (m : Mouse) (byte : U8) : Mouse × List MsCall :=
  match reply m.config byte with
  | some data => sendByte m data
  | none => (m, [])

/-- `EventFilter` -/
def eventFilter (m : Mouse) (scancode : U8) : Mouse × List MsCall :=
  if m.filter.state < m.filter.size then
    if accepts (m.filter.table.getD m.filter.state.toNat 0#8) scancode then
      let sent := answer m (m.filter.table.getD (m.filter.state.toNat + 1) 0#8)
      ({ sent.1 with filter := { sent.1.filter with state := sent.1.filter.state + 2#8 } }, sent.2)
    else
      let counted := { m with filter := { m.filter with retry := m.filter.retry + 1#8 } }
      if m.filter.retry < 5#8 then resetState counted
      else
        ({ counted with filter := { counted.filter with state := 0xFF#8, retry := 0#8 } },
          [.kbErrorStateLed])
  else if m.packet.size = 0#8 ∧ scancode &&& 0x08#8 = 0#8 then
    ({ m with packet := { m.packet with size := 0#8 } }, [])
  else
    let packet : Packet :=
      { size := m.packet.size + 1#8, bytes := m.packet.bytes.set m.packet.size.toNat scancode }
    let stored := { m with filter := { m.filter with retry := 0#8 }, packet := packet }
    if packet.size = 4#8 then
      let sent := eventDispatcher m.dispatch packet
      ({ stored with dispatch := sent.1, packet := { packet with size := 0#8 } },
        .eventDispatcher packet :: sent.2.map .joy)
    else (stored, [])

/-- `GetScancode` -/
def getScancode (m : Mouse) : Mouse × U8 :=
  let taken := m.driver.ringbuffer.getElement
  ({ m with driver := { m.driver with ringbuffer := taken.1 } }, taken.2)

/-- `HasScancode` -/
def hasScancode (m : Mouse) : Bool := m.driver.ringbuffer.hasElement

/-- The loop of `MS_EventTask`, with a bound on its rounds. -/
def filterScancodes : Nat → Mouse → Mouse × List MsCall
  | 0, m => (m, [])
  | fuel + 1, m =>
      if hasScancode m then
        let taken := getScancode m
        let filtered := eventFilter taken.1 taken.2
        let rest := filterScancodes fuel filtered.1
        (rest.1, filtered.2 ++ rest.2)
      else (m, [])

/-- The calls of the action branch of `MS_EventTask`. -/
def idleCalls : List JoyCall :=
  [.moveZrz actionVwIdle actionVwIdle, .pressDir noButton, .release r2Button, .release l2Button,
    .send]

/-- `MS_EventTask`; each round of its loop takes one queued byte. -/
def msEventTask (m : Mouse) : Mouse × List MsCall :=
  let filtered := filterScancodes m.driver.ringbuffer.contents.length m
  if filtered.1.trigger.action = 1#8 then
    ({ filtered.1 with trigger := { filtered.1.trigger with action := 0#8 } },
      filtered.2 ++ idleCalls.map .joy)
  else filtered

/-- `MS_ClockInterrupt` -/
def msClockInterrupt (m : Mouse) (pin : U8) : Mouse × List RxCall :=
  let received := clockInterrupt msDataBit m.driver pin
  ({ m with
      driver := received.1
      trigger := { m.trigger with timer := m.trigger.timeout, action := 0#8 } }, received.2)

/-- `MS_TimerInterrupt` -/
def msTimerInterrupt (m : Mouse) : Mouse :=
  if 0#8 < m.trigger.timer then
    let timer := m.trigger.timer - 1#8
    { m with trigger :=
        { m.trigger with
            timer := timer
            action := if timer = 0#8 ∧ m.trigger.action = 0#8 then 1#8 else m.trigger.action } }
  else m

/-- The variables after `MS_Init`; static variables that it does not set are zero. -/
def msInit : Mouse where
  driver := initial msBufsize
  trigger := { timeout := 15#8, timer := 0#8, action := 0#8 }
  packet := { size := 0#8, bytes := List.replicate 4 0#8 }
  dispatch := { left := false, right := false, middle := false }
  config := { resolution := 3#2, frequency := 100#8, scale := 1#2 }
  filter :=
    { retry := 0#8
      state := 2#8
      size := BitVec.ofNat 8 msStateTable.length
      table := msStateTable }

section Frame
variable (m : Mouse) (byte : U8)

@[simp] theorem answer_filter : (answer m byte).1.filter = m.filter := by
  unfold answer; split <;> rfl

@[simp] theorem answer_packet : (answer m byte).1.packet = m.packet := by
  unfold answer; split <;> rfl

@[simp] theorem answer_config : (answer m byte).1.config = m.config := by
  unfold answer; split <;> rfl

@[simp] theorem answer_ringbuffer :
    (answer m byte).1.driver.ringbuffer = m.driver.ringbuffer := by
  unfold answer; split <;> rfl

theorem answer_calls :
    (answer m byte).2 = (reply m.config byte).toList.map .sendByte := by
  unfold answer; split <;> rename_i h <;> simp [h, sendByte]

end Frame

section Filter
variable {m : Mouse} {scancode : U8}

/-- A scancode that the current row waits for. -/
def Matches (m : Mouse) (scancode : U8) : Prop :=
  m.filter.state < m.filter.size ∧
    accepts (m.filter.table.getD m.filter.state.toNat 0#8) scancode = true

instance (m : Mouse) (scancode : U8) : Decidable (Matches m scancode) :=
  inferInstanceAs (Decidable (_ ∧ _))

/-- The filter is past the startup table, in stream mode or in its error state. -/
def Past (m : Mouse) : Prop := ¬ m.filter.state < m.filter.size

instance (m : Mouse) : Decidable (Past m) := inferInstanceAs (Decidable (¬ _))

/-- A scancode skipped at a packet boundary. -/
def Skipped (m : Mouse) (scancode : U8) : Prop :=
  m.packet.size = 0#8 ∧ scancode &&& 0x08#8 = 0#8

instance (m : Mouse) (scancode : U8) : Decidable (Skipped m scancode) :=
  inferInstanceAs (Decidable (_ ∧ _))

/-- The packet with one more byte. -/
def grown (m : Mouse) (scancode : U8) : Packet :=
  { size := m.packet.size + 1#8, bytes := m.packet.bytes.set m.packet.size.toNat scancode }

theorem eventFilter_match (h : Matches m scancode) :
    eventFilter m scancode =
      let sent := answer m (m.filter.table.getD (m.filter.state.toNat + 1) 0#8)
      ({ sent.1 with filter := { m.filter with state := m.filter.state + 2#8 } }, sent.2) := by
  rw [eventFilter, if_pos h.1, if_pos h.2]
  simp only [answer_filter]

theorem eventFilter_retry (hs : m.filter.state < m.filter.size) (hm : ¬ Matches m scancode)
    (hr : m.filter.retry < 5#8) :
    eventFilter m scancode =
      resetState { m with filter := { m.filter with retry := m.filter.retry + 1#8 } } := by
  have ha : ¬ accepts (m.filter.table.getD m.filter.state.toNat 0#8) scancode = true :=
    fun h => hm ⟨hs, h⟩
  rw [eventFilter, if_pos hs, if_neg ha]
  simp only [if_pos hr]

theorem eventFilter_giveUp (hs : m.filter.state < m.filter.size) (hm : ¬ Matches m scancode)
    (hr : ¬ m.filter.retry < 5#8) :
    eventFilter m scancode =
      ({ m with filter := { m.filter with state := 0xFF#8, retry := 0#8 } },
        [.kbErrorStateLed]) := by
  have ha : ¬ accepts (m.filter.table.getD m.filter.state.toNat 0#8) scancode = true :=
    fun h => hm ⟨hs, h⟩
  rw [eventFilter, if_pos hs, if_neg ha]
  simp only [if_neg hr]

theorem eventFilter_skip (hp : Past m) (hk : Skipped m scancode) :
    eventFilter m scancode = (m, []) := by
  have hk' : m.packet.size = 0#8 ∧ scancode &&& 0x08#8 = 0#8 := hk
  rw [eventFilter, if_neg hp, if_pos hk', ← hk.1]

theorem eventFilter_store (hp : Past m) (hk : ¬ Skipped m scancode)
    (hsize : (grown m scancode).size ≠ 4#8) :
    eventFilter m scancode =
      ({ m with
          filter := { m.filter with retry := 0#8 }
          packet := grown m scancode }, []) := by
  have hk' : ¬ (m.packet.size = 0#8 ∧ scancode &&& 0x08#8 = 0#8) := hk
  simp only [grown] at hsize
  rw [eventFilter, if_neg hp, if_neg hk']
  simp only [if_neg hsize, grown]

theorem eventFilter_dispatch (hp : Past m) (hk : ¬ Skipped m scancode)
    (hsize : (grown m scancode).size = 4#8) :
    eventFilter m scancode =
      let sent := eventDispatcher m.dispatch (grown m scancode)
      ({ m with
          filter := { m.filter with retry := 0#8 }
          dispatch := sent.1
          packet := { grown m scancode with size := 0#8 } },
        .eventDispatcher (grown m scancode) :: sent.2.map .joy) := by
  have hk' : ¬ (m.packet.size = 0#8 ∧ scancode &&& 0x08#8 = 0#8) := hk
  simp only [grown] at hsize
  rw [eventFilter, if_neg hp, if_neg hk']
  simp only [if_pos hsize, grown]

end Filter

/-- The six ways in which `EventFilter` treats a scancode. -/
inductive FilterStep (m : Mouse) (scancode : U8) : Mouse × List MsCall → Prop
  | accepted (hm : Matches m scancode) :
      FilterStep m scancode
        (let sent := answer m (m.filter.table.getD (m.filter.state.toNat + 1) 0#8)
        ({ sent.1 with filter := { m.filter with state := m.filter.state + 2#8 } }, sent.2))
  | retried (hs : m.filter.state < m.filter.size) (hm : ¬ Matches m scancode)
      (hr : m.filter.retry < 5#8) :
      FilterStep m scancode
        (resetState { m with filter := { m.filter with retry := m.filter.retry + 1#8 } })
  | gaveUp (hs : m.filter.state < m.filter.size) (hm : ¬ Matches m scancode)
      (hr : ¬ m.filter.retry < 5#8) :
      FilterStep m scancode
        ({ m with filter := { m.filter with state := 0xFF#8, retry := 0#8 } }, [.kbErrorStateLed])
  | skipped (hp : Past m) (hk : Skipped m scancode) : FilterStep m scancode (m, [])
  | stored (hp : Past m) (hk : ¬ Skipped m scancode) (hsize : (grown m scancode).size ≠ 4#8) :
      FilterStep m scancode
        ({ m with filter := { m.filter with retry := 0#8 }, packet := grown m scancode }, [])
  | dispatched (hp : Past m) (hk : ¬ Skipped m scancode)
      (hsize : (grown m scancode).size = 4#8) :
      FilterStep m scancode
        (let sent := eventDispatcher m.dispatch (grown m scancode)
        ({ m with
            filter := { m.filter with retry := 0#8 }
            dispatch := sent.1
            packet := { grown m scancode with size := 0#8 } },
          .eventDispatcher (grown m scancode) :: sent.2.map .joy))

/-- Every scancode is treated in one of these ways. -/
theorem eventFilter_step (m : Mouse) (scancode : U8) :
    FilterStep m scancode (eventFilter m scancode) := by
  by_cases hp : Past m
  · by_cases hk : Skipped m scancode
    · exact eventFilter_skip hp hk ▸ .skipped hp hk
    by_cases hsize : (grown m scancode).size = 4#8
    · exact eventFilter_dispatch hp hk hsize ▸ .dispatched hp hk hsize
    · exact eventFilter_store hp hk hsize ▸ .stored hp hk hsize
  · have hs : m.filter.state < m.filter.size := not_not.mp hp
    by_cases hm : Matches m scancode
    · exact eventFilter_match hm ▸ .accepted hm
    by_cases hr : m.filter.retry < 5#8
    · exact eventFilter_retry hs hm hr ▸ .retried hs hm hr
    · exact eventFilter_giveUp hs hm hr ▸ .gaveUp hs hm hr

end DiyPs3Controller.MouseDriver
