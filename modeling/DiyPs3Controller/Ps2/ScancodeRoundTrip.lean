import DiyPs3Controller.Ps2.ScancodeStream

/-!
# Key events through the keyboard's ring buffer and back

Without responses on the line the decoder inverts the encoding of key events:
every list of them comes out as it was put in, however its bytes are spread
over the ring buffer, and no prefix flag is left behind.
-/

namespace DiyPs3Controller.ScancodeRoundTrip

open RingBuffer KeyboardDriver ScancodeStream

/-- `EVA_EventDevice` -/
def evaEventDevice (e : U16) : U8 := ((e >>> 12) &&& 0x0F#16).setWidth 8

/-- `EVA_EventTrigger` -/
def evaEventTrigger (e : U16) : U8 := ((e >>> 8) &&& 0x0F#16).setWidth 8

/-- `EVA_EventValue` -/
def evaEventValue (e : U16) : U8 := (e &&& 0xFF#16).setWidth 8

/-- The bytes that a keyboard sends for a key event. -/
def encoding (e : KeyEvent) : List U8 :=
  (if e.extended then [0xE0#8] else []) ++ (if e.released then [0xF0#8] else []) ++ [e.code]

/-- The trigger of a key event: `KB_E0` is bit 1 and `KB_F0` is bit 0. -/
def triggerBits (e : KeyEvent) : BitVec 2 := BitVec.ofBool e.extended ++ BitVec.ofBool e.released

/-- What a scancode says about the key event it stands for. -/
structure Describes (scancode : U16) (e : KeyEvent) : Prop where
  device : evaEventDevice scancode = keyboardDevice.setWidth 8
  trigger : evaEventTrigger scancode = (triggerBits e).setWidth 8
  value : evaEventValue scancode = e.code

theorem flagged_fields : ∀ (trigger : BitVec 2) (value : U8),
    evaEventDevice (flagged (trigger.setWidth 8) value) = keyboardDevice.setWidth 8 ∧
      evaEventTrigger (flagged (trigger.setWidth 8) value) = trigger.setWidth 8 ∧
      evaEventValue (flagged (trigger.setWidth 8) value) = value := by
  decide +kernel

variable (e : KeyEvent)

theorem scancode_eq_flagged : e.scancode = flagged ((triggerBits e).setWidth 8) e.code := by
  unfold KeyEvent.scancode triggerBits
  cases e.extended <;> cases e.released <;> rfl

/-- The scancode of a key event gives back all of it. -/
theorem scancode_describes : Describes e.scancode e := by
  obtain ⟨hdevice, htrigger, hvalue⟩ := flagged_fields (triggerBits e) e.code
  rw [scancode_eq_flagged]
  exact ⟨hdevice, htrigger, hvalue⟩

theorem scancode_ne_zero : e.scancode ≠ 0#16 := by
  have hpos := flagged_pos ((triggerBits e).setWidth 8) e.code
  rw [scancode_eq_flagged]
  bv_omega

/-- A key event with no response inserted. -/
def alone : Piece where
  event := e
  before := []
  behindE0 := []
  behindF0 := []

theorem alone_events : (alone e).events = [e.scancode] := by
  cases hext : e.extended <;> cases hrel : e.released <;>
    simp [Piece.events, alone, responseEvents]

omit e in
/-- The decoder inverts the encoding and keeps no flag. -/
theorem decoder_encoding (events : List KeyEvent) :
    decoder.outputs 0#8 (events.flatMap encoding) = events.map KeyEvent.scancode ∧
      decoder.state 0#8 (events.flatMap encoding) = 0#8 := by
  have hbytes : events.flatMap encoding = (events.map alone).flatMap Piece.bytes := by
    rw [List.flatMap_map]
    rfl
  have hevents : events.map KeyEvent.scancode = (events.map alone).flatMap Piece.events := by
    rw [List.flatMap_map, List.map_eq_flatMap]
    exact congrArg (events.flatMap ·) (funext fun e => (alone_events e).symm)
  obtain ⟨hstate, hiff⟩ := pieces_run (events.map alone)
  rw [hbytes, hevents]
  refine ⟨hiff.mpr ?_, hstate⟩
  intro p hp
  obtain ⟨e, -, rfl⟩ := List.mem_map.mp hp
  exact ⟨fun _ => rfl, fun _ => rfl⟩

/-- However their bytes are queued and taken, key events come out as they were
put in, with their device, trigger and code, and leave no flag behind; none of
them is the zero that stands for no scancode. -/
theorem keyEvents_roundTrip (k : Keyboard) (hempty : k.rx.ringbuffer.contents = [])
    (hflags : k.e0f0 = 0#8) (events : List KeyEvent) (inputs : List KbInput)
    (harrive : arrivals inputs = events.flatMap encoding)
    (hroom : keyboardMachine.Along FindsRoom k inputs)
    (hdrained : (keyboardMachine.state k inputs).rx.ringbuffer.contents = []) :
    keyboardMachine.outputs k inputs = events.map KeyEvent.scancode ∧
      (keyboardMachine.state k inputs).e0f0 = 0#8 ∧
      ∀ e : KeyEvent, Describes e.scancode e ∧ e.scancode ≠ 0#16 := by
  obtain ⟨taken, hsplit, hstate, hout⟩ := run_reads inputs hroom
  rw [queued, queued, hempty, hdrained, List.nil_append, List.append_nil, harrive] at hsplit
  rw [hflags, ← hsplit] at hstate hout
  obtain ⟨hdecoded, hclear⟩ := decoder_encoding events
  refine ⟨hout.trans hdecoded, hstate.trans hclear, ?_⟩
  intro e
  exact ⟨scancode_describes e, scancode_ne_zero e⟩

/-- The right control key goes down and up, and then `A` goes down. -/
def controlThenA : List KeyEvent := [
  { code := rightControlKey, extended := true, released := false, not_e0 := by decide,
    not_f0 := by decide },
  { code := rightControlKey, extended := true, released := true, not_e0 := by decide,
    not_f0 := by decide },
  { code := aKey, extended := false, released := false, not_e0 := by decide,
    not_f0 := by decide }]

/-- Their six bytes; the queue is drained in part and then refilled. -/
def refilled : List KbInput :=
  [.arrive 0xE0#8, .arrive rightControlKey, .arrive 0xE0#8, .getScancode, .getScancode,
    .arrive 0xF0#8, .arrive rightControlKey, .getScancode, .arrive aKey, .getScancode,
    .getScancode, .getScancode, .getScancode]

theorem keyEvents_roundTrip_refilled :
    keyboardMachine.outputs kbInit refilled = controlThenA.map KeyEvent.scancode ∧
      (keyboardMachine.state kbInit refilled).e0f0 = 0#8 ∧
      ∀ e : KeyEvent, Describes e.scancode e ∧ e.scancode ≠ 0#16 :=
  keyEvents_roundTrip kbInit rfl rfl controlThenA refilled rfl (by decide) (by decide)

end DiyPs3Controller.ScancodeRoundTrip
