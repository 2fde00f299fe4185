import DiyPs3Controller.Ps2.KeyboardDriver

/-!
# Key events and command responses in one stream

A key event is a code behind at most two prefix bytes. The decoder keeps the
prefixes it has read as flags, and the next byte that is no prefix takes them,
whether it is the code or a response to a command.
-/

namespace DiyPs3Controller.ScancodeStream

open RingBuffer Reception KeyboardDriver

/-- `KB_EKeyPress`, with the trigger `EKeyPress`. -/
def kbEKeyPress (value : U8) : U16 :=
  evaNewEvent (evaNewEventKey keyboardDevice 2#16) (value.setWidth 16)

/-- `KB_EKeyRelease`, with the trigger `EKeyRelease`. -/
def kbEKeyRelease (value : U8) : U16 :=
  evaNewEvent (evaNewEventKey keyboardDevice 3#16) (value.setWidth 16)

/-- A key event; its code is not one of the two prefix bytes. -/
structure KeyEvent where
  code : U8
  extended : Bool
  released : Bool
  not_e0 : code ≠ 0xE0#8
  not_f0 : code ≠ 0xF0#8

/-- The scancode that stands for a key event. -/
def KeyEvent.scancode (e : KeyEvent) : U16 :=
  match e.extended, e.released with
  | false, false => kbKeyPress e.code
  | false, true => kbKeyRelease e.code
  | true, false => kbEKeyPress e.code
  | true, true => kbEKeyRelease e.code

/-- What the keyboard answers to a command byte. -/
inductive Response
  | acknowledge
  | resend
  deriving DecidableEq, Repr

def Response.byte : Response → U8
  | .acknowledge => 0xFA#8
  | .resend => 0xFE#8

/-- A key event with the responses inserted before each of its bytes. -/
structure Piece where
  event : KeyEvent
  before : List Response
  behindE0 : List Response
  behindF0 : List Response

/-- Responses on the line and the events they should give. -/
def responseBytes (rs : List Response) : List U8 := rs.map Response.byte

def responseEvents (rs : List Response) : List U16 := rs.map fun r => kbKeyPress r.byte

namespace Piece

/-- The bytes of a key event and of the responses inserted into it. -/
def bytes (p : Piece) : List U8 :=
  responseBytes p.before ++
    (if p.event.extended then 0xE0#8 :: responseBytes p.behindE0 else []) ++
    (if p.event.released then 0xF0#8 :: responseBytes p.behindF0 else []) ++ [p.event.code]

/-- The events these bytes should give. -/
def events (p : Piece) : List U16 :=
  responseEvents p.before ++
    (if p.event.extended then responseEvents p.behindE0 else []) ++
    (if p.event.released then responseEvents p.behindF0 else []) ++ [p.event.scancode]

/-- No response stands between a prefix and the code. -/
def Uninterrupted (p : Piece) : Prop :=
  (p.event.extended = true → p.behindE0 = []) ∧ (p.event.released = true → p.behindF0 = [])

instance (p : Piece) : Decidable p.Uninterrupted := inferInstanceAs (Decidable (_ ∧ _))

end Piece

/-- Key events with responses inserted, and the responses behind the last one. -/
structure Stream where
  pieces : List Piece
  last : List Response

namespace Stream

def bytes (t : Stream) : List U8 := t.pieces.flatMap Piece.bytes ++ responseBytes t.last

def events (t : Stream) : List U16 := t.pieces.flatMap Piece.events ++ responseEvents t.last

def Uninterrupted (t : Stream) : Prop := ∀ p ∈ t.pieces, p.Uninterrupted

end Stream

/-- `KB_GetScancode` on one byte, over the prefix flags alone. -/
def decoder : Machine U8 U8 U16 where
  step flags byte :=
    if byte = 0xE0#8 then (1#8 <<< 1, [])
    else if byte = 0xF0#8 then (flags ||| (1#8 <<< 0), [])
    else (0#8, [flagged flags byte])

section Decoder
variable (flags : U8)

theorem decoder_e0 : decoder.step flags 0xE0#8 = (2#8, []) := by
  simp [decoder]

theorem decoder_f0 : decoder.step flags 0xF0#8 = (flags ||| 1#8, []) := by
  simp [decoder]

theorem decoder_code {byte : U8} (he : byte ≠ 0xE0#8) (hf : byte ≠ 0xF0#8) :
    decoder.step flags byte = (0#8, [flagged flags byte]) := by
  simp [decoder, he, hf]

theorem decoder_response (r : Response) :
    decoder.step flags r.byte = (0#8, [flagged flags r.byte]) := by
  cases r <;> exact decoder_code flags (by decide) (by decide)

/-- Responses with no prefix before them give their own events. -/
theorem responses_run (rs : List Response) :
    decoder.state 0#8 (responseBytes rs) = 0#8 ∧
      decoder.outputs 0#8 (responseBytes rs) = responseEvents rs := by
  induction rs with
  | nil => exact ⟨rfl, rfl⟩
  | cons r rest ih =>
      simp only [responseBytes, responseEvents, List.map_cons, Machine.state_cons,
        Machine.outputs_cons, decoder_response] at ih ⊢
      exact ⟨ih.1, by rw [ih.2]; rfl⟩

/-- The first of several responses takes the flags. -/
theorem responses_cons_run (r : Response) (rs : List Response) :
    decoder.state flags (responseBytes (r :: rs)) = 0#8 ∧
      decoder.outputs flags (responseBytes (r :: rs)) =
        flagged flags r.byte :: responseEvents rs := by
  obtain ⟨hstate, hout⟩ := responses_run rs
  simp only [responseBytes] at hstate hout
  simp [responseBytes, decoder_response, hstate, hout]

end Decoder

/-- The flags behind at least one prefix. -/
def Pending (flags : U8) : Prop := flags = 1#8 ∨ flags = 2#8 ∨ flags = 3#8

theorem flagged_response_ne {flags : U8} (h : Pending flags) (r : Response) :
    flagged flags r.byte ≠ kbKeyPress r.byte := by
  rcases h with rfl | rfl | rfl <;> cases r <;> decide

/-- A prefix byte, when it is there, with the responses behind it. -/
def prefixed (present : Bool) (byte : U8) (rs : List Response) : List U8 :=
  if present then byte :: responseBytes rs else []

section Prefixed
variable {flags next byte : U8} (hstep : decoder.step flags byte = (next, []))
  (present : Bool) (rs : List Response)
include hstep

theorem prefixed_state :
    decoder.state flags (prefixed present byte rs) =
      if present then if rs = [] then next else 0#8 else flags := by
  cases present with
  | false => rfl
  | true =>
      cases rs with
      | nil => simp [prefixed, responseBytes, hstep]
      | cons r rest => simp [prefixed, hstep, (responses_cons_run next r rest).1]

theorem prefixed_outputs_length :
    (decoder.outputs flags (prefixed present byte rs)).length =
      (if present then responseEvents rs else []).length := by
  cases present with
  | false => rfl
  | true =>
      cases rs with
      | nil => simp [prefixed, responseBytes, responseEvents, hstep]
      | cons r rest =>
          simp [prefixed, hstep, (responses_cons_run next r rest).2, responseEvents]

/-- Responses behind a prefix give their own events only if there are none. -/
theorem prefixed_outputs_iff (hnext : Pending next) :
    decoder.outputs flags (prefixed present byte rs) =
        (if present then responseEvents rs else []) ↔
      (present = true → rs = []) := by
  cases present with
  | false => simp [prefixed]
  | true =>
      cases rs with
      | nil => simp [prefixed, responseBytes, responseEvents, hstep]
      | cons r rest =>
          have hne := flagged_response_ne hnext r
          simp [prefixed, hstep, (responses_cons_run next r rest).2, responseEvents, hne]

end Prefixed

namespace Piece

theorem bytes_eq (p : Piece) :
    p.bytes = responseBytes p.before ++ prefixed p.event.extended 0xE0#8 p.behindE0 ++
      prefixed p.event.released 0xF0#8 p.behindF0 ++ [p.event.code] := rfl

variable (p : Piece)

/-- The flags behind the extended prefix and its responses. -/
theorem state_e0 :
    decoder.state 0#8 (prefixed p.event.extended 0xE0#8 p.behindE0) = 0#8 ∨
      decoder.state 0#8 (prefixed p.event.extended 0xE0#8 p.behindE0) = 2#8 := by
  rw [prefixed_state (decoder_e0 0#8)]
  split_ifs <;> simp

theorem code_step (flags : U8) :
    decoder.state flags [p.event.code] = 0#8 ∧
      decoder.outputs flags [p.event.code] = [flagged flags p.event.code] := by
  simp [decoder_code flags p.event.not_e0 p.event.not_f0]

/-- The code takes the flags, so nothing is left for the next event. -/
theorem decoder_state : decoder.state 0#8 p.bytes = 0#8 := by
  rw [bytes_eq, Machine.state_append]
  exact (p.code_step _).1

theorem outputs_eq :
    decoder.outputs 0#8 p.bytes =
      let flags := decoder.state 0#8 (prefixed p.event.extended 0xE0#8 p.behindE0)
      responseEvents p.before ++
        decoder.outputs 0#8 (prefixed p.event.extended 0xE0#8 p.behindE0) ++
        decoder.outputs flags (prefixed p.event.released 0xF0#8 p.behindF0) ++
        [flagged (decoder.state flags (prefixed p.event.released 0xF0#8 p.behindF0))
          p.event.code] := by
  obtain ⟨hstate, hout⟩ := responses_run p.before
  simp only [bytes_eq, Machine.outputs_append, Machine.state_append, hstate, hout,
    (p.code_step _).2]

/-- Without responses behind the prefixes the flags say how the key moved. -/
theorem flagged_eq (h : p.Uninterrupted) :
    flagged (decoder.state
        (decoder.state 0#8 (prefixed p.event.extended 0xE0#8 p.behindE0))
        (prefixed p.event.released 0xF0#8 p.behindF0)) p.event.code = p.event.scancode := by
  rw [prefixed_state (decoder_f0 _), prefixed_state (decoder_e0 0#8)]
  unfold KeyEvent.scancode
  cases hext : p.event.extended <;> cases hrel : p.event.released <;>
    simp [h.1, h.2, hext, hrel, flagged, kbKeyPress, kbKeyRelease, kbEKeyPress, kbEKeyRelease]

theorem length_eq : (decoder.outputs 0#8 p.bytes).length = p.events.length := by
  rw [outputs_eq, events]
  simp only [List.length_append, prefixed_outputs_length (decoder_e0 _),
    prefixed_outputs_length (decoder_f0 _), List.length_singleton]

/-- One key event is decoded as it should be exactly when it is not interrupted. -/
theorem outputs_iff : decoder.outputs 0#8 p.bytes = p.events ↔ p.Uninterrupted := by
  have hpending : Pending (decoder.state 0#8
      (prefixed p.event.extended 0xE0#8 p.behindE0) ||| 1#8) := by
    rcases p.state_e0 with h | h <;> rw [h] <;> simp [Pending]
  have he0 := prefixed_outputs_iff (decoder_e0 0#8) p.event.extended p.behindE0 (by simp [Pending])
  have hf0 := prefixed_outputs_iff (decoder_f0 _) p.event.released p.behindF0 hpending
  rw [outputs_eq, events]
  constructor
  · intro h
    obtain ⟨h, -⟩ := List.append_inj' h rfl
    obtain ⟨h, hlast⟩ := List.append_inj' h (prefixed_outputs_length (decoder_f0 _) _ _)
    obtain ⟨-, hfirst⟩ := List.append_inj' h (prefixed_outputs_length (decoder_e0 _) _ _)
    exact ⟨he0.mp hfirst, hf0.mp hlast⟩
  · intro h
    simp only [he0.mpr h.1, hf0.mpr h.2, p.flagged_eq h]

end Piece

theorem pieces_run (ps : List Piece) :
    decoder.state 0#8 (ps.flatMap Piece.bytes) = 0#8 ∧
      (decoder.outputs 0#8 (ps.flatMap Piece.bytes) = ps.flatMap Piece.events ↔
        ∀ p ∈ ps, p.Uninterrupted) := by
  induction ps with
  | nil => simp
  | cons p rest ih =>
      simp only [List.flatMap_cons, Machine.state_append, Machine.outputs_append,
        p.decoder_state, List.forall_mem_cons, ← p.outputs_iff, ← ih.2]
      exact ⟨ih.1, fun h => List.append_inj h p.length_eq, fun h => by rw [h.1, h.2]⟩

/-- A stream is decoded as it should be exactly when no event is interrupted. -/
theorem Stream.outputs_iff (t : Stream) :
    decoder.outputs 0#8 t.bytes = t.events ↔ t.Uninterrupted := by
  obtain ⟨hstate, hiff⟩ := pieces_run t.pieces
  rw [Stream.bytes, Stream.events, Machine.outputs_append, hstate, (responses_run t.last).2,
    List.append_left_inj]
  exact hiff

/-- A byte queued by the clock interrupt, a call of `KB_GetScancode`, or a
command sent in between. -/
inductive KbInput
  | arrive (data : U8)
  | getScancode
  | send (data : U8)
  deriving DecidableEq, Repr

/-- The keyboard driver between its line and its event filter; the outputs are
the scancodes that `KB_GetScancode` hands over. -/
def keyboardMachine : Machine Keyboard KbInput U16 where
  step k
    | .arrive data =>
        ({ k with rx := { k.rx with ringbuffer := k.rx.ringbuffer.addElement data } }, [])
    | .getScancode =>
        let got := kbGetScancode k
        (got.1, if 0#16 < got.2 then [got.2] else [])
    | .send data => ((kbSend k data).1, [])

/-- The bytes that arrive. -/
def arrivals (inputs : List KbInput) : List U8 :=
  inputs.filterMap fun
    | .arrive data => some data
    | _ => none

/-- The byte that arrives with an input. -/
def arrival? : KbInput → Option U8
  | .arrive data => some data
  | .getScancode | .send _ => none

theorem arrivals_eq (inputs : List KbInput) : arrivals inputs = inputs.filterMap arrival? := by
  unfold arrivals
  congr 1
  funext input
  cases input <;> rfl

/-- A byte that arrives finds room. -/
def FindsRoom (k : Keyboard) : KbInput → Prop
  | .arrive _ => k.rx.ringbuffer.HasRoom
  | _ => True

instance (k : Keyboard) (input : KbInput) : Decidable (FindsRoom k input) :=
  match input with
  | .arrive _ => inferInstanceAs (Decidable k.rx.ringbuffer.HasRoom)
  | .getScancode | .send _ => inferInstanceAs (Decidable True)

/-- `KB_GetScancode` takes the oldest byte and decodes it. -/
theorem getScancode_cons {k : Keyboard} {byte : U8} {rest : List U8}
    (h : k.rx.ringbuffer.contents = byte :: rest) :
    (keyboardMachine.step k .getScancode).1.rx.ringbuffer.contents = rest ∧
      (keyboardMachine.step k .getScancode).1.e0f0 = (decoder.step k.e0f0 byte).1 ∧
      (keyboardMachine.step k .getScancode).2 = (decoder.step k.e0f0 byte).2 := by
  refine ⟨kbGetScancode_contents h, ?_⟩
  have helement : k.rx.ringbuffer.hasElement = true := by simp [Ring.hasElement_eq, h]
  by_cases he : byte = 0xE0#8
  · subst he
    simp [keyboardMachine, kbGetScancode, helement, (getElement_of_contents h).1, decoder]
  by_cases hf : byte = 0xF0#8
  · subst hf
    simp [keyboardMachine, kbGetScancode, helement, (getElement_of_contents h).1, decoder]
  · rw [decoder_code k.e0f0 he hf]
    simp [keyboardMachine, kbGetScancode_code h he hf, flagged_pos]

theorem getScancode_nil {k : Keyboard} (h : k.rx.ringbuffer.contents = []) :
    (keyboardMachine.step k .getScancode).1.rx.ringbuffer.contents = [] ∧
      (keyboardMachine.step k .getScancode).1.e0f0 = k.e0f0 ∧
      (keyboardMachine.step k .getScancode).2 = [] := by
  simp [keyboardMachine, kbGetScancode_nil h, h]

/-- The bytes queued for the decoder. -/
def queued (k : Keyboard) : List U8 := k.rx.ringbuffer.contents

/-- A step decodes the byte that it takes out of the queue, if it takes one. -/
theorem step_reads (k : Keyboard) (input : KbInput) (hroom : FindsRoom k input) :
    decoder.Reads queued Keyboard.e0f0 k (keyboardMachine.step k input).1
      (arrival? input).toList (keyboardMachine.step k input).2 := by
  cases input with
  | arrive data =>
      refine ⟨[], ?_, rfl, rfl⟩
      exact (Ring.contents_addElement hroom data).symm
  | send data =>
      refine ⟨[], ?_, rfl, rfl⟩
      simp [queued, keyboardMachine, arrival?, kbSend, clearIsr]
  | getScancode =>
      cases h : k.rx.ringbuffer.contents with
      | nil =>
          obtain ⟨hcontents, hflags, hout⟩ := getScancode_nil h
          refine ⟨[], ?_, hflags, hout⟩
          rw [queued, queued, h, hcontents]
          rfl
      | cons byte rest =>
          obtain ⟨hcontents, hflags, hout⟩ := getScancode_cons h
          refine ⟨[byte], ?_, hflags, ?_⟩
          · rw [queued, queued, h, hcontents]
            exact List.append_nil _
          · rw [hout]
            simp

/-- A run decodes the bytes that it takes out of the queue, in order. -/
theorem run_reads (inputs : List KbInput) {k : Keyboard}
    (hroom : keyboardMachine.Along FindsRoom k inputs) :
    decoder.Reads queued Keyboard.e0f0 k (keyboardMachine.state k inputs)
      (arrivals inputs) (keyboardMachine.outputs k inputs) := by
  have hrun : True ∧ decoder.Reads queued Keyboard.e0f0 k (keyboardMachine.state k inputs)
      (inputs.filterMap arrival?) ((keyboardMachine.outputs k inputs).filterMap some) := by
    apply Machine.buffered_run (I := fun _ => True) _ trivial hroom
    intro k input _ hroom
    rw [List.filterMap_some]
    exact ⟨trivial, step_reads k input hroom⟩
  rw [List.filterMap_some, ← arrivals_eq] at hrun
  exact hrun.2

/-- However its bytes arrive and are taken, a stream gives the key events and
one event for each response, in order, exactly when no response stands between
a prefix and its code. -/
theorem stream_events_iff (k : Keyboard) (hempty : k.rx.ringbuffer.contents = [])
    (hflags : k.e0f0 = 0#8) (t : Stream) (inputs : List KbInput)
    (harrive : arrivals inputs = t.bytes) (hroom : keyboardMachine.Along FindsRoom k inputs)
    (hdrained : (keyboardMachine.state k inputs).rx.ringbuffer.contents = []) :
    keyboardMachine.outputs k inputs = t.events ↔ t.Uninterrupted := by
  obtain ⟨taken, hsplit, -, hout⟩ := run_reads inputs hroom
  rw [queued, queued, hempty, hdrained, List.nil_append, List.append_nil, harrive] at hsplit
  rw [hout, hflags, ← hsplit]
  exact t.outputs_iff

/-- The release of the key `S` with an acknowledgement behind its prefix. -/
def interruptedRelease : Stream where
  pieces := [
    { event :=
        { code := sKey, extended := false, released := true, not_e0 := by decide,
          not_f0 := by decide }
      before := []
      behindE0 := []
      behindF0 := [.acknowledge] }]
  last := []

/-- Its three bytes arrive and are taken. -/
def takenInTurn : List KbInput :=
  [.arrive 0xF0#8, .getScancode, .send 0xED#8, .arrive 0xFA#8, .getScancode, .arrive sKey,
    .getScancode]

theorem stream_events_iff_interruptedRelease :
    keyboardMachine.outputs kbInit takenInTurn = interruptedRelease.events ↔
      interruptedRelease.Uninterrupted :=
  stream_events_iff kbInit rfl rfl interruptedRelease takenInTurn rfl (by decide) (by decide)

/-- The interrupted release comes out as a release of `0xFA` and a press of `S`. -/
theorem interruptedRelease_corrupted :
    ¬ ∀ (k : Keyboard) (t : Stream) (inputs : List KbInput),
      k.rx.ringbuffer.contents = [] → k.e0f0 = 0#8 → arrivals inputs = t.bytes →
      keyboardMachine.Along FindsRoom k inputs →
      (keyboardMachine.state k inputs).rx.ringbuffer.contents = [] →
      keyboardMachine.outputs k inputs = t.events := by
  intro h
  have hevents := h kbInit interruptedRelease takenInTurn rfl rfl rfl (by decide) (by decide)
  have hactual : keyboardMachine.outputs kbInit takenInTurn =
      [kbKeyRelease 0xFA#8, kbKeyPress sKey] := by decide
  rw [hactual] at hevents
  revert hevents
  decide

end DiyPs3Controller.ScancodeStream
