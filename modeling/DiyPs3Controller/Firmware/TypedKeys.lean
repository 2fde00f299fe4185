import DiyPs3Controller.Firmware.KeyControls
import DiyPs3Controller.Ps2.ReceiveStreams
import DiyPs3Controller.Ps2.ScancodeRoundTrip

/-!
# From the keys of a keyboard to the reports of the controller

`KB_ClockInterrupt` and `KB_EventTask` over all variables of the keyboard driver and
the joystick: the samples of the line, the ring buffer, the decoder, the commands
and the heartbeat between the key events, and the key switch. A command resets the
receiver, and the answers of the keyboard come in between the key events.
-/

namespace DiyPs3Controller.TypedKeys

open Avr RingBuffer Reception Frames LineDrivers ReceiveStreams UsbJoystick MouseDriver
open KeyboardDriver ScancodeStream ScancodeRoundTrip Events HeldControls KeyControls

/-- A sample of the keyboard line, or a round of the main loop. -/
inductive TaskInput
  | clock (pin : U8)
  | round
  deriving DecidableEq, Repr

/-- `KB_ClockInterrupt`, or `KB_EventTask` with all its calls; the outputs are the reports. -/
def taskMachine : Machine Firmware TaskInput Joystick where
  step fw
    | .clock pin => ({ fw with kb := (kbClockInterrupt fw.kb pin).1 }, [])
    | .round =>
        let task := kbEventTask fw.kb
        perform kbCalls { fw with kb := task.1 } task.2

/-- The bytes that the clock interrupt adds to the ring buffer. -/
def queuedBytes (fw : Firmware) : TaskInput → List U8
  | .clock pin => (kbClockInterrupt fw.kb pin).2.filterMap RxCall.added?
  | .round => []

/-- The scancode that a round hands over to the event filter, if there is one. -/
def scancodes (fw : Firmware) : TaskInput → List U16
  | .clock _ => []
  | .round => if 0#16 < (kbGetScancode fw.kb).2 then [(kbGetScancode fw.kb).2] else []

def clockPins : List TaskInput → List U8
  | [] => []
  | .clock pin :: rest => pin :: clockPins rest
  | .round :: rest => clockPins rest

def isCommand : KbCall → Bool
  | .kbSend _ => true
  | _ => false

/-- A round sends a command. -/
def Commands (fw : Firmware) : Prop := ∃ call ∈ (kbEventTask fw.kb).2, isCommand call = true

/-- A byte that is queued finds room, and a command does not cut off a frame. -/
def Undisturbed (fw : Firmware) : TaskInput → Prop
  | .clock pin =>
      (kbClockInterrupt fw.kb pin).2.filterMap RxCall.added? ≠ [] → fw.kb.rx.ringbuffer.HasRoom
  | .round => Commands fw → fw.kb.rx.bitN = 1#8

instance (fw : Firmware) : (input : TaskInput) → Decidable (Undisturbed fw input)
  | .clock _ => inferInstanceAs (Decidable (_ → _))
  | .round => inferInstanceAs (Decidable ((∃ _ ∈ _, _) → _))

/-! ## The event filter -/

theorem sameCore_refl (r : Receiver) : SameCore r r := ⟨rfl, rfl, rfl⟩

theorem sameCore_trans {r t u : Receiver} (h : SameCore r t) (h' : SameCore t u) : SameCore r u :=
  ⟨h.bitN.trans h'.bitN, h.buffer.trans h'.buffer, h.error.trans h'.error⟩

/-- What the event filter does to the variables that carry the line: nothing, or it sends a
command and clears the interrupt variables. -/
structure FilterKeeps (k : Keyboard) (next : Keyboard × List KbCall) : Prop where
  flags : next.1.e0f0 = k.e0f0
  ringbuffer : next.1.rx.ringbuffer = k.rx.ringbuffer
  keycode : next.1.ledKeycode = k.ledKeycode ∨ next.1.ledKeycode = kbKeyPress scrollLockKey
  core : SameCore next.1.rx k.rx ∨ next.1.rx.Idle ∧ ∃ call ∈ next.2, isCommand call = true

theorem commandFilter_keeps (k : Keyboard) (scancode : U16) :
    FilterKeeps k (commandFilter k scancode) := by
  have hsent (data : U8) : ∃ call ∈ [KbCall.kbSend data], isCommand call = true :=
    ⟨_, List.mem_singleton_self _, rfl⟩
  unfold commandFilter
  split_ifs
  · exact ⟨rfl, rfl, Or.inr rfl, Or.inl ⟨rfl, rfl, rfl⟩⟩
  · exact ⟨rfl, rfl, Or.inl rfl, Or.inr ⟨⟨rfl, rfl⟩, hsent _⟩⟩
  · exact ⟨rfl, rfl, Or.inl rfl, Or.inr ⟨⟨rfl, rfl⟩, hsent _⟩⟩
  · exact ⟨rfl, rfl, Or.inl rfl, Or.inr ⟨⟨rfl, rfl⟩, hsent _⟩⟩
  · exact ⟨rfl, rfl, Or.inl rfl, Or.inr ⟨⟨rfl, rfl⟩, hsent _⟩⟩
  · simp only [resendRequested]
    split_ifs
    · exact ⟨rfl, rfl, Or.inl rfl, Or.inr ⟨⟨rfl, rfl⟩, hsent _⟩⟩
    · exact ⟨rfl, rfl, Or.inl rfl, Or.inr ⟨⟨rfl, rfl⟩, hsent _⟩⟩
    · exact ⟨rfl, rfl, Or.inl rfl, Or.inl ⟨rfl, rfl, rfl⟩⟩
  · exact ⟨rfl, rfl, Or.inl rfl, Or.inl ⟨rfl, rfl, rfl⟩⟩

theorem filter_keeps (k : Keyboard) (scancode : U16) :
    FilterKeeps k (kbKeyboardEventFilter k scancode) := by
  obtain ⟨hflags, hring, hkeycode, hcore⟩ := commandFilter_keeps k scancode
  refine ⟨hflags, hring, hkeycode, hcore.imp_right fun ⟨hidle, call, hmem, hcommand⟩ => ?_⟩
  exact ⟨hidle, call, List.mem_append_left _ hmem, hcommand⟩

/-! ## A round -/

/-- A round handles the scancode that it gets, counts down, or handles the keycode of the
heartbeat. -/
theorem kbEventTask_cases (k : Keyboard) :
    0#16 < (kbGetScancode k).2 ∧
        kbEventTask k = kbKeyboardEventFilter (kbGetScancode k).1 (kbGetScancode k).2 ∨
      ¬0#16 < (kbGetScancode k).2 ∧ ∃ delay delayAfter,
        (kbEventTask k = ({ (kbGetScancode k).1 with ledDelay := delay }, []) ∨
          kbEventTask k =
            let beat := kbKeyboardEventFilter { (kbGetScancode k).1 with ledDelay := delay }
              (kbGetScancode k).1.ledKeycode
            ({ beat.1 with ledDelay := delayAfter }, beat.2)) := by
  by_cases hgot : 0#16 < (kbGetScancode k).2
  · exact Or.inl ⟨hgot, by rw [kbEventTask, if_pos hgot]⟩
  · refine Or.inr ⟨hgot, (kbGetScancode k).1.ledDelay - 1#16, ?_⟩
    simp only [kbEventTask, if_neg hgot]
    split_ifs
    · exact ⟨_, Or.inr rfl⟩
    · exact ⟨0#16, Or.inl rfl⟩

theorem kbGetScancode_keycode (k : Keyboard) : (kbGetScancode k).1.ledKeycode = k.ledKeycode := by
  simp only [kbGetScancode]
  split_ifs <;> rfl

/-- The heartbeat's keycode is that of no control. -/
def Beats (fw : Firmware) : Prop := fw.kb.ledKeycode = kbKeyPress scrollLockKey

/-- The variables of a round that the main loop has behind `KB_GetScancode`. -/
structure RoundKeeps (k : Keyboard) (next : Keyboard × List KbCall) : Prop where
  flags : next.1.e0f0 = (kbGetScancode k).1.e0f0
  ringbuffer : next.1.rx.ringbuffer = (kbGetScancode k).1.rx.ringbuffer
  keycode : next.1.ledKeycode = k.ledKeycode ∨ next.1.ledKeycode = kbKeyPress scrollLockKey
  core : SameCore next.1.rx k.rx ∨ next.1.rx.Idle ∧ ∃ call ∈ next.2, isCommand call = true

theorem round_keeps (k : Keyboard) : RoundKeeps k (kbEventTask k) := by
  have hcore : SameCore (kbGetScancode k).1.rx k.rx := by
    rw [kbGetScancode_rx]
    exact ⟨rfl, rfl, rfl⟩
  have hfiltered {k' : Keyboard} {next : Keyboard × List KbCall} (h : FilterKeeps k' next)
      (hflags : k'.e0f0 = (kbGetScancode k).1.e0f0) (hrx : k'.rx = (kbGetScancode k).1.rx)
      (hkeycode : k'.ledKeycode = (kbGetScancode k).1.ledKeycode) : RoundKeeps k next := by
    refine ⟨h.flags.trans hflags, h.ringbuffer.trans (by rw [hrx]), ?_, ?_⟩
    · rw [← kbGetScancode_keycode k, ← hkeycode]
      exact h.keycode
    · exact h.core.imp_left fun hsame => sameCore_trans (hrx ▸ hsame) hcore
  rcases kbEventTask_cases k with ⟨-, htask⟩ | ⟨-, delay, delayAfter, htask | htask⟩
  · rw [htask]
    exact hfiltered (filter_keeps _ _) rfl rfl rfl
  · rw [htask]
    exact ⟨rfl, rfl, Or.inl (kbGetScancode_keycode k), Or.inl hcore⟩
  · have hbeat := filter_keeps { (kbGetScancode k).1 with ledDelay := delay }
      (kbGetScancode k).1.ledKeycode
    rw [htask]
    exact hfiltered ⟨hbeat.flags, hbeat.ringbuffer, hbeat.keycode, hbeat.core⟩ rfl rfl rfl

/-- The calls of a round leave the keyboard driver alone. -/
theorem kbCalls_kb (calls : List KbCall) (fw : Firmware) : (kbCalls.state fw calls).kb = fw.kb := by
  induction calls generalizing fw with
  | nil => rfl
  | cons call rest ih =>
      rw [Machine.state_cons, ih]
      cases call <;> rfl

/-- Of a round the joystick sees the scancode that it hands over, and nothing of the
heartbeat. -/
theorem task_joy (fw : Firmware) (input : TaskInput) (hbeats : Beats fw) :
    (taskMachine.step fw input).1.joy = switchMachine.state fw.joy (scancodes fw input) ∧
      (taskMachine.step fw input).2 = switchMachine.outputs fw.joy (scancodes fw input) := by
  cases input with
  | clock pin => exact ⟨rfl, rfl⟩
  | round =>
      obtain ⟨hjoy, hreports⟩ :=
        kbCalls_joy { fw with kb := (kbEventTask fw.kb).1 } (kbEventTask fw.kb).2
      have hstep (calls : List JoyCall)
          (hcalls : (kbEventTask fw.kb).2.filterMap kbJoy? = calls) :
          (taskMachine.step fw .round).1.joy = joyMachine.state fw.joy calls ∧
            (taskMachine.step fw .round).2 = joyMachine.outputs fw.joy calls := by
        rw [← hcalls]
        exact ⟨hjoy, hreports⟩
      simp only [scancodes]
      rcases kbEventTask_cases fw.kb with ⟨hgot, htask⟩ | ⟨hgot, delay, delayAfter, htask | htask⟩
      · obtain ⟨hstate, hout⟩ := hstep (keySwitch (kbGetScancode fw.kb).2)
          (by rw [htask, filter_joy])
        rw [if_pos hgot, hstate, hout]
        exact ⟨rfl, (List.append_nil _).symm⟩
      · rw [if_neg hgot]
        exact hstep [] (by rw [htask]; rfl)
      · have hsilent : keySwitch (kbGetScancode fw.kb).1.ledKeycode = [] := by
          rw [kbGetScancode_keycode, hbeats]
          decide
        rw [if_neg hgot]
        exact hstep [] (by rw [htask, filter_joy, hsilent])

theorem task_kb (fw : Firmware) : (taskMachine.step fw .round).1.kb = (kbEventTask fw.kb).1 :=
  kbCalls_kb _ _

theorem task_beats (fw : Firmware) (input : TaskInput) (hbeats : Beats fw) :
    Beats (taskMachine.step fw input).1 := by
  cases input with
  | clock pin => exact hbeats
  | round =>
      rw [Beats, task_kb]
      exact (round_keeps fw.kb).keycode.elim (fun h => h.trans hbeats) id

/-! ## The queue and the decoder -/

/-- What is queued for the decoder. -/
def queue (fw : Firmware) : List U8 := fw.kb.rx.ringbuffer.contents

/-- A step queues the byte of a frame, or decodes the byte that it takes. -/
theorem task_reads (fw : Firmware) (input : TaskInput) (hroom : Undisturbed fw input) :
    decoder.Reads queue (fun fw => fw.kb.e0f0) fw (taskMachine.step fw input).1
      (queuedBytes fw input) (scancodes fw input) := by
  cases input with
  | clock pin =>
      have hqueued : queue (taskMachine.step fw (.clock pin)).1 =
          queue fw ++ queuedBytes fw (.clock pin) := by
        rcases clockInterrupt_ringbuffer kbDataBit fw.kb.rx pin with
          ⟨b, hadd, hring⟩ | ⟨hadd, hring⟩
        · have hbyte : queuedBytes fw (.clock pin) = [b] := hadd
          have hone : (kbClockInterrupt fw.kb pin).2.filterMap RxCall.added? ≠ [] := by
            rw [show (kbClockInterrupt fw.kb pin).2.filterMap RxCall.added? = [b] from hadd]
            exact List.cons_ne_nil _ _
          rw [hbyte]
          exact (congrArg Ring.contents hring).trans (Ring.contents_addElement (hroom hone) b)
        · have hnone : queuedBytes fw (.clock pin) = [] := hadd
          rw [hnone, List.append_nil]
          exact congrArg Ring.contents hring
      exact ⟨[], hqueued.symm, rfl, rfl⟩
  | round =>
      obtain ⟨taken, hqueue, hflags, hshown⟩ := step_reads fw.kb .getScancode trivial
      have hkeeps := round_keeps fw.kb
      refine ⟨taken, ?_, ?_, hshown⟩
      · rw [queue, queue, task_kb, hkeeps.ringbuffer]
        exact hqueue
      · exact ((congrArg Keyboard.e0f0 (task_kb fw)).trans hkeeps.flags).trans hflags

/-! ## Frames that no command cuts off -/

section Cuts
variable {d : Nat} (hd : d < 8)
include hd

/-- Inside a frame the receiver does not wait for a start bit. -/
theorem insideFrame_bitN {r : Receiver} (hr : r.Idle) {b : U8} {before behind : List U8}
    (h : IsFrame d b (before ++ behind)) (hbefore : before ≠ []) (hbehind : behind ≠ []) :
    ((lineMachine d).state r before).bitN ≠ 1#8 := by
  obtain ⟨start, data, parity, stop, hpins, hstart, hlen, hbyte, hparity, hstop⟩ := h.split
  have hstarted := clock_start hd hr.1 hstart
  cases before with
  | nil => exact absurd rfl hbefore
  | cons first before =>
      simp only [List.cons_append, List.append_assoc, List.cons.injEq] at hpins
      obtain ⟨rfl, hrest⟩ := hpins
      rcases Nat.lt_or_ge 8 before.length with hlong | hshort
      · have hlength := congrArg List.length hrest
        have hsplit : before = data ++ [parity] := by
          have hpos := List.length_pos_iff.mpr hbehind
          simp only [List.length_append, List.length_cons, List.length_nil] at hlength
          rw [List.nil_append, List.append_cons] at hrest
          refine (List.append_inj hrest ?_).1
          simp only [List.length_append, List.length_singleton]
          omega
        have hpassed := (parity_passed_run hd hr hstart hlen
          (hbyte ▸ hparity ▸ parityRejects_oddParity hd b)).1
        rw [List.cons_append, ← hsplit] at hpassed
        rw [hpassed]
        exact (by decide : (11#8 : U8) ≠ 1#8)
      · have hdata : before = data.take before.length := by
          have htake := congrArg (List.take before.length) hrest
          rwa [List.take_left, List.take_append_of_le_length (by omega)] at htake
        have hrun := (data_run hd before { r with bitN := 2#8 } 0 rfl (by omega)).1
        rw [Machine.state_cons]
        have hstep : (lineMachine d).step r first = ({ r with bitN := 2#8 }, []) := hstarted
        rw [hstep, hrun]
        intro hone
        have hcount := congrArg BitVec.toNat hone
        simp only [BitVec.toNat_add, BitVec.toNat_ofNat] at hcount
        omega

/-- A stream that is left where the receiver waits for a start bit is left between frames. -/
theorem carries_split {bytes pins : List U8} (h : Carries d bytes pins) {r : Receiver}
    (hr : r.Idle) {before behind : List U8} (hpins : pins = before ++ behind)
    (hwaits : ((lineMachine d).state r before).bitN = 1#8) :
    ∃ now later, bytes = now ++ later ∧ Carries d now before ∧ Carries d later behind := by
  induction h generalizing r before with
  | nil =>
      obtain ⟨rfl, rfl⟩ := List.nil_eq_append_iff.mp hpins
      exact ⟨[], [], rfl, .nil, .nil⟩
  | @high bytes pin rest hp tail ih =>
      cases before with
      | nil =>
          obtain rfl : pin :: rest = behind := hpins
          exact ⟨[], bytes, rfl, .nil, .high hp tail⟩
      | cons first before =>
          obtain ⟨rfl, hrest⟩ := List.cons.inj hpins
          have hstep : (lineMachine d).step r pin = (r, []) := clock_idle_high hd hr.1 hp
          rw [Machine.state_cons, hstep] at hwaits
          obtain ⟨now, later, rfl, hnow, hlater⟩ := ih hr hrest hwaits
          exact ⟨now, later, rfl, .high hp hnow, hlater⟩
  | @frame b bytes pins rest hframe tail ih =>
      rcases List.append_eq_append_iff.mp hpins with ⟨mid, hbefore, hrest⟩ |
        ⟨mid, hframeSplit, hbehind⟩
      · have hrun := (Frames.frame_run hd hr hframe).1
        rw [hbefore, Machine.state_append, hrun] at hwaits
        obtain ⟨now, later, rfl, hnow, hlater⟩ := ih ⟨rfl, rfl⟩ hrest hwaits
        exact ⟨b :: now, later, rfl, hbefore ▸ .frame hframe hnow, hlater⟩
      · by_cases hempty : before = []
        · subst hempty
          refine ⟨[], b :: bytes, rfl, .nil, ?_⟩
          rw [hbehind, ← List.nil_append mid, ← hframeSplit]
          exact .frame hframe tail
        · by_cases hwhole : mid = []
          · subst hwhole
            rw [List.append_nil] at hframeSplit
            rw [List.nil_append] at hbehind
            refine ⟨[b], bytes, rfl, ?_, hbehind ▸ tail⟩
            rw [← hframeSplit, ← List.append_nil pins]
            exact .frame hframe .nil
          · rw [hframeSplit] at hframe
            exact absurd hwaits (insideFrame_bitN hd hr hframe hempty hwhole)

end Cuts

/-- The bytes queued in a run. -/
def arrived (fw : Firmware) (inputs : List TaskInput) : List U8 :=
  (taskMachine.noting queuedBytes).outputs fw inputs

/-- The scancodes handed over in a run. -/
def handed (fw : Firmware) (inputs : List TaskInput) : List U16 :=
  (taskMachine.noting scancodes).outputs fw inputs

/-- A round leaves the receiver where it is, or brings it back to idle with a command that
cuts off no frame. -/
theorem round_core (fw : Firmware) (h : Undisturbed fw .round) :
    SameCore (taskMachine.step fw .round).1.kb.rx fw.kb.rx ∨
      (taskMachine.step fw .round).1.kb.rx.Idle ∧ fw.kb.rx.bitN = 1#8 := by
  rw [task_kb]
  exact (round_keeps fw.kb).core.imp_right fun ⟨hidle, hsends⟩ => ⟨hidle, h hsends⟩

/-- The bytes that a receiver adds. -/
def added (r : Receiver) (pins : List U8) : List U8 :=
  ((lineMachine kbDataBit).outputs r pins).filterMap RxCall.added?

theorem added_carries {r : Receiver} (hr : r.Idle) {bytes pins : List U8}
    (h : Carries kbDataBit bytes pins) : added r pins = bytes := by
  rw [added, (carries_run (by decide) h hr).1]
  simp [List.filterMap_map, Function.comp_def, RxCall.added?]

/-- What is queued behind the samples `before` of a stream is the rest of its bytes. -/
theorem arrived_rest (inputs : List TaskInput) {fw : Firmware} {r : Receiver} (hr : r.Idle)
    {before bytes : List U8} (hcore : SameCore fw.kb.rx ((lineMachine kbDataBit).state r before))
    (hcarries : Carries kbDataBit bytes (before ++ clockPins inputs))
    (hundisturbed : taskMachine.Along Undisturbed fw inputs) :
    added r before ++ arrived fw inputs = bytes := by
  induction inputs generalizing fw r before bytes with
  | nil =>
      rw [clockPins, List.append_nil] at hcarries
      rw [arrived, Machine.outputs_nil, List.append_nil]
      exact added_carries hr hcarries
  | cons input rest ih =>
      cases input with
      | clock pin =>
          obtain ⟨hnext, hcalls⟩ := clockInterrupt_core kbDataBit hcore pin
          have hstate : (lineMachine kbDataBit).state r (before ++ [pin]) =
              (clockInterrupt kbDataBit ((lineMachine kbDataBit).state r before) pin).1 := by
            rw [Machine.state_append]
            rfl
          have hadded : added r (before ++ [pin]) =
              added r before ++ queuedBytes fw (.clock pin) := by
            rw [added, Machine.outputs_append, List.filterMap_append, added, queuedBytes,
              kbClockInterrupt, hcalls]
            exact congrArg _ (congrArg _ (List.append_nil _))
          have hlater := ih hr (hstate ▸ hnext) (by rwa [List.append_assoc]) hundisturbed.2
          rw [hadded, List.append_assoc] at hlater
          exact hlater
      | round =>
          rcases round_core fw hundisturbed.1 with hsame | ⟨hidle, hwaits⟩
          · exact ih hr (sameCore_trans hsame hcore) hcarries hundisturbed.2
          · obtain ⟨now, later, rfl, hnow, hrest⟩ := carries_split (by decide) hcarries hr rfl
              (hcore.bitN.symm.trans hwaits)
            have hnone : SameCore (taskMachine.step fw .round).1.kb.rx
                ((lineMachine kbDataBit).state (taskMachine.step fw .round).1.kb.rx []) :=
              sameCore_refl _
            have hlater := ih hidle hnone hrest hundisturbed.2
            rw [added_carries hr hnow]
            exact congrArg _ hlater

/-! ## Whole runs -/

/-- The scancodes of the key events alone. -/
def keyScancodes (t : Stream) : List U16 := t.pieces.map fun p => p.event.scancode

theorem response_unmapped (r : Response) : keySwitch (kbKeyPress r.byte) = [] := by
  cases r <;> decide

/-- The switch does nothing for the answers of the keyboard. -/
theorem switch_responses (j : Joystick) (rs : List Response) :
    switchMachine.state j (responseEvents rs) = j ∧
      switchMachine.outputs j (responseEvents rs) = [] := by
  induction rs with
  | nil => exact ⟨rfl, rfl⟩
  | cons r rest ih =>
      have hstep : switchMachine.step j (kbKeyPress r.byte) = (j, []) := by
        simp only [switchMachine, response_unmapped, Machine.state_nil, Machine.outputs_nil]
      rw [responseEvents, List.map_cons, Machine.state_cons, Machine.outputs_cons, hstep]
      exact ih

/-- Nor does it for the answers between the bytes of a key event. -/
theorem switch_piece (j : Joystick) (p : Piece) :
    switchMachine.state j p.events = switchMachine.state j [p.event.scancode] ∧
      switchMachine.outputs j p.events = switchMachine.outputs j [p.event.scancode] := by
  have hprefixed (present : Bool) (rs : List Response) :
      switchMachine.state j (if present then responseEvents rs else []) = j ∧
        switchMachine.outputs j (if present then responseEvents rs else []) = [] := by
    cases present with
    | false => exact ⟨rfl, rfl⟩
    | true => exact switch_responses j rs
  obtain ⟨hbefore, hbeforeOut⟩ := switch_responses j p.before
  obtain ⟨he0, he0Out⟩ := hprefixed p.event.extended p.behindE0
  obtain ⟨hf0, hf0Out⟩ := hprefixed p.event.released p.behindF0
  simp only [Piece.events, Machine.state_append, Machine.outputs_append, hbefore, hbeforeOut, he0,
    he0Out, hf0, hf0Out, List.nil_append, and_self]

theorem switch_pieces (j : Joystick) (ps : List Piece) :
    switchMachine.state j (ps.flatMap Piece.events) =
        switchMachine.state j (ps.map fun p => p.event.scancode) ∧
      switchMachine.outputs j (ps.flatMap Piece.events) =
        switchMachine.outputs j (ps.map fun p => p.event.scancode) := by
  induction ps generalizing j with
  | nil => exact ⟨rfl, rfl⟩
  | cons p rest ih =>
      obtain ⟨hstate, hout⟩ := switch_piece j p
      obtain ⟨hrest, hrestOut⟩ := ih (switchMachine.state j [p.event.scancode])
      rw [List.flatMap_cons, List.map_cons, ← List.singleton_append, Machine.state_append,
        Machine.outputs_append, hstate, hout, hrest, hrestOut, Machine.state_append,
        Machine.outputs_append]
      exact ⟨rfl, rfl⟩

theorem switch_stream (j : Joystick) (t : Stream) :
    switchMachine.state j t.events = switchMachine.state j (keyScancodes t) ∧
      switchMachine.outputs j t.events = switchMachine.outputs j (keyScancodes t) := by
  obtain ⟨hstate, hout⟩ := switch_pieces j t.pieces
  obtain ⟨hlast, hlastOut⟩ := switch_responses (switchMachine.state j (keyScancodes t)) t.last
  rw [Stream.events, Machine.state_append, Machine.outputs_append, hstate, hout]
  refine ⟨hlast, ?_⟩
  exact (congrArg _ hlastOut).trans (List.append_nil _)

/-- Whether a key is down behind an event. -/
def downAfter (code : U8) (down : Bool) (e : KeyEvent) : Bool :=
  if e.code = code ∧ e.extended = false then !e.released else down

/-- Whether a key is down behind these events. -/
def isHeld (code : U8) (events : List KeyEvent) : Bool := events.foldl (downAfter code) false

/-- A scancode tells its flags and its code. -/
theorem flagged_injective {trigger trigger' : BitVec 2} {value value' : U8}
    (h : flagged (trigger.setWidth 8) value = flagged (trigger'.setWidth 8) value') :
    trigger = trigger' ∧ value = value' := by
  obtain ⟨-, htrigger, hvalue⟩ := flagged_fields trigger value
  obtain ⟨-, htrigger', hvalue'⟩ := flagged_fields trigger' value'
  rw [h] at htrigger hvalue
  refine ⟨?_, hvalue.symm.trans hvalue'⟩
  have hwide : trigger.setWidth 8 = trigger'.setWidth 8 := htrigger.symm.trans htrigger'
  have hnarrow := congrArg (BitVec.setWidth 2) hwide
  simpa using hnarrow

/-- The scancodes of the events of a key. -/
theorem scancode_eq_iff (e : KeyEvent) (code : U8) (released : Bool) :
    e.scancode = (if released then kbKeyRelease code else kbKeyPress code) ↔
      (e.code = code ∧ e.extended = false) ∧ e.released = released := by
  have hflagged : (if released then kbKeyRelease code else kbKeyPress code) =
      flagged ((BitVec.ofBool false ++ BitVec.ofBool released).setWidth 8) code := by
    cases released <;> rfl
  rw [scancode_eq_flagged, hflagged]
  constructor
  · intro h
    obtain ⟨htrigger, hcode⟩ := flagged_injective h
    have hbits : e.extended = false ∧ e.released = released := by
      unfold triggerBits at htrigger
      revert htrigger
      cases e.extended <;> cases e.released <;> cases released <;> decide
    exact ⟨⟨hcode, hbits.1⟩, hbits.2⟩
  · rintro ⟨⟨hcode, hextended⟩, hreleased⟩
    rw [triggerBits, hcode, hextended, hreleased]

/-- Only the events of a key write the button of the key. -/
theorem written_scancode (code : U8) (e : KeyEvent) :
    (KeyGroup.own code).written e.scancode =
      if e.code = code ∧ e.extended = false then some (!e.released) else none := by
  have hpress : (e.scancode == kbKeyPress code) =
      decide ((e.code = code ∧ e.extended = false) ∧ e.released = false) :=
    decide_eq_decide.mpr (scancode_eq_iff e code false)
  have hrelease : (e.scancode == kbKeyRelease code) =
      decide ((e.code = code ∧ e.extended = false) ∧ e.released = true) :=
    decide_eq_decide.mpr (scancode_eq_iff e code true)
  have hrows : (KeyGroup.own code).rows = [(kbKeyPress code, true), (kbKeyRelease code, false)] :=
    rfl
  rw [KeyGroup.written, hrows, List.lookup_cons, hpress]
  by_cases hmine : e.code = code ∧ e.extended = false
  · cases hreleased : e.released with
    | false => simp [hmine]
    | true => simp [List.lookup_cons, hrelease, hmine, hreleased]
  · simp [List.lookup_cons, hrelease, hmine]

/-- What the events of a key write is whether the key is down. -/
theorem lastWrite_own (code : U8) (down : Bool) (events : List KeyEvent) :
    lastWrite (KeyGroup.own code).written down (events.map KeyEvent.scancode) =
      events.foldl (downAfter code) down := by
  induction events generalizing down with
  | nil => rfl
  | cons e rest ih =>
      have hdown : ((KeyGroup.own code).written e.scancode).getD down = downAfter code down e := by
        rw [written_scancode, downAfter]
        split_ifs <;> rfl
      rw [List.map_cons, lastWrite_cons, hdown, ih, List.foldl_cons]

/-- From the samples of the line to the reports: in every run from start-up on, with all rounds,
heartbeats, commands and answers in between, the reports are those of the key events in
order, every control shows what the events of its keys wrote last, and a button with a key
of its own is down exactly when that key is. -/
theorem typed_keys (ms : Mouse) (t : Stream) (inputs : List TaskInput)
    (hcarries : Carries kbDataBit t.bytes (clockPins inputs)) (huninterrupted : t.Uninterrupted)
    (hundisturbed : taskMachine.Along Undisturbed (neutralStart kbInit ms) inputs)
    (hdrained : queue (taskMachine.state (neutralStart kbInit ms) inputs) = []) :
    let after := (taskMachine.state (neutralStart kbInit ms) inputs).joy
    taskMachine.outputs (neutralStart kbInit ms) inputs =
        switchMachine.outputs usbJoystickRaz (keyScancodes t) ∧
      (∀ {α : Type} (c : Control α), c.read after =
        lastWrite c.group.written (c.read usbJoystickRaz) (keyScancodes t)) ∧
      ∀ key ∈ buttonKeys, isDown key.2 after = isHeld key.1 (t.pieces.map Piece.event) := by
  intro after
  have hstart : SameCore (neutralStart kbInit ms).kb.rx
      ((lineMachine kbDataBit).state (initial kbBufsize) []) := sameCore_refl _
  have hbytes : arrived (neutralStart kbInit ms) inputs = t.bytes :=
    arrived_rest inputs (initial_idle kbBufsize) hstart hcarries hundisturbed
  obtain ⟨taken, hqueue, -, hhanded⟩ := Machine.reads_run task_reads hundisturbed
  have hempty : queue (neutralStart kbInit ms) = [] := rfl
  have htaken : taken = t.bytes := by
    rw [hempty, hdrained, List.nil_append, List.append_nil] at hqueue
    exact hqueue.symm.trans hbytes
  have hevents : handed (neutralStart kbInit ms) inputs = t.events := by
    rw [htaken] at hhanded
    exact hhanded.trans (t.outputs_iff.mpr huninterrupted)
  obtain ⟨hjoy, hreports⟩ := Machine.fed_run_of_step (M := taskMachine) (N := switchMachine)
    (I := Beats) (f := id) task_beats
    (fun fw input hbeats => by
      obtain ⟨hjoy, hreports⟩ := task_joy fw input hbeats
      exact ⟨hjoy, (List.map_id _).trans hreports⟩)
    (rfl : Beats (neutralStart kbInit ms)) inputs
  rw [List.map_id, ← handed, hevents, (switch_stream _ t).2] at hreports
  rw [← handed, hevents, (switch_stream _ t).1] at hjoy
  have hcontrols {α : Type} (c : Control α) : c.read after =
      lastWrite c.group.written (c.read usbJoystickRaz) (keyScancodes t) :=
    (congrArg c.read hjoy).trans (Machine.state_lastWrite c.read_switch usbJoystickRaz _)
  refine ⟨hreports, hcontrols, fun key hkey => ?_⟩
  have hall : buttonKeys.all (fun key => !isDown key.2 usbJoystickRaz) = true := by decide
  have hup : isDown key.2 usbJoystickRaz = false := by
    rw [← Bool.not_eq_true']
    exact List.all_eq_true.mp hall key hkey
  have hscancodes : keyScancodes t = (t.pieces.map Piece.event).map KeyEvent.scancode := by
    rw [List.map_map]
    rfl
  have hbutton : isDown key.2 after = lastWrite (KeyGroup.own key.1).written
      (isDown key.2 usbJoystickRaz) (keyScancodes t) := hcontrols (buttonControl key hkey)
  rw [hbutton, hup, hscancodes, lastWrite_own]
  rfl

/-- `Space` goes down and up behind the two acknowledgements of the first heartbeat. -/
def typedSpace : Stream where
  pieces := [
    { event :=
        { code := spaceKey, extended := false, released := false, not_e0 := by decide,
          not_f0 := by decide }
      before := [.acknowledge, .acknowledge]
      behindE0 := []
      behindF0 := [] },
    { event :=
        { code := spaceKey, extended := false, released := true, not_e0 := by decide,
          not_f0 := by decide }
      before := []
      behindE0 := []
      behindF0 := [] }]
  last := []

/-- The samples of a frame. -/
def frameClocks (b : U8) : List TaskInput := (framePins kbDataBit b).map .clock

/-- Its frames, with rounds in between. -/
def spaceInputs : List TaskInput :=
  .round :: frameClocks 0xFA#8 ++ .round :: frameClocks 0xFA#8 ++ .round ::
    frameClocks spaceKey ++ .round :: frameClocks 0xF0#8 ++ frameClocks spaceKey ++
    [.round, .round]

theorem spaceInputs_carry : Carries kbDataBit typedSpace.bytes (clockPins spaceInputs) := by
  have hframe (b : U8) : IsFrame kbDataBit b (framePins kbDataBit b) :=
    framePins_isFrame (by decide) b
  have hpins : clockPins spaceInputs =
      framePins kbDataBit 0xFA#8 ++ (framePins kbDataBit 0xFA#8 ++ (framePins kbDataBit spaceKey ++
        (framePins kbDataBit 0xF0#8 ++ (framePins kbDataBit spaceKey ++ [])))) := by
    decide
  rw [hpins]
  exact .frame (hframe _) (.frame (hframe _) (.frame (hframe _) (.frame (hframe _)
    (.frame (hframe _) .nil))))

theorem typed_keys_space :
    let after := (taskMachine.state (neutralStart kbInit msInit) spaceInputs).joy
    taskMachine.outputs (neutralStart kbInit msInit) spaceInputs =
        switchMachine.outputs usbJoystickRaz (keyScancodes typedSpace) ∧
      (∀ {α : Type} (c : Control α), c.read after =
        lastWrite c.group.written (c.read usbJoystickRaz) (keyScancodes typedSpace)) ∧
      ∀ key ∈ buttonKeys,
        isDown key.2 after = isHeld key.1 (typedSpace.pieces.map Piece.event) :=
  typed_keys msInit typedSpace spaceInputs spaceInputs_carry
    (by unfold Stream.Uninterrupted; decide) (by decide +kernel) (by decide +kernel)

end DiyPs3Controller.TypedKeys
