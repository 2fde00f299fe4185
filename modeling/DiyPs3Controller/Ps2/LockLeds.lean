import DiyPs3Controller.Ps2.KeyboardDriver
import DiyPs3Controller.Ps2.LockProtocol

/-!
# The lock LEDs of the keyboard

The keyboard driver with a keyboard on its line. The keyboard sends lock key
codes at any time, acknowledges every command byte and sets its LEDs when it
reads an LED byte; its bytes reach the driver in the order in which it sends
them. Every step of the two is a move of the handshake.
-/

namespace DiyPs3Controller.LockLeds

open RingBuffer Reception KeyboardDriver LockProtocol

/-- The keyboard's side of a command byte: the state is its LEDs, the outputs
are its answers. -/
def keyboardSide : Machine U8 KbCall U8 where
  step leds
    | .kbSend data => if data = 0xED#8 then (leds, [0xFA#8]) else (data, [0xFA#8])
    | _ => (leds, [])

/-- The driver, the keyboard's LEDs and the bytes it has still to send, with
the bits requested and toggled so far. -/
structure LockSystem where
  kb : Keyboard
  leds : U8
  outbox : List U8
  requested : List U8
  toggled : List U8
  deriving DecidableEq

/-- A lock key is pressed, the next byte of the keyboard arrives, the main loop
runs `KB_EventTask`, or the mouse driver reports its error state. -/
inductive LockInput
  | press (key : LockKey)
  | deliver
  | poll
  | errorStateLed
  deriving DecidableEq, Repr

/-- The delay of the ScrollLock heartbeat has run out and no byte is queued. -/
def Heartbeat (k : Keyboard) : Prop := k.rx.ringbuffer.contents = [] ∧ k.ledDelay = 0#16

instance (k : Keyboard) : Decidable (Heartbeat k) := inferInstanceAs (Decidable (_ ∧ _))

/-- `RING_AddElement` on the keyboard's buffer. -/
def enqueue (k : Keyboard) (data : U8) : Keyboard :=
  { k with rx := { k.rx with ringbuffer := k.rx.ringbuffer.addElement data } }

/-- The driver and the keyboard together. A byte that finds the buffer full
stays with the keyboard. -/
def lockMachine : Machine LockSystem LockInput KbCall where
  step s
    | .press key =>
        ({ s with outbox := s.outbox ++ [key.code], requested := s.requested ++ [key.bit] }, [])
    | .deliver =>
        match s.outbox with
        | [] => (s, [])
        | data :: rest =>
            if s.kb.rx.ringbuffer.HasRoom then
              ({ s with kb := enqueue s.kb data, outbox := rest }, [])
            else (s, [])
    | .poll =>
        let ran := kbEventTask s.kb
        ({ kb := ran.1
           leds := keyboardSide.state s.leds ran.2
           outbox := s.outbox ++ keyboardSide.outputs s.leds ran.2
           requested := s.requested ++ (if Heartbeat s.kb then [LockKey.scroll.bit] else [])
           toggled := s.toggled ++
             (if ran.1.leds = s.kb.leds then [] else [s.kb.leds ^^^ ran.1.leds]) }, ran.2)
    | .errorStateLed => ({ s with kb := kbErrorStateLed s.kb }, [])

/-- After `KB_Init`, with the LEDs off and nothing on the line. -/
def start : LockSystem where
  kb := kbInit
  leds := 0#8
  outbox := []
  requested := []
  toggled := []

/-- The bytes on their way to the event filter. -/
def LockSystem.inFlight (s : LockSystem) : List U8 := s.kb.rx.ringbuffer.contents ++ s.outbox

/-- A request is remembered in `kb_cmd` while `kb_lastbyte` is `0xED`. -/
def remembered (k : Keyboard) : Option U8 := if k.lastbyte = 0xED#8 then some k.cmd else none

/-- The handshake that the two sides are in. -/
def LockSystem.handshake (s : LockSystem) : Handshake where
  inFlight := s.inFlight
  pending := remembered s.kb
  leds := s.kb.leds
  keyboardLeds := s.leds
  requested := s.requested
  toggled := s.toggled

/-- This call of `KB_EventTask` handles a lock key code or a heartbeat. -/
def HandlesRequest (k : Keyboard) : Prop :=
  Heartbeat k ∨ (k.rx.ringbuffer.contents.head?.bind LockKey.ofCode?).isSome

instance (k : Keyboard) : Decidable (HandlesRequest k) := inferInstanceAs (Decidable (_ ∨ _))

/-- A request is handled only while no `0xED` waits for its acknowledgement. -/
def OneAtATime (s : LockSystem) (input : LockInput) : Prop :=
  input = .poll → HandlesRequest s.kb → s.kb.lastbyte ≠ 0xED#8

instance (s : LockSystem) (input : LockInput) : Decidable (OneAtATime s input) :=
  inferInstanceAs (Decidable (_ → _ → _))

/-- All bytes have been processed. -/
def Quiet (s : LockSystem) : Prop := s.inFlight = []

instance (s : LockSystem) : Decidable (Quiet s) := inferInstanceAs (Decidable (_ = _))

/-- Both sides show the exclusive or of all requests, each of which toggled its
bit exactly once. -/
structure Settled (s : LockSystem) : Prop where
  kbLeds : s.kb.leds = xorAll s.requested
  leds : s.leds = xorAll s.requested
  once : s.toggled.Perm s.requested

section Filter
variable (k : Keyboard)

/-- A lock key code is handled as a request and by nothing else. -/
theorem filter_lock (key : LockKey) :
    kbKeyboardEventFilter k (kbKeyPress key.code) = lockRequest k key.bit := by
  cases key <;> rfl

/-- An acknowledgement is handled while `0xED` is the last byte sent. -/
theorem filter_acknowledge :
    kbKeyboardEventFilter k (kbKeyPress 0xFA#8) =
      if k.lastbyte = 0xED#8 then ledAcknowledged k else (k, []) := by
  have hswitch : keySwitch (kbKeyPress 0xFA#8) = [] := rfl
  have hcommand : commandFilter k (kbKeyPress 0xFA#8) =
      if kbKeyPress 0xFA#8 = kbKeyPress 0xFA#8 ∧ k.lastbyte = 0xED#8 then ledAcknowledged k
      else (k, []) := rfl
  simp [kbKeyboardEventFilter, hswitch, hcommand]

end Filter

/-- What the driver and the line keep for the handshake to run. -/
structure Sound (s : LockSystem) : Prop where
  keycode : s.kb.ledKeycode = kbKeyPress LockKey.scroll.code
  flags : s.kb.e0f0 = 0#8
  bytes : ∀ b ∈ s.inFlight, b = 0xFA#8 ∨ ∃ key : LockKey, b = key.code
  leds_lt : s.kb.leds < 8#8
  cmd : s.kb.lastbyte = 0xED#8 → ∃ key : LockKey, s.kb.cmd = key.bit

theorem code_ne_prefix (key : LockKey) : key.code ≠ 0xE0#8 ∧ key.code ≠ 0xF0#8 := by
  cases key <;> decide

theorem xor_bit_lt {leds : U8} (h : leds < 8#8) (key : LockKey) : leds ^^^ key.bit < 8#8 := by
  have hbit : key.bit.toNat < 2 ^ 3 := by cases key <;> decide
  have hleds : leds.toNat < 2 ^ 3 := h
  have hxor := Nat.xor_lt_two_pow hleds hbit
  rwa [← BitVec.toNat_xor] at hxor

theorem xor_xor_self (leds bit : U8) : leds ^^^ (leds ^^^ bit) = bit := by
  rw [← BitVec.xor_assoc, BitVec.xor_self, BitVec.zero_xor]

theorem xor_bit_ne (leds : U8) (key : LockKey) : leds ^^^ key.bit ≠ leds := by
  intro heq
  have hbit := xor_xor_self leds key.bit
  rw [heq, BitVec.xor_self] at hbit
  cases key <;> exact absurd hbit (by decide)

section Poll
variable {s : LockSystem} (h : Sound s)
include h

/-- The heartbeat is a request of the ScrollLock bit. -/
theorem poll_heartbeat (hbeat : Heartbeat s.kb) :
    Moves s.handshake true (lockMachine.step s .poll).1.handshake ∧
      Sound (lockMachine.step s .poll).1 := by
  have hran := kbEventTask_heartbeat hbeat.1 hbeat.2
  rw [h.keycode, filter_lock] at hran
  have hstep : (lockMachine.step s .poll).1 =
      { s with
          kb := (kbEventTask s.kb).1
          outbox := s.outbox ++ [0xFA#8]
          requested := s.requested ++ [LockKey.scroll.bit] } := by
    simp [lockMachine, hran, lockRequest, kbSend, keyboardSide, hbeat]
  rw [hstep, hran]
  constructor
  · have hnext := Moves.heartbeat (v := s.handshake) .scroll
    simpa [LockSystem.handshake, LockSystem.inFlight, remembered, lockRequest, kbSend, clearIsr]
      using hnext
  · refine ⟨rfl, h.flags, ?_, h.leds_lt, fun _ => ⟨.scroll, rfl⟩⟩
    intro b hb
    have hmem : b ∈ s.inFlight ∨ b = 0xFA#8 := by
      simpa [LockSystem.inFlight, lockRequest, kbSend, clearIsr, or_assoc] using hb
    exact hmem.elim (h.bytes b) Or.inl

/-- A lock key code that is taken is a request of its bit. -/
theorem poll_lock {key : LockKey} {rest : List U8}
    (hcontents : s.kb.rx.ringbuffer.contents = key.code :: rest) :
    Moves s.handshake true (lockMachine.step s .poll).1.handshake ∧
      Sound (lockMachine.step s .poll).1 := by
  obtain ⟨he, hf⟩ := code_ne_prefix key
  have hbeat : ¬ Heartbeat s.kb := fun hb => by simp [hb.1] at hcontents
  have hran := kbEventTask_code hcontents he hf
  rw [h.flags, flagged_zero, filter_lock, kbGetScancode_code hcontents he hf] at hran
  have hrest := (getElement_of_contents hcontents).2
  have hstep : (lockMachine.step s .poll).1 =
      { s with kb := (kbEventTask s.kb).1, outbox := s.outbox ++ [0xFA#8] } := by
    simp [lockMachine, hran, lockRequest, kbSend, keyboardSide, hbeat]
  rw [hstep, hran]
  constructor
  · have hnext := Moves.lock (v := s.handshake) key (rest ++ s.outbox)
      (by simp [LockSystem.handshake, LockSystem.inFlight, hcontents])
    simpa [LockSystem.handshake, LockSystem.inFlight, remembered, lockRequest, kbSend, clearIsr,
      hrest]
      using hnext
  · refine ⟨h.keycode, rfl, ?_, h.leds_lt, fun _ => ⟨key, rfl⟩⟩
    intro b hb
    have hmem : b ∈ s.inFlight ∨ b = 0xFA#8 := by
      simp [LockSystem.inFlight, lockRequest, kbSend, clearIsr, hrest, hcontents] at hb ⊢
      tauto
    exact hmem.elim (h.bytes b) Or.inl

/-- An acknowledgement of `0xED` that is taken toggles the remembered bit. -/
theorem poll_acknowledge {rest : List U8}
    (hcontents : s.kb.rx.ringbuffer.contents = 0xFA#8 :: rest)
    (hpending : s.kb.lastbyte = 0xED#8) :
    Moves s.handshake false (lockMachine.step s .poll).1.handshake ∧
      Sound (lockMachine.step s .poll).1 := by
  obtain ⟨key, hcmd⟩ := h.cmd hpending
  have hbeat : ¬ Heartbeat s.kb := fun hb => by simp [hb.1] at hcontents
  have hrest := (getElement_of_contents hcontents).2
  have hran := kbEventTask_code hcontents (by decide) (by decide)
  rw [h.flags, flagged_zero, filter_acknowledge,
    kbGetScancode_code hcontents (by decide) (by decide), if_pos hpending] at hran
  have hlt : s.kb.leds ^^^ s.kb.cmd < 8#8 := hcmd ▸ xor_bit_lt h.leds_lt key
  have hled : s.kb.leds ^^^ s.kb.cmd ≠ 0xED#8 := by bv_omega
  have hchanged : s.kb.leds ^^^ s.kb.cmd ≠ s.kb.leds := hcmd ▸ xor_bit_ne s.kb.leds key
  have hstep : (lockMachine.step s .poll).1 =
      { s with
          kb := (kbEventTask s.kb).1
          leds := s.kb.leds ^^^ s.kb.cmd
          outbox := s.outbox ++ [0xFA#8]
          toggled := s.toggled ++ [s.kb.leds ^^^ (s.kb.leds ^^^ s.kb.cmd)] } := by
    simp [lockMachine, hran, ledAcknowledged, kbSend, keyboardSide, hbeat, hled, hchanged]
  rw [xor_xor_self] at hstep
  rw [hstep, hran]
  constructor
  · have hnext := Moves.acknowledge (v := s.handshake) s.kb.cmd (rest ++ s.outbox)
      (by simp [LockSystem.handshake, LockSystem.inFlight, hcontents])
      (by simp [LockSystem.handshake, remembered, hpending])
    simpa [LockSystem.handshake, LockSystem.inFlight, remembered, ledAcknowledged, kbSend, clearIsr,
      hrest, hled] using hnext
  · refine ⟨h.keycode, rfl, ?_, hlt, fun hed => absurd hed hled⟩
    intro b hb
    apply h.bytes
    simp [LockSystem.inFlight, ledAcknowledged, kbSend, clearIsr, hrest, hcontents] at hb ⊢
    tauto

/-- An acknowledgement of an LED byte that is taken changes nothing. -/
theorem poll_ignore {rest : List U8}
    (hcontents : s.kb.rx.ringbuffer.contents = 0xFA#8 :: rest)
    (hpending : s.kb.lastbyte ≠ 0xED#8) :
    Moves s.handshake false (lockMachine.step s .poll).1.handshake ∧
      Sound (lockMachine.step s .poll).1 := by
  have hbeat : ¬ Heartbeat s.kb := fun hb => by simp [hb.1] at hcontents
  have hrest := (getElement_of_contents hcontents).2
  have hran := kbEventTask_code hcontents (by decide) (by decide)
  rw [h.flags, flagged_zero, filter_acknowledge,
    kbGetScancode_code hcontents (by decide) (by decide), if_neg hpending] at hran
  have hstep : (lockMachine.step s .poll).1 = { s with kb := (kbEventTask s.kb).1 } := by
    simp [lockMachine, hran, hbeat]
  rw [hstep, hran]
  constructor
  · have hnext := Moves.ignore (v := s.handshake) (rest ++ s.outbox)
      (by simp [LockSystem.handshake, LockSystem.inFlight, hcontents])
      (by simp [LockSystem.handshake, remembered, hpending])
    simpa [LockSystem.handshake, LockSystem.inFlight, remembered, hrest, hpending] using hnext
  · refine ⟨h.keycode, rfl, ?_, h.leds_lt, h.cmd⟩
    intro b hb
    apply h.bytes
    simp [LockSystem.inFlight, hrest, hcontents] at hb ⊢
    tauto

/-- Nothing queued and the delay still running: nothing happens. -/
theorem poll_idle (hempty : s.kb.rx.ringbuffer.contents = []) (hdelay : s.kb.ledDelay ≠ 0#16) :
    Moves s.handshake false (lockMachine.step s .poll).1.handshake ∧
      Sound (lockMachine.step s .poll).1 := by
  have hbeat : ¬ Heartbeat s.kb := fun hb => hdelay hb.2
  have hran := kbEventTask_idle hempty hdelay
  have hstep : (lockMachine.step s .poll).1 = { s with kb := (kbEventTask s.kb).1 } := by
    simp [lockMachine, hran, hbeat]
  rw [hstep, hran]
  exact ⟨Moves.stay, h.keycode, h.flags, h.bytes, h.leds_lt, h.cmd⟩

end Poll

/-- A byte that arrives moves from the keyboard to the driver. -/
theorem deliver_same (s : LockSystem) :
    (lockMachine.step s .deliver).1.inFlight = s.inFlight ∧
      ∃ ring, (lockMachine.step s .deliver).1 =
        { s with
            kb := { s.kb with rx := { s.kb.rx with ringbuffer := ring } }
            outbox := (lockMachine.step s .deliver).1.outbox } := by
  simp only [lockMachine]
  split
  · exact ⟨rfl, _, rfl⟩
  · rename_i data rest hout
    split_ifs with hroom
    · refine ⟨?_, _, rfl⟩
      simp [LockSystem.inFlight, enqueue, hout, Ring.contents_addElement hroom]
    · exact ⟨rfl, _, rfl⟩

/-- Every step of the driver and the keyboard is a move of the handshake; it
handles a request exactly when `KB_EventTask` does. -/
theorem step_moves (s : LockSystem) (input : LockInput) (h : Sound s) :
    Moves s.handshake (decide (input = .poll ∧ HandlesRequest s.kb))
        (lockMachine.step s input).1.handshake ∧
      Sound (lockMachine.step s input).1 := by
  cases input with
  | press key =>
      refine ⟨?_, h.keycode, h.flags, ?_, h.leds_lt, h.cmd⟩
      · have hnext := Moves.press (v := s.handshake) key
        simpa [lockMachine, LockSystem.handshake, LockSystem.inFlight] using hnext
      · intro b hb
        have hmem : b ∈ s.inFlight ∨ b = key.code := by
          simpa [lockMachine, LockSystem.inFlight, or_assoc] using hb
        exact hmem.elim (h.bytes b) fun hcode => Or.inr ⟨key, hcode⟩
  | deliver =>
      obtain ⟨hflight, ring, hsame⟩ := deliver_same s
      generalize (lockMachine.step s .deliver).1 = t at hflight hsame ⊢
      have hstay : t.handshake = s.handshake := by
        rw [LockSystem.handshake, hflight, hsame]
        rfl
      have hbytes : ∀ b ∈ t.inFlight, b = 0xFA#8 ∨ ∃ key : LockKey, b = key.code :=
        hflight ▸ h.bytes
      rw [hsame] at hbytes
      exact ⟨hstay ▸ Moves.stay, hsame ▸ ⟨h.keycode, h.flags, hbytes, h.leds_lt, h.cmd⟩⟩
  | errorStateLed => exact ⟨Moves.stay, rfl, h.flags, h.bytes, h.leds_lt, h.cmd⟩
  | poll =>
      cases hcontents : s.kb.rx.ringbuffer.contents with
      | nil =>
          by_cases hdelay : s.kb.ledDelay = 0#16
          · have hhandles : HandlesRequest s.kb := Or.inl ⟨hcontents, hdelay⟩
            simpa [hhandles] using poll_heartbeat h ⟨hcontents, hdelay⟩
          · have hhandles : ¬ HandlesRequest s.kb := by
              simp [HandlesRequest, Heartbeat, hcontents, hdelay]
            simpa [hhandles] using poll_idle h hcontents hdelay
      | cons byte rest =>
          have hbyte : byte = 0xFA#8 ∨ ∃ key : LockKey, byte = key.code :=
            h.bytes byte (by simp [LockSystem.inFlight, hcontents])
          rcases hbyte with rfl | ⟨key, rfl⟩
          · have hhandles : ¬ HandlesRequest s.kb := by
              simp [HandlesRequest, Heartbeat, hcontents]
            by_cases hpending : s.kb.lastbyte = 0xED#8
            · simpa [hhandles] using poll_acknowledge h hcontents hpending
            · simpa [hhandles] using poll_ignore h hcontents hpending
          · have hhandles : HandlesRequest s.kb := Or.inr (by simp [hcontents])
            simpa [hhandles] using poll_lock h hcontents

/-- What every step of a run keeps. -/
structure Kept (s : LockSystem) : Prop where
  sound : Sound s
  coherent : Coherent s.handshake
  bounded : s.handshake.accounted ≤ s.handshake.requested.length

theorem kept_start : Kept start where
  sound := ⟨rfl, rfl, by simp [LockSystem.inFlight, start, kbInit, kbNormalStateLed, initial],
    by decide, fun h => absurd h (by decide)⟩
  coherent := ⟨rfl, rfl, fun h => absurd rfl h⟩
  bounded := by decide

theorem kept_step (s : LockSystem) (input : LockInput) (h : Kept s) :
    Kept (lockMachine.step s input).1 := by
  obtain ⟨hmove, hsound⟩ := step_moves s input h.sound
  exact ⟨hsound, moves_coherent hmove h.coherent, moves_bounded hmove h.bounded⟩

theorem kept_run (inputs : List LockInput) : Kept (lockMachine.state start inputs) :=
  Machine.state_of_step kept_step kept_start inputs

/-- One request at a time keeps every request toggled or outstanding. -/
theorem conserved_run {inputs : List LockInput} (hone : lockMachine.Along OneAtATime start inputs) :
    Conserved (lockMachine.state start inputs).handshake := by
  have hrun : Kept (lockMachine.state start inputs) ∧
      Conserved (lockMachine.state start inputs).handshake := by
    refine Machine.state_of_along (I := fun s => Kept s ∧ Conserved s.handshake) ?_
      ⟨kept_start, List.Perm.refl _⟩ hone
    rintro s input ⟨hkept, hconserved⟩ hone
    have hmove := (step_moves s input hkept.sound).1
    refine ⟨kept_step s input hkept, moves_conserved hmove ?_ hconserved⟩
    intro hhandles
    obtain ⟨hpoll, hrequest⟩ := of_decide_eq_true hhandles
    exact if_neg (hone hpoll hrequest)
  exact hrun.2

/-- A request handled while another is remembered is missing at the end of the run. -/
theorem short_run {s : LockSystem} {input : LockInput} (h : Kept s)
    (htwo : ¬ OneAtATime s input) (later : List LockInput) :
    Short (lockMachine.state (lockMachine.step s input).1 later).handshake := by
  simp only [OneAtATime, Classical.not_imp, not_not] at htwo
  obtain ⟨hpoll, hrequest, hpending⟩ := htwo
  have hmove := (step_moves s input h.sound).1
  rw [decide_eq_true (And.intro hpoll hrequest)] at hmove
  have hshort := moves_loses hmove (by simp [LockSystem.handshake, remembered, hpending]) h.bounded
  have hrun : Kept (lockMachine.state (lockMachine.step s input).1 later) ∧
      Short (lockMachine.state (lockMachine.step s input).1 later).handshake := by
    refine Machine.state_of_step (I := fun s => Kept s ∧ Short s.handshake) ?_
      ⟨kept_step s input h, hshort⟩ later
    rintro t next ⟨hkept, hshort⟩
    exact ⟨kept_step t next hkept, moves_short (step_moves t next hkept.sound).1 hshort⟩
  exact hrun.2

/-- In every run whose bytes have all been processed, both sides show the
exclusive or of all requests, each toggled exactly once, exactly when no
request was handled while an earlier `0xED` waited for its acknowledgement. -/
theorem lockRequests_settled_iff (inputs : List LockInput)
    (hquiet : Quiet (lockMachine.state start inputs)) :
    Settled (lockMachine.state start inputs) ↔ lockMachine.Along OneAtATime start inputs := by
  have hkept := kept_run inputs
  have hnone := outstanding_quiet hkept.coherent hquiet
  constructor
  · intro hsettled
    refine (Machine.along_iff_forall_split _ _).mpr fun pre input post hsplit => ?_
    by_contra htwo
    have hshort := short_run (kept_run pre) htwo post
    rw [← Machine.state_cons, ← Machine.state_append, ← hsplit] at hshort
    have hlen := hsettled.once.length_eq
    simp only [Short, Handshake.accounted, hnone, List.append_nil] at hshort
    exact absurd hlen (Nat.ne_of_lt hshort)
  · intro hone
    have hperm : (lockMachine.state start inputs).toggled.Perm
        (lockMachine.state start inputs).requested := by
      have hconserved := conserved_run hone
      rwa [Conserved, hnone, List.append_nil] at hconserved
    have hleds : (lockMachine.state start inputs).kb.leds =
        xorAll (lockMachine.state start inputs).requested :=
      hkept.coherent.leds.trans (xorAll_perm hperm)
    exact ⟨hleds, hkept.coherent.keyboardLeds.trans hleds, hperm⟩

/-- One heartbeat, with both of its acknowledgements delivered and handled. -/
def oneHeartbeat : List LockInput := [.poll, .deliver, .poll, .deliver, .poll]

theorem lockRequests_settled_iff_oneHeartbeat :
    Settled (lockMachine.state start oneHeartbeat) ↔
      lockMachine.Along OneAtATime start oneHeartbeat :=
  lockRequests_settled_iff oneHeartbeat (by decide)

/-- Both keys are handled before the first acknowledgement is delivered. -/
def scrollThenNum : List LockInput :=
  [.press .scroll, .press .num, .deliver, .deliver, .poll, .poll, .deliver, .poll, .deliver, .poll,
    .deliver, .poll]

/-- The ScrollLock request is overwritten and never toggled. -/
theorem scrollThenNum_not_settled :
    ¬ ∀ inputs, Quiet (lockMachine.state start inputs) →
      Settled (lockMachine.state start inputs) := by
  intro h
  have hleds := (h scrollThenNum (by decide +kernel)).leds
  revert hleds
  decide +kernel

end DiyPs3Controller.LockLeds
