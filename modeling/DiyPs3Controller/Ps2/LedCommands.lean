import DiyPs3Controller.Foundations.Budgets
import DiyPs3Controller.Ps2.LockLeds
import DiyPs3Controller.Ps2.ResendBound

/-!
# Commands to the keyboard

`kb_lastbyte` is the byte to send again and at once the state of the LED
handshake: it is the last byte sent, whatever event made the driver send it. So
an acknowledgement toggles a LED only if `0xED` is the last byte on the line,
and each `0xED` that a lock key makes the driver send is good for one toggle.
-/

namespace DiyPs3Controller.LedCommands

open KeyboardDriver LockProtocol ResendBound

/-- A lock key is pressed. The heartbeat has the code of ScrollLock. -/
def LockRequest (scancode : U16) : Prop := ∃ key : LockKey, scancode = kbKeyPress key.code

instance (scancode : U16) : Decidable (LockRequest scancode) :=
  decidable_of_iff
    (scancode = kbKeyPress scrollLockKey ∨ scancode = kbKeyPress numLockKey ∨
      scancode = kbKeyPress capsLockKey) (by
    constructor
    · rintro (h | h | h)
      exacts [⟨.scroll, h⟩, ⟨.num, h⟩, ⟨.caps, h⟩]
    · rintro ⟨key, h⟩
      cases key
      exacts [Or.inl h, Or.inr (Or.inl h), Or.inr (Or.inr h)])

/-- The scancode of an acknowledgement. -/
def acknowledge : U16 := kbKeyPress 0xFA#8

/-- `0xED` has been sent, and no LED byte and no reset after it. -/
def Awaited (sent : List U8) : Prop :=
  ∃ before after, sent = before ++ 0xED#8 :: after ∧
    ∀ byte ∈ after, ¬byte < 8#8 ∧ byte ≠ 0xFF#8

/-- The number of events that change `kb_leds`. -/
def ledChanges (k : Keyboard) (scancodes : List U16) : Nat :=
  Budgets.cost keyboardMachine
    (fun k scancode => if (keyboardMachine.step k scancode).1.leds = k.leds then 0 else 1)
    k scancodes

/-- What the driver sends and how the LEDs change over a run. -/
structure Commanded (k : Keyboard) (scancodes : List U16) : Prop where
  bytes : ∀ byte ∈ sends k scancodes, byte = 0xED#8 ∨ byte = 0xFF#8 ∨ byte < 8#8
  leds : (keyboardMachine.state k scancodes).leds < 8#8
  changes : ∀ before scancode after, scancodes = before ++ scancode :: after →
    ((keyboardMachine.state k (before ++ [scancode])).leds ≠
        (keyboardMachine.state k before).leds ↔
      scancode = acknowledge ∧ Awaited (sends k before))
  few : ledChanges k scancodes ≤ scancodes.countP (LockRequest ·)

/-- What an event does to the handshake, and the bytes that it makes the driver send. -/
inductive Answered (k : Keyboard) (scancode : U16) (next : Keyboard) : List U8 → Prop
  | requested (key : LockKey) (code : scancode = kbKeyPress key.code)
      (cmd : next.cmd = key.bit) (leds : next.leds = k.leds) :
      Answered k scancode next [0xED#8]
  | acknowledged (code : scancode = acknowledge) (pending : k.lastbyte = 0xED#8)
      (leds : next.leds = k.leds ^^^ k.cmd) : Answered k scancode next [next.leds]
  | other {sent : List U8} (code : ¬(scancode = acknowledge ∧ k.lastbyte = 0xED#8))
      (cmd : next.cmd = k.cmd) (leds : next.leds = k.leds)
      (bytes : ∀ byte ∈ sent, byte = k.lastbyte ∨ byte = 0xFF#8) : Answered k scancode next sent

section Event
variable (k : Keyboard) (scancode : U16)

/-- The bytes that one event makes the driver send. -/
def sent : List U8 := (keyboardMachine.step k scancode).2.filterMap sent?

theorem sent_eq : sent k scancode = (commandFilter k scancode).2.filterMap sent? := by
  simp only [sent, keyboardMachine, kbKeyboardEventFilter, List.filterMap_append,
    keySwitch_sends, List.append_nil]

theorem step_eq : (keyboardMachine.step k scancode).1 = (commandFilter k scancode).1 := rfl

/-- The resend case sends the last byte again, or a reset, or nothing. -/
theorem resendRequested_sent :
    ((resendRequested k).1.lastbyte =
        ((resendRequested k).2.filterMap sent?).getLast?.getD k.lastbyte) ∧
      (resendRequested k).1.cmd = k.cmd ∧ (resendRequested k).1.leds = k.leds ∧
      ∀ byte ∈ (resendRequested k).2.filterMap sent?, byte = k.lastbyte ∨ byte = 0xFF#8 := by
  simp only [resendRequested]
  split_ifs <;> simp [kbSend, sent?]

variable {k scancode}

/-- An event that is neither a lock key nor an awaited acknowledgement. -/
theorem commandFilter_other (hlock : ¬LockRequest scancode)
    (hcode : ¬(scancode = acknowledge ∧ k.lastbyte = 0xED#8)) :
    commandFilter k scancode =
      if scancode = kbKeyPress mKey then (kbNormalStateLed k, [.msMouseReset])
      else if scancode = resend then resendRequested k else (k, []) := by
  have hscroll : ¬scancode = kbKeyPress scrollLockKey := fun h => hlock ⟨.scroll, h⟩
  have hnum : ¬scancode = kbKeyPress numLockKey := fun h => hlock ⟨.num, h⟩
  have hcaps : ¬scancode = kbKeyPress capsLockKey := fun h => hlock ⟨.caps, h⟩
  have hpending : ¬(scancode = kbKeyPress 0xFA#8 ∧ k.lastbyte = 0xED#8) := hcode
  rw [commandFilter, if_neg hscroll, if_neg hnum, if_neg hcaps, if_neg hpending]
  rfl

theorem commandFilter_lock (key : LockKey) :
    commandFilter k (kbKeyPress key.code) = lockRequest k key.bit := by
  cases key <;> rfl

theorem commandFilter_acknowledge (hpending : k.lastbyte = 0xED#8) :
    commandFilter k acknowledge = ledAcknowledged k := by
  have hcode : acknowledge = kbKeyPress 0xFA#8 ∧ k.lastbyte = 0xED#8 := ⟨rfl, hpending⟩
  have hother : commandFilter k acknowledge =
      if acknowledge = kbKeyPress 0xFA#8 ∧ k.lastbyte = 0xED#8 then ledAcknowledged k
      else (k, []) := rfl
  rw [hother, if_pos hcode]

/-- One event, and `kb_lastbyte` after it is the last byte sent. -/
theorem step_answered (k : Keyboard) (scancode : U16) :
    Answered k scancode (keyboardMachine.step k scancode).1 (sent k scancode) ∧
      (keyboardMachine.step k scancode).1.lastbyte =
        (sent k scancode).getLast?.getD k.lastbyte := by
  rw [sent_eq, step_eq]
  by_cases hlock : LockRequest scancode
  · obtain ⟨key, rfl⟩ := hlock
    rw [commandFilter_lock]
    exact ⟨.requested key rfl rfl rfl, rfl⟩
  · by_cases hcode : scancode = acknowledge ∧ k.lastbyte = 0xED#8
    · obtain ⟨rfl, hpending⟩ := hcode
      rw [commandFilter_acknowledge hpending]
      exact ⟨.acknowledged rfl hpending rfl, rfl⟩
    · rw [commandFilter_other hlock hcode]
      split_ifs with hreset hresend
      · exact ⟨.other hcode rfl rfl (by simp [sent?]), rfl⟩
      · obtain ⟨hlast, hcmd, hleds, hbytes⟩ := resendRequested_sent k
        exact ⟨.other hcode hcmd hleds hbytes, hlast⟩
      · exact ⟨.other hcode rfl rfl (by simp), rfl⟩

/-- A request that is pending after a resend was pending before it. -/
theorem pending_before {next : Keyboard} {sent : List U8}
    (hbytes : ∀ byte ∈ sent, byte = k.lastbyte ∨ byte = 0xFF#8)
    (hlast : next.lastbyte = sent.getLast?.getD k.lastbyte) (hpending : next.lastbyte = 0xED#8) :
    k.lastbyte = 0xED#8 := by
  rw [hlast] at hpending
  cases hsent : sent.getLast? with
  | none => rwa [hsent] at hpending
  | some byte =>
      rw [hsent] at hpending
      have hed : byte = 0xED#8 := hpending
      rcases hbytes byte (List.mem_of_getLast? hsent) with hbyte | hbyte
      · rw [← hbyte, hed]
      · rw [hbyte] at hed
        exact absurd hed (by decide)

end Event

/-- What the bytes sent so far say of the driver. -/
structure Tracked (shown : List U8) (k : Keyboard) : Prop where
  last : k.lastbyte = shown.getLast?.getD 0#8
  bytes : ∀ byte ∈ shown, byte = 0xED#8 ∨ byte = 0xFF#8 ∨ byte < 8#8
  leds : k.leds < 8#8
  cmd : k.lastbyte = 0xED#8 → ∃ key : LockKey, k.cmd = key.bit

theorem tracked_init : Tracked [] kbInit where
  last := rfl
  bytes := by simp
  leds := by decide
  cmd := fun hpending => absurd hpending (by decide)

section Tracked
variable {shown : List U8} {k : Keyboard} (h : Tracked shown k)
include h

theorem Tracked.lastbyte_cases :
    k.lastbyte = 0xED#8 ∨ k.lastbyte = 0xFF#8 ∨ k.lastbyte < 8#8 := by
  rw [h.last]
  cases hlast : shown.getLast? with
  | none => exact Or.inr (Or.inr (by decide))
  | some byte => exact h.bytes byte (List.mem_of_getLast? hlast)

theorem tracked_step (scancode : U16) :
    Tracked (shown ++ sent k scancode) (keyboardMachine.step k scancode).1 := by
  obtain ⟨hanswered, hlast⟩ := step_answered k scancode
  have hnext : (keyboardMachine.step k scancode).1.lastbyte =
      (shown ++ sent k scancode).getLast?.getD 0#8 := by
    rw [hlast, h.last, List.getLast?_append]
    cases (sent k scancode).getLast? <;> rfl
  generalize (keyboardMachine.step k scancode).1 = next at hanswered hlast hnext ⊢
  generalize sent k scancode = new at hanswered hlast hnext ⊢
  cases hanswered with
  | requested key code cmd leds =>
      refine ⟨hnext, List.forall_mem_append.mpr ⟨h.bytes, by simp⟩, ?_, fun _ => ⟨key, cmd⟩⟩
      rw [leds]
      exact h.leds
  | acknowledged code pending leds =>
      obtain ⟨key, hcmd⟩ := h.cmd pending
      have hlt : next.leds < 8#8 := by
        rw [leds, hcmd]
        exact LockLeds.xor_bit_lt h.leds key
      have hbyte : next.lastbyte = next.leds := hlast
      refine ⟨hnext, List.forall_mem_append.mpr ⟨h.bytes, by simp [hlt]⟩, hlt, ?_⟩
      intro hpending
      rw [hbyte] at hpending
      rw [hpending] at hlt
      exact absurd hlt (by decide)
  | other code cmd leds bytes =>
      refine ⟨hnext, List.forall_mem_append.mpr ⟨h.bytes, ?_⟩, ?_, ?_⟩
      · intro byte hbyte
        rcases bytes byte hbyte with rfl | rfl
        · exact h.lastbyte_cases
        · exact Or.inr (Or.inl rfl)
      · rw [leds]
        exact h.leds
      · intro hpending
        rw [cmd]
        exact h.cmd (pending_before bytes hlast hpending)

/-- The driver waits for an acknowledgement exactly after `0xED`. -/
theorem Tracked.awaited_iff : Awaited shown ↔ k.lastbyte = 0xED#8 := by
  rw [h.last]
  constructor
  · rintro ⟨before, after, rfl, hafter⟩
    rw [List.getLast?_append, List.getLast?_cons]
    cases hlast : after.getLast? with
    | none => rfl
    | some byte =>
        have hmem : byte ∈ after := List.mem_of_getLast? hlast
        have hbyte := h.bytes byte (List.mem_append_right _ (List.mem_cons_of_mem _ hmem))
        obtain ⟨hled, hreset⟩ := hafter byte hmem
        exact hbyte.resolve_right fun hother => hother.elim hreset hled
  · intro hlast
    cases hshown : shown.getLast? with
    | none =>
        rw [hshown] at hlast
        exact absurd hlast (by decide)
    | some byte =>
        rw [hshown] at hlast
        have hed : byte = 0xED#8 := hlast
        obtain ⟨before, rfl⟩ := List.getLast?_eq_some_iff.mp hshown
        exact ⟨before, [], by rw [hed], by simp⟩

/-- An event changes the LEDs exactly when it is an awaited acknowledgement. -/
theorem leds_change_iff (scancode : U16) :
    (keyboardMachine.step k scancode).1.leds ≠ k.leds ↔
      scancode = acknowledge ∧ Awaited shown := by
  rw [h.awaited_iff]
  have hanswered := (step_answered k scancode).1
  generalize (keyboardMachine.step k scancode).1 = next at hanswered ⊢
  generalize sent k scancode = new at hanswered
  cases hanswered with
  | requested key code cmd leds =>
      have hcode : scancode ≠ acknowledge := by
        rw [code]
        cases key <;> decide
      exact ⟨fun hne => absurd leds hne, fun hack => absurd hack.1 hcode⟩
  | acknowledged code pending leds =>
      obtain ⟨key, hcmd⟩ := h.cmd pending
      rw [leds, hcmd]
      exact ⟨fun _ => ⟨code, pending⟩, fun _ => LockLeds.xor_bit_ne k.leds key⟩
  | other code cmd leds bytes =>
      exact ⟨fun hne => absurd leds hne, fun hack => absurd hack code⟩

end Tracked

/-- A remembered request is one toggle still to come. -/
def owed (k : Keyboard) : Nat := if k.lastbyte = 0xED#8 then 1 else 0

theorem owed_le_one (k : Keyboard) : owed k ≤ 1 := by
  unfold owed
  split <;> omega

/-- Each toggle was owed, and only a lock key makes the driver owe one more. -/
theorem change_paid {shown : List U8} {k : Keyboard} (h : Tracked shown k) (scancode : U16) :
    (if (keyboardMachine.step k scancode).1.leds = k.leds then 0 else 1) +
        owed (keyboardMachine.step k scancode).1 ≤
      owed k + if decide (LockRequest scancode) then 1 else 0 := by
  obtain ⟨hanswered, hlast⟩ := step_answered k scancode
  have hnext := tracked_step h scancode
  generalize (keyboardMachine.step k scancode).1 = next at hanswered hlast hnext ⊢
  generalize sent k scancode = new at hanswered hlast hnext
  cases hanswered with
  | requested key code cmd leds =>
      have hlock : LockRequest scancode := ⟨key, code⟩
      have howed := owed_le_one next
      simp only [leds, if_true, hlock, decide_true]
      omega
  | acknowledged code pending leds =>
      have hnone : owed next = 0 := by
        have hlt := hnext.leds
        have hbyte : next.lastbyte = next.leds := hlast
        apply if_neg
        intro hpending
        rw [← hbyte, hpending] at hlt
        exact absurd hlt (by decide)
      have howed : owed k = 1 := if_pos pending
      rw [hnone, howed]
      split <;> omega
  | other code cmd leds bytes =>
      have hkept : owed next ≤ owed k := by
        unfold owed
        split_ifs with hpending hbefore
        · exact le_rfl
        · exact absurd (pending_before bytes hlast hpending) hbefore
        · exact Nat.zero_le _
        · exact le_rfl
      simp only [leds, if_true]
      omega

theorem tracked_run (scancodes : List U16) :
    Tracked (sends kbInit scancodes) (keyboardMachine.state kbInit scancodes) := by
  have hstep : ∀ calls k scancode, Tracked (List.filterMap sent? calls) k →
      Tracked ((calls ++ (keyboardMachine.step k scancode).2).filterMap sent?)
        (keyboardMachine.step k scancode).1 := by
    intro calls k scancode h
    rw [List.filterMap_append]
    exact tracked_step h scancode
  have hstart : Tracked (List.filterMap sent? []) kbInit := tracked_init
  exact Machine.trace_of_step (T := fun calls k => Tracked (calls.filterMap sent?) k) hstep
    hstart scancodes

theorem ledChanges_le (scancodes : List U16) :
    ledChanges kbInit scancodes ≤ scancodes.countP (LockRequest ·) := by
  have hkeep : ∀ k scancode, (∃ shown, Tracked shown k) →
      ∃ shown, Tracked shown (keyboardMachine.step k scancode).1 := by
    rintro k scancode ⟨shown, h⟩
    exact ⟨_, tracked_step h scancode⟩
  have hpay : ∀ k scancode, (∃ shown, Tracked shown k) →
      (if (keyboardMachine.step k scancode).1.leds = k.leds then 0 else 1) +
          owed (keyboardMachine.step k scancode).1 ≤
        owed k + if decide (LockRequest scancode) then 1 else 0 := by
    rintro k scancode ⟨shown, h⟩
    exact change_paid h scancode
  have hnone : owed kbInit = 0 := rfl
  calc ledChanges kbInit scancodes
    _ ≤ owed kbInit + scancodes.countP (LockRequest ·) :=
      Budgets.cost_le_add_countP hkeep hpay ⟨[], tracked_init⟩ scancodes
    _ = scancodes.countP (LockRequest ·) := by rw [hnone, Nat.zero_add]

/-- Over every run from `KB_Init` the driver sends only `0xED`, resets and LED
bytes, the LEDs change exactly on the acknowledgements of an `0xED`, and no more
often than lock keys and heartbeats occur. -/
theorem kbInit_commanded (scancodes : List U16) : Commanded kbInit scancodes where
  bytes := (tracked_run scancodes).bytes
  leds := (tracked_run scancodes).leds
  changes := by
    intro before scancode after _
    rw [Machine.state_append]
    exact leds_change_iff (tracked_run before) scancode
  few := ledChanges_le scancodes

end DiyPs3Controller.LedCommands
