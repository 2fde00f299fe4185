import DiyPs3Controller.Ps2.KeyboardDriver

/-!
# Resend requests of the keyboard

The keyboard answers a byte that it has not understood with 0xFE, and the driver
repeats the byte or resets the keyboard. It counts in eight bits, once or twice
for each answer, and goes on counting when it has given up.
-/

namespace DiyPs3Controller.ResendBound

open KeyboardDriver

/-- `KB_KeyboardEventFilter` over a stream of scancodes. -/
def keyboardMachine : Machine Keyboard U16 KbCall where
  step := kbKeyboardEventFilter

/-- The scancode of a resend request. -/
def resend : U16 := kbKeyPress 0xFE#8

/-- The byte of a `KB_Send` call. -/
def sent? : KbCall → Option U8
  | .kbSend data => some data
  | _ => none

/-- The bytes that a stream of scancodes makes the driver send. -/
def sends (k : Keyboard) (scancodes : List U16) : List U8 :=
  (keyboardMachine.outputs k scancodes).filterMap sent?

/-- No lock key, no heartbeat, which has the code of a lock key, and no
acknowledged LED command. -/
def Unrelated (k : Keyboard) (scancode : U16) : Prop :=
  scancode ≠ kbKeyPress scrollLockKey ∧ scancode ≠ kbKeyPress numLockKey ∧
    scancode ≠ kbKeyPress capsLockKey ∧ ¬(scancode = kbKeyPress 0xFA#8 ∧ k.lastbyte = 0xED#8)

instance (k : Keyboard) (scancode : U16) : Decidable (Unrelated k scancode) :=
  inferInstanceAs (Decidable (_ ∧ _ ∧ _ ∧ ¬_))

/-- At most eight bytes are sent, the last byte first and then resets, and a
request that is not answered is followed by silence. -/
structure Bounded (k : Keyboard) (scancodes : List U16) : Prop where
  few : ∃ resends resets, resends + resets ≤ 8 ∧
    sends k scancodes =
      List.replicate resends k.lastbyte ++ List.replicate resets 0xFF#8
  silent : ∀ before after, scancodes = before ++ resend :: after →
    sends (keyboardMachine.state k before) [resend] = [] →
    sends (keyboardMachine.state k (before ++ [resend])) after = []

/-- The counter after so many requests. It is back at zero after 130. -/
def retryAfter (n : Nat) : Nat := if n % 130 < 4 then n % 130 else 2 * (n % 130) - 4

/-- The answer to a request, with so many requests before it. -/
def answer (lastbyte : U8) (n : Nat) : Option U8 :=
  if n % 130 < 6 then some (if n < 4 then lastbyte else 0xFF#8) else none

/-- The driver after so many requests. -/
structure Counted (lastbyte : U8) (n : Nat) (k : Keyboard) : Prop where
  retry : k.retry = BitVec.ofNat 8 (retryAfter n)
  lastbyte : k.lastbyte = if n ≤ 4 then lastbyte else 0xFF#8

section Request
variable {lastbyte : U8} {n : Nat} {k : Keyboard}

theorem ofNat_lt_iff {m r : Nat} (hr : r < 256) (hm : m < 256) :
    BitVec.ofNat 8 r < BitVec.ofNat 8 m ↔ r < m := by
  rw [BitVec.lt_def, BitVec.toNat_ofNat, BitVec.toNat_ofNat, Nat.mod_eq_of_lt hr,
    Nat.mod_eq_of_lt hm]

section Answers
variable {r : Nat} (hretry : k.retry = BitVec.ofNat 8 r)
include hretry

theorem first_increment : k.retry + 1#8 = BitVec.ofNat 8 (r + 1) := by
  rw [hretry, BitVec.ofNat_add]

theorem not_early (hlow : 4 ≤ r) (hr : r < 256) : ¬k.retry < 4#8 := by
  have hiff : k.retry < 4#8 ↔ r < 4 := by
    rw [hretry]
    exact ofNat_lt_iff hr (by decide)
  rw [hiff]
  exact Nat.not_lt_of_le hlow

/-- The last byte is sent again. -/
theorem resendRequested_early (hr : r < 4) :
    resendRequested k =
      kbSend { k with retry := BitVec.ofNat 8 (r + 1) } k.lastbyte := by
  have hearly : k.retry < 4#8 := by
    rw [hretry]
    exact (ofNat_lt_iff (by omega) (by decide)).mpr hr
  rw [resendRequested, if_pos hearly, first_increment hretry]

/-- Both conditions increment the counter, and the keyboard is reset. -/
theorem resendRequested_reset (hlow : 4 ≤ r) (hr : r < 7) :
    resendRequested k =
      kbSend { k with retry := BitVec.ofNat 8 (r + 2), lastbyte := 0xFF#8 } 0xFF#8 := by
  have hlate : ¬k.retry < 4#8 := not_early hretry (by omega) (by omega)
  have hreset : BitVec.ofNat 8 (r + 1) < 8#8 :=
    (ofNat_lt_iff (by omega) (by decide)).mpr (by omega)
  simp only [resendRequested, if_neg hlate, first_increment hretry, if_pos hreset]
  rw [← BitVec.ofNat_add]

/-- Both conditions increment the counter, and nothing is sent. -/
theorem resendRequested_silent (hlow : 7 ≤ r) (hr : r < 255) :
    resendRequested k = ({ k with retry := BitVec.ofNat 8 (r + 2) }, []) := by
  have hlate : ¬k.retry < 4#8 := not_early hretry (by omega) (by omega)
  have hgivenUp : ¬BitVec.ofNat 8 (r + 1) < 8#8 := by
    intro hlt
    have hnat : r + 1 < 8 := (ofNat_lt_iff (by omega) (by decide)).mp hlt
    omega
  simp only [resendRequested, if_neg hlate, first_increment hretry, if_neg hgivenUp]
  rw [← BitVec.ofNat_add]

end Answers

theorem retryAfter_early (hearly : n % 130 < 4) :
    retryAfter n = n % 130 ∧ retryAfter (n + 1) = n % 130 + 1 := by
  unfold retryAfter
  constructor
  · exact if_pos hearly
  · split <;> omega

/-- From the fifth request on the counter goes up by two, and over 255 to zero. -/
theorem retryAfter_late (hlate : 4 ≤ n % 130) :
    retryAfter n = 2 * (n % 130) - 4 ∧
      BitVec.ofNat 8 (retryAfter n + 2) = BitVec.ofNat 8 (retryAfter (n + 1)) := by
  have hnow : retryAfter n = 2 * (n % 130) - 4 := if_neg (Nat.not_lt_of_le hlate)
  refine ⟨hnow, ?_⟩
  apply BitVec.eq_of_toNat_eq
  rw [BitVec.toNat_ofNat, BitVec.toNat_ofNat, hnow]
  unfold retryAfter
  split <;> omega

/-- One more request. -/
theorem resendRequested_counted (h : Counted lastbyte n k) :
    Counted lastbyte (n + 1) (resendRequested k).1 ∧
      (resendRequested k).2.filterMap sent? = (answer lastbyte n).toList := by
  obtain ⟨hretry, hlast⟩ := h
  by_cases hearly : n % 130 < 4
  · obtain ⟨hnow, hnext⟩ := retryAfter_early hearly
    have hbyte : k.lastbyte = if n < 4 then lastbyte else 0xFF#8 := by
      rw [hlast]
      split <;> split <;> first | rfl | omega
    rw [resendRequested_early hretry (by omega), answer, if_pos (by omega)]
    refine ⟨⟨?_, ?_⟩, ?_⟩
    · rw [hnext, ← hnow]
      rfl
    · show k.lastbyte = _
      rw [hbyte]
      split <;> split <;> first | rfl | omega
    · rw [← hbyte]
      rfl
  · obtain ⟨hnow, hnext⟩ := retryAfter_late (Nat.le_of_not_lt hearly)
    have hreset : (if n + 1 ≤ 4 then lastbyte else 0xFF#8) = 0xFF#8 := if_neg (by omega)
    by_cases hfew : n % 130 < 6
    · rw [resendRequested_reset hretry (by omega) (by omega), answer, if_pos hfew,
        if_neg (by omega), hnext]
      exact ⟨⟨rfl, hreset.symm⟩, rfl⟩
    · have hbyte : k.lastbyte = 0xFF#8 := hlast.trans (if_neg (by omega))
      rw [resendRequested_silent hretry (by omega) (by omega), answer, if_neg hfew, hnext]
      exact ⟨⟨rfl, hbyte.trans hreset.symm⟩, rfl⟩

end Request

section Filter
variable {lastbyte : U8} {n : Nat} {k : Keyboard}

/-- The key switch sends nothing to the keyboard. -/
theorem keySwitch_sends (scancode : U16) :
    ((keySwitch scancode).map KbCall.joy).filterMap sent? = [] := by
  rw [List.filterMap_map]
  exact List.filterMap_eq_nil_iff.mpr fun call _ => rfl

theorem resend_step (h : Counted lastbyte n k) :
    Counted lastbyte (n + 1) (keyboardMachine.step k resend).1 ∧
      (keyboardMachine.step k resend).2.filterMap sent? = (answer lastbyte n).toList := by
  have hcommand : commandFilter k resend = resendRequested k := rfl
  obtain ⟨hnext, hsent⟩ := resendRequested_counted h
  simp only [keyboardMachine, kbKeyboardEventFilter, hcommand, List.filterMap_append, hsent,
    keySwitch_sends, List.append_nil]
  exact ⟨hnext, trivial⟩

/-- Other scancodes neither count nor send. -/
theorem other_step (h : Counted lastbyte n k) {scancode : U16} (hother : scancode ≠ resend)
    (unrelated : Unrelated k scancode) :
    Counted lastbyte n (keyboardMachine.step k scancode).1 ∧
      (keyboardMachine.step k scancode).2.filterMap sent? = [] := by
  obtain ⟨hscroll, hnum, hcaps, hled⟩ := unrelated
  have hnotResend : ¬scancode = kbKeyPress 0xFE#8 := hother
  have hcommand : commandFilter k scancode =
      if scancode = kbKeyPress mKey then (kbNormalStateLed k, [.msMouseReset]) else (k, []) := by
    rw [commandFilter, if_neg hscroll, if_neg hnum, if_neg hcaps, if_neg hled,
      if_neg hnotResend]
  simp only [keyboardMachine, kbKeyboardEventFilter, hcommand, List.filterMap_append,
    keySwitch_sends, List.append_nil]
  split
  · exact ⟨⟨h.retry, h.lastbyte⟩, rfl⟩
  · exact ⟨h, rfl⟩

/-- The requests with the numbers from `n` on, as many as there are among the
scancodes, are counted and answered. -/
theorem counted_run (h : Counted lastbyte n k) {scancodes : List U16}
    (unrelated : keyboardMachine.Along Unrelated k scancodes) :
    Counted lastbyte (n + scancodes.count resend) (keyboardMachine.state k scancodes) ∧
      sends k scancodes = (List.range' n (scancodes.count resend)).filterMap (answer lastbyte) := by
  induction scancodes generalizing n k with
  | nil => exact ⟨h, rfl⟩
  | cons scancode rest ih =>
      have hsends : sends k (scancode :: rest) =
          (keyboardMachine.step k scancode).2.filterMap sent? ++
            sends (keyboardMachine.step k scancode).1 rest := List.filterMap_append
      by_cases hresend : scancode = resend
      · subst hresend
        obtain ⟨hnext, hanswer⟩ := resend_step h
        obtain ⟨hstate, hrest⟩ := ih hnext unrelated.2
        rw [hsends, hanswer, hrest, List.count_cons_self, List.range'_succ, List.filterMap_cons]
        rw [Nat.add_right_comm, Nat.add_assoc] at hstate
        refine ⟨hstate, ?_⟩
        cases answer lastbyte n <;> rfl
      · obtain ⟨hnext, hsilent⟩ := other_step h hresend unrelated.1
        obtain ⟨hstate, hrest⟩ := ih hnext unrelated.2
        rw [hsends, hsilent, hrest, List.count_cons_of_ne hresend]
        exact ⟨hstate, rfl⟩

end Filter

section Answers
variable {lastbyte : U8} {m n : Nat}

theorem answers_none (h : ∀ j, m ≤ j → j < m + n → answer lastbyte j = none) :
    (List.range' m n).filterMap (answer lastbyte) = [] := by
  apply List.filterMap_eq_nil_iff.mpr
  intro j hj
  obtain ⟨hlow, hhigh⟩ := List.mem_range'_1.mp hj
  exact h j hlow hhigh

theorem answers_some {byte : U8} (h : ∀ j, m ≤ j → j < m + n → answer lastbyte j = some byte) :
    (List.range' m n).filterMap (answer lastbyte) = List.replicate n byte := by
  have hconst : ∀ j ∈ List.range' m n, answer lastbyte j = some byte := by
    intro j hj
    obtain ⟨hlow, hhigh⟩ := List.mem_range'_1.mp hj
    exact h j hlow hhigh
  rw [List.filterMap_congr hconst]
  simp [List.map_const']

/-- The answers to the first 130 requests. -/
theorem answers_few (hn : n ≤ 130) :
    (List.range' 0 n).filterMap (answer lastbyte) =
      List.replicate (min n 4) lastbyte ++ List.replicate (min (n - 4) 2) 0xFF#8 := by
  have hsplit : n = min n 4 + (min (n - 4) 2 + (n - 6)) := by omega
  have hresends : (List.range' 0 (min n 4)).filterMap (answer lastbyte) =
      List.replicate (min n 4) lastbyte := by
    apply answers_some
    intro j _ hj
    rw [answer, if_pos (by omega), if_pos (by omega)]
  have hresets : (List.range' (min n 4) (min (n - 4) 2)).filterMap (answer lastbyte) =
      List.replicate (min (n - 4) 2) 0xFF#8 := by
    apply answers_some
    intro j hlow hhigh
    rw [answer, if_pos (by omega), if_neg (by omega)]
  have hsilent : (List.range' (min n 4 + min (n - 4) 2) (n - 6)).filterMap (answer lastbyte) =
      [] := by
    apply answers_none
    intro j hlow hhigh
    rw [answer, if_neg (by omega)]
  calc (List.range' 0 n).filterMap (answer lastbyte)
    _ = (List.range' 0 (min n 4 + (min (n - 4) 2 + (n - 6)))).filterMap (answer lastbyte) := by
      rw [← hsplit]
    _ = List.replicate (min n 4) lastbyte ++ List.replicate (min (n - 4) 2) 0xFF#8 := by
      rw [← List.range'_append_1, ← List.range'_append_1, List.filterMap_append,
        List.filterMap_append, Nat.zero_add, hresends, hresets, hsilent, List.append_nil]

end Answers

/-- A list with more than `m` of an item has one with `m` of them before it. -/
theorem exists_split_count {α : Type*} [DecidableEq α] {a : α} {l : List α} {m : Nat}
    (h : m < l.count a) : ∃ before after, l = before ++ a :: after ∧ before.count a = m := by
  induction l generalizing m with
  | nil => simp at h
  | cons b rest ih =>
      by_cases hb : b = a
      · subst hb
        cases m with
        | zero => exact ⟨[], rest, rfl, rfl⟩
        | succ m =>
            rw [List.count_cons_self] at h
            obtain ⟨before, after, hrest, hcount⟩ := ih (Nat.lt_of_succ_lt_succ h)
            refine ⟨b :: before, after, ?_, ?_⟩
            · rw [hrest, List.cons_append]
            · rw [List.count_cons_self, hcount]
      · rw [List.count_cons_of_ne hb] at h
        obtain ⟨before, after, hrest, hcount⟩ := ih h
        refine ⟨b :: before, after, ?_, ?_⟩
        · rw [hrest, List.cons_append]
        · rw [List.count_cons_of_ne hb, hcount]

section Runs
variable {k : Keyboard} (fresh : k.retry = 0#8) {scancodes : List U16}
  (unrelated : keyboardMachine.Along Unrelated k scancodes)
include fresh

theorem counted_fresh : Counted k.lastbyte 0 k := ⟨fresh, rfl⟩

include unrelated

/-- What follows a request, by the number of requests before it. -/
theorem split_run {before after : List U16} (hsplit : scancodes = before ++ resend :: after) :
    let number := before.count resend
    sends (keyboardMachine.state k before) [resend] = (answer k.lastbyte number).toList ∧
      sends (keyboardMachine.state k (before ++ [resend])) after =
        (List.range' (number + 1) (after.count resend)).filterMap (answer k.lastbyte) := by
  intro number
  rw [hsplit, Machine.along_append] at unrelated
  obtain ⟨hbefore, -, hafter⟩ := unrelated
  have hcounted := (counted_run (counted_fresh fresh) hbefore).1
  rw [Nat.zero_add] at hcounted
  obtain ⟨hnext, hanswer⟩ := resend_step hcounted
  constructor
  · rw [sends, Machine.outputs_cons, Machine.outputs_nil, List.append_nil, hanswer]
  · rw [Machine.state_append]
    exact (counted_run hnext hafter).2

theorem bounded_of_le (hfew : scancodes.count resend ≤ 130) : Bounded k scancodes where
  few := by
    refine ⟨min (scancodes.count resend) 4, min (scancodes.count resend - 4) 2, by omega, ?_⟩
    rw [(counted_run (counted_fresh fresh) unrelated).2, answers_few hfew]
  silent := by
    intro before after hsplit hunanswered
    obtain ⟨hanswer, hafter⟩ := split_run fresh unrelated hsplit
    have hcount : scancodes.count resend = before.count resend + (after.count resend + 1) := by
      rw [hsplit, List.count_append, List.count_cons_self]
    rw [hanswer] at hunanswered
    have hlate : ¬before.count resend % 130 < 6 := by
      intro hearly
      rw [answer, if_pos hearly] at hunanswered
      cases hunanswered
    rw [hafter]
    apply answers_none
    intro j hlow hhigh
    rw [answer, if_neg (by omega)]

theorem not_bounded_of_lt (hmany : 130 < scancodes.count resend) : ¬Bounded k scancodes := by
  intro hbounded
  obtain ⟨before, after, hsplit, hbefore⟩ :=
    exists_split_count (Nat.lt_trans (by decide : 6 < 130) hmany)
  obtain ⟨hanswer, hafter⟩ := split_run fresh unrelated hsplit
  have hcount : scancodes.count resend = before.count resend + (after.count resend + 1) := by
    rw [hsplit, List.count_append, List.count_cons_self]
  have hsilent := hbounded.silent before after hsplit (by rw [hanswer, hbefore]; rfl)
  rw [hafter, List.filterMap_eq_nil_iff] at hsilent
  have hagain := hsilent 130 (List.mem_range'_1.mpr (by omega))
  cases hagain

end Runs

/-- A run of scancodes among which no event restarts the count keeps within the
bound, and is silent once a request is not answered, exactly when there are at
most 130 requests in it. -/
theorem bounded_iff {k : Keyboard} (fresh : k.retry = 0#8) {scancodes : List U16}
    (unrelated : keyboardMachine.Along Unrelated k scancodes) :
    Bounded k scancodes ↔ scancodes.count resend ≤ 130 := by
  constructor
  · intro hbounded
    apply Nat.le_of_not_lt
    intro hmany
    exact not_bounded_of_lt fresh unrelated hmany hbounded
  · exact bounded_of_le fresh unrelated

theorem unrelated_resend (k : Keyboard) : Unrelated k resend :=
  ⟨by decide, by decide, by decide, fun hled => absurd hled.1 (by decide)⟩

/-- Nothing but requests restarts no count. -/
theorem unrelated_replicate (k : Keyboard) (n : Nat) :
    keyboardMachine.Along Unrelated k (List.replicate n resend) := by
  apply (Machine.along_iff_forall_split k _).mpr
  intro before scancode after hsplit
  have hmem : scancode ∈ List.replicate n resend := by
    rw [hsplit]
    exact List.mem_append_right before List.mem_cons_self
  rw [List.eq_of_mem_replicate hmem]
  exact unrelated_resend _

theorem kbInit_fresh : kbInit.retry = 0#8 := rfl

/-- The driver gives up, and the counter has gone once round. -/
theorem bounded_iff_givesUp : Bounded kbInit (List.replicate 130 resend) := by
  apply (bounded_iff kbInit_fresh (unrelated_replicate kbInit 130)).mpr
  exact (List.count_replicate_self).le

/-- After 130 requests the counter is back at zero, and the driver sends again
for the next one. -/
theorem counterWraps_sends :
    kbInit.retry = 0#8 ∧ keyboardMachine.Along Unrelated kbInit (List.replicate 131 resend) ∧
      ¬Bounded kbInit (List.replicate 131 resend) := by
  refine ⟨kbInit_fresh, unrelated_replicate kbInit 131, ?_⟩
  apply not_bounded_of_lt kbInit_fresh (unrelated_replicate kbInit 131)
  rw [List.count_replicate_self]
  exact Nat.lt_succ_self 130

end DiyPs3Controller.ResendBound
