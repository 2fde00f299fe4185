import DiyPs3Controller.Ps2.MouseSchedules

/-!
# Runs of the event filter

What the filter shows for particular inputs: wrong bytes at the start of the
table, the whole startup sequence, packet bytes behind it, and bytes that it
reads without sending anything.
-/

namespace DiyPs3Controller.FilterRuns

open MouseDriver StartupSequence MouseSchedules

/-- The filter stands at a given state of the startup table. -/
structure AtState (m : Mouse) (state : U8) : Prop where
  table : m.filter.table = msStateTable
  size : m.filter.size = 52#8
  state_eq : m.filter.state = state

/-- A byte that the first row does not wait for. -/
def wrongByte : U8 := 0x55#8

/-- A packet byte that can also begin a packet. -/
def packetByte : U8 := 0x08#8

/-- What the filter shows for bytes given to it one after the other. -/
def shown (m : Mouse) (bytes : List U8) : List MsCall :=
  observe (filterMachine.outputs m (scancodes bytes))

/-- Where the filter stands after them. -/
def after (m : Mouse) (bytes : List U8) : Mouse := filterMachine.state m (scancodes bytes)

theorem shown_cons (m : Mouse) (b : U8) (rest : List U8) :
    shown m (b :: rest) = observe (eventFilter m b).2 ++ shown (eventFilter m b).1 rest :=
  observe_append _ _

theorem shown_nil (m : Mouse) : shown m [] = [] := rfl

theorem shown_append (m : Mouse) (xs ys : List U8) :
    shown m (xs ++ ys) = shown m xs ++ shown (after m xs) ys := by
  simp [shown, after, scancodes, Machine.outputs_append]

theorem after_append (m : Mouse) (xs ys : List U8) :
    after m (xs ++ ys) = after (after m xs) ys := by
  simp [after, scancodes, Machine.state_append]

/-- A property that counts the repetitions of a byte, up to a bound. -/
theorem repeated_run {C : Nat → Mouse → Prop} {b : U8} {bound : Nat} {calls : List MsCall}
    (step : ∀ c m, c < bound → C c m →
      C (c + 1) (eventFilter m b).1 ∧ observe (eventFilter m b).2 = calls)
    (n : Nat) {c : Nat} {m : Mouse} (h : C c m) (hn : c + n ≤ bound) :
    C (c + n) (after m (List.replicate n b)) ∧
      shown m (List.replicate n b) = (List.replicate n calls).flatten := by
  rw [after, shown, scancodes, List.map_replicate]
  exact Machine.replicate_run (M := filterMachine) (i := .scancode b) step n h hn

section Wrong
variable {m : Mouse} (h : AtState m 0#8)
include h

theorem first_inside : m.filter.state < m.filter.size := by
  rw [h.state_eq, h.size]
  decide

theorem wrong_not_matched : ¬ Matches m wrongByte := by
  rintro ⟨-, haccept⟩
  rw [h.table, h.state_eq] at haccept
  exact absurd haccept (by decide)

/-- A wrong byte is answered with a reset while the retries last. -/
theorem wrong_step (hr : m.filter.retry < 5#8) :
    observe (eventFilter m wrongByte).2 = [.sendByte 0xFF#8] ∧
      AtState (eventFilter m wrongByte).1 0#8 ∧
      (eventFilter m wrongByte).1.filter.retry = m.filter.retry + 1#8 := by
  rw [eventFilter_retry (first_inside h) (wrong_not_matched h) hr]
  exact ⟨rfl, ⟨h.table, h.size, rfl⟩, rfl⟩

/-- The byte after the last retry is not answered. -/
theorem wrong_last (hr : ¬ m.filter.retry < 5#8) :
    observe (eventFilter m wrongByte).2 = [] := by
  rw [eventFilter_giveUp (first_inside h) (wrong_not_matched h) hr]
  rfl

end Wrong

/-- Wrong bytes are answered with resets and counted while the retries last. -/
theorem wrong_run (n : Nat) {m : Mouse} (h : AtState m 0#8)
    (hr : m.filter.retry.toNat + n ≤ 5) :
    shown m (List.replicate n wrongByte) =
        List.replicate n (.sendByte 0xFF#8) ∧
      AtState (after m (List.replicate n wrongByte)) 0#8 ∧
      (after m (List.replicate n wrongByte)).filter.retry.toNat =
        m.filter.retry.toNat + n := by
  have hstep : ∀ c m, c < 5 → (AtState m 0#8 ∧ m.filter.retry.toNat = c) →
      (AtState (eventFilter m wrongByte).1 0#8 ∧
        (eventFilter m wrongByte).1.filter.retry.toNat = c + 1) ∧
      observe (eventFilter m wrongByte).2 = [.sendByte 0xFF#8] := by
    rintro c m hc ⟨hstate, rfl⟩
    obtain ⟨hshown, hnext, hretry⟩ := wrong_step hstate (by bv_omega)
    refine ⟨⟨hnext, ?_⟩, hshown⟩
    rw [hretry]
    bv_omega
  obtain ⟨⟨hstate, hretry⟩, hshown⟩ := repeated_run hstep n ⟨h, rfl⟩ hr
  rw [List.flatten_replicate_singleton] at hshown
  exact ⟨hshown, hstate, hretry⟩

/-- No packet is dispatched among the calls. -/
def NoPacket (calls : List MsCall) : Prop := ∀ packet, .eventDispatcher packet ∉ calls

section Row
variable {k : Nat} (hk : k < rows) {m : Mouse} (h : AtState m (BitVec.ofNat 8 (2 * k))) {b : U8}
include hk h

theorem row_inside : m.filter.state < m.filter.size := by
  rw [h.state_eq, h.size]
  exact row_lt hk

/-- A row matches exactly the bytes it accepts. -/
theorem row_matches : Matches m b ↔ accepts (msStateTable.getD (2 * k) 0#8) b = true := by
  rw [Matches, h.table, h.state_eq, row_toNat hk, h.size]
  exact and_iff_right (row_lt hk)

/-- A byte that a row accepts moves the filter on, shows the row's answer and
leaves the packet alone. -/
theorem row_step (hb : accepts (msStateTable.getD (2 * k) 0#8) b = true) :
    AtState (eventFilter m b).1 (BitVec.ofNat 8 (2 * (k + 1))) ∧
      (eventFilter m b).1.packet = m.packet ∧
      observe (eventFilter m b).2 =
        (reply m.config (msStateTable.getD (2 * k + 1) 0#8)).toList.map .sendByte := by
  rw [eventFilter_match ((row_matches hk h).mpr hb)]
  refine ⟨⟨h.table, h.size, ?_⟩, answer_packet m _, ?_⟩
  · rw [← row_succ, ← h.state_eq]
  · rw [h.table, h.state_eq, row_toNat hk]
    rw [answer_calls, observe_sendByte]

/-- A byte that a row does not accept is answered, or the filter gives up. -/
theorem row_rejected (hb : accepts (msStateTable.getD (2 * k) 0#8) b ≠ true) :
    observe (eventFilter m b).2 = [.sendByte 0xFF#8] ∨
      AtState (eventFilter m b).1 0xFF#8 := by
  have hm : ¬ Matches m b := mt (row_matches hk h).mp hb
  by_cases hr : m.filter.retry < 5#8
  · have hstep : eventFilter m b = _ :=
      eventFilter_retry (row_inside hk h) hm hr
    rw [hstep]
    exact Or.inl rfl
  · have hstep : eventFilter m b = _ :=
      eventFilter_giveUp (row_inside hk h) hm hr
    rw [hstep]
    exact Or.inr ⟨h.table, h.size, rfl⟩

end Row

theorem noPacket_sendByte (bytes : List U8) : NoPacket (bytes.map .sendByte) := by
  intro packet hmem
  simp at hmem

/-- The startup sequence brings the filter past its table without a packet. -/
theorem startup_run (n : Nat) (hn : n ≤ rows) {m : Mouse} (h : AtState m 0#8) :
    AtState (after m (targets.take n)) (BitVec.ofNat 8 (2 * n)) ∧
      (after m (targets.take n)).packet = m.packet ∧
      NoPacket (shown m (targets.take n)) := by
  induction n with
  | zero => exact ⟨h, rfl, fun packet => List.not_mem_nil⟩
  | succ n ih =>
      obtain ⟨hstate, hpacket, hquiet⟩ := ih (Nat.le_of_succ_le hn)
      obtain ⟨hnext, hsame, hshown⟩ := row_step hn hstate
        (b := msStateTable.getD (2 * n) 0#8) (by simp [accepts])
      rw [List.take_add_one, targets_getElem? hn, Option.toList_some, after_append, shown_append]
      refine ⟨hnext, hsame.trans hpacket, fun packet hmem => ?_⟩
      rw [List.mem_append] at hmem
      rcases hmem with hbefore | hlast
      · exact hquiet packet hbefore
      · rw [shown_cons, shown_nil, List.append_nil, hshown] at hlast
        exact noPacket_sendByte _ packet hlast

theorem packetByte_not_skipped (m : Mouse) : ¬ Skipped m packetByte :=
  fun hskip => absurd hskip.2 (by decide)

section Gather
variable {m : Mouse} (h : AtState m 52#8)
include h

theorem streaming_past : Past m := by
  rw [Past, h.state_eq, h.size]
  decide

/-- A byte that does not complete the packet is gathered silently. -/
theorem gather_step (hsize : m.packet.size + 1#8 ≠ 4#8) :
    observe (eventFilter m packetByte).2 = [] ∧
      AtState (eventFilter m packetByte).1 52#8 ∧
      (eventFilter m packetByte).1.packet.size = m.packet.size + 1#8 := by
  rw [eventFilter_store (streaming_past h) (packetByte_not_skipped m) hsize]
  exact ⟨rfl, ⟨h.table, h.size, h.state_eq⟩, rfl⟩

/-- The byte that completes the packet shows it. -/
theorem gather_last (hsize : m.packet.size + 1#8 = 4#8) :
    ¬ NoPacket (observe (eventFilter m packetByte).2) := by
  rw [eventFilter_dispatch (streaming_past h) (packetByte_not_skipped m) hsize]
  intro hnone
  exact hnone (grown m packetByte) List.mem_cons_self

end Gather

/-- Packet bytes are gathered silently and counted until the packet is complete. -/
theorem gather_run (n : Nat) {m : Mouse} (h : AtState m 52#8) (hn : m.packet.size.toNat + n < 4) :
    shown m (List.replicate n packetByte) = [] ∧
      AtState (after m (List.replicate n packetByte)) 52#8 ∧
      (after m (List.replicate n packetByte)).packet.size.toNat =
        m.packet.size.toNat + n := by
  have hstep : ∀ c m, c < 3 → (AtState m 52#8 ∧ m.packet.size.toNat = c) →
      (AtState (eventFilter m packetByte).1 52#8 ∧
        (eventFilter m packetByte).1.packet.size.toNat = c + 1) ∧
      observe (eventFilter m packetByte).2 = [] := by
    rintro c m hc ⟨hstate, rfl⟩
    obtain ⟨hshown, hnext, hsize⟩ := gather_step hstate (by bv_omega)
    refine ⟨⟨hnext, ?_⟩, hshown⟩
    rw [hsize]
    bv_omega
  obtain ⟨⟨hstate, hsize⟩, hshown⟩ := repeated_run hstep n ⟨h, rfl⟩ (Nat.le_of_lt_succ hn)
  rw [List.flatten_replicate_nil] at hshown
  exact ⟨hshown, hstate, hsize⟩

/-- A filter that has given up stays so and sends nothing. -/
theorem givenUp_run (bytes : List U8) {m : Mouse} (h : AtState m 0xFF#8) :
    AtState (after m bytes) 0xFF#8 ∧ ∀ data, .sendByte data ∉ shown m bytes := by
  induction bytes generalizing m with
  | nil => exact ⟨h, fun data => List.not_mem_nil⟩
  | cons b rest ih =>
      have hp : Past m := by
        rw [Past, h.state_eq, h.size]
        decide
      obtain ⟨hstate, hsize, htable, -, hsent⟩ := eventFilter_past hp b
      obtain ⟨hfinal, hquiet⟩ := ih (m := (eventFilter m b).1)
        ⟨htable.trans h.table, hsize.trans h.size, hstate.trans h.state_eq⟩
      refine ⟨hfinal, fun data hmem => ?_⟩
      rw [shown_cons, List.mem_append] at hmem
      rcases hmem with hnow | hlater
      · have hdata := sent_of_observe hnow
        rw [hsent] at hdata
        exact List.not_mem_nil hdata
      · exact hquiet data hlater

/-- The filter stands on a row or has given up. -/
def Standing (m : Mouse) (k : Nat) : Prop :=
  AtState m (BitVec.ofNat 8 (2 * k)) ∨ AtState m 0xFF#8

/-- A byte read without showing anything has matched, or the filter gives up. -/
theorem silent_step {k : Nat} (hk : k < rows) {m : Mouse} (h : Standing m k) {b : U8}
    (hsilent : shown m [b] = []) :
    Standing (after m [b]) (k + 1) ∧
      (accepts (msStateTable.getD (2 * k) 0#8) b ≠ true → AtState (after m [b]) 0xFF#8) := by
  rcases h with hrow | hgiven
  · by_cases hb : accepts (msStateTable.getD (2 * k) 0#8) b = true
    · exact ⟨Or.inl (row_step hk hrow hb).1, fun hne => absurd hb hne⟩
    · have hreject := row_rejected hk hrow hb
      rw [shown_cons] at hsilent
      rcases hreject with hreset | hgiven
      · simp [hreset] at hsilent
      · exact ⟨Or.inr hgiven, fun _ => hgiven⟩
  · have hstay := (givenUp_run [b] hgiven).1
    exact ⟨Or.inr hstay, fun _ => hstay⟩

theorem silent_run (bytes : List U8) {k : Nat} (hk : k + bytes.length ≤ rows) {m : Mouse}
    (h : Standing m k) (hsilent : shown m bytes = []) :
    Standing (after m bytes) (k + bytes.length) := by
  induction bytes generalizing k m with
  | nil => exact h
  | cons b rest ih =>
      have hsplit : b :: rest = [b] ++ rest := rfl
      rw [hsplit, shown_append, List.append_eq_nil_iff] at hsilent
      rw [List.length_cons] at hk
      rw [hsplit, after_append, List.length_append, List.length_singleton, ← Nat.add_assoc]
      exact ih (by omega) (silent_step (by omega) h hsilent.1).1 hsilent.2

/-- At most two queued bytes and an acknowledgement behind them, all read
without showing anything: the filter has given up. -/
theorem silent_queue {m : Mouse} (h : AtState m 0#8) {q : List U8} (hq : q ≠ [])
    (hlen : q.length ≤ 2) (hsilent : shown m (q ++ [0xFA#8]) = []) :
    AtState (after m (q ++ [0xFA#8])) 0xFF#8 := by
  have hpos : 0 < q.length := List.length_pos_iff.mpr hq
  have hrow : q.length < rows := by
    simp only [rows]
    omega
  rw [shown_append, List.append_eq_nil_iff] at hsilent
  have hstand := silent_run q (k := 0) (by omega) (Or.inl h) hsilent.1
  rw [Nat.zero_add] at hstand
  rw [after_append]
  refine (silent_step hrow hstand hsilent.2).2 ?_
  have hcases : q.length = 1 ∨ q.length = 2 := by omega
  rcases hcases with hone | htwo
  · rw [hone]
    decide
  · rw [htwo]
    decide

/-- The first three rows: two silent acknowledgements, then a reset command. -/
theorem first_rows {m : Mouse} (h : AtState m 0#8) :
    shown m [0xFA#8] = [] ∧ shown m [0xFA#8, 0xAA#8, 0x00#8] = [.sendByte 0xFF#8] := by
  obtain ⟨h₁, -, hshown₁⟩ := row_step (k := 0) (b := 0xFA#8) (by decide) h (by decide)
  obtain ⟨h₂, -, hshown₂⟩ := row_step (k := 1) (b := 0xAA#8) (by decide) h₁ (by decide)
  obtain ⟨-, -, hshown₃⟩ := row_step (k := 2) (b := 0x00#8) (by decide) h₂ (by decide)
  simp only [shown_cons, shown_nil, hshown₁, hshown₂, hshown₃]
  exact ⟨rfl, rfl⟩

end DiyPs3Controller.FilterRuns
