import DiyPs3Controller.Foundations.LastWrites
import DiyPs3Controller.SixpairEmu.Requests

/-!
# Pairing with a master

The emulator answers the first request for the master address with a dummy, and
every later one with the address that the last SetReport of it carried. The
requests of `sixpair` then read back what they wrote.
-/

namespace DiyPs3Controller.SixpairEmu

open Buffers

/-- A request for the master address. -/
def Event.AsksMaster : Event → Prop
  | .request r => r.AsksMaster
  | .psButton _ => False
  | .powerCycle => False

/-- Bytes 2 to 7 of a SetReport with `wValue` 0x03f5. -/
def masterWrite : Event → Option (List U8)
  | .request r =>
      if r.IsSetReport ∧ r.wValue = 0x03f5#16 then some ((r.data.drop 2).take 6) else none
  | .psButton _ => none
  | .powerCycle => none

/-- Bytes 2 to 7 of a reply. -/
def masterField (sent : InData) : InData := (sent.drop 2).take 6

/-- A step of one session: every SetReport carries 8 to 64 bytes. -/
def InSession : Event → Prop
  | .request r => r.IsSetReport → 8 ≤ r.wLength.toNat ∧ r.wLength.toNat ≤ 64
  | .psButton _ => True
  | .powerCycle => False

/-- `show_master` of `sixpair`. -/
def showMaster : ControlRequest := .get 0x03f5 8

/-- `set_master` of `sixpair`: every `int` of the address becomes a `char`. -/
def setMaster (mac : Vector Int 6) : ControlRequest :=
  .set 0x03f5 ([0x01, 0x00] ++ (mac.map (BitVec.ofInt 8)).toList) (by simp)

theorem data_of_inSession {r : ControlRequest} (h : InSession (.request r))
    (hset : r.IsSetReport) : 8 ≤ r.data.length := by
  rw [ControlRequest.data_length_of_isSetReport hset]
  exact (h hset).1

/-- What the session's history tells of the state. -/
def MasterKnown (history : List Event) (d : Device) : Prop :=
  d.volatileMasterBdaddr.toList = lastWrite masterWrite (List.replicate 6 0#8) history ∧
    (d.reply = 0#8 ↔ ∀ e ∈ history, ¬e.AsksMaster)

/-- A handled request of a session writes the master address or keeps it. -/
theorem master_of_handled {d d' : Device} {r : ControlRequest} (handled : Handled d r d')
    (h : InSession (.request r)) :
    d'.volatileMasterBdaddr.toList =
      (masterWrite (.request r)).getD d.volatileMasterBdaddr.toList := by
  by_cases hset : r.IsSetReport
  · have hlen := data_of_inSession h hset
    have hdata : r.data ≠ [] := List.ne_nil_of_length_pos (by omega)
    rw [handled.master, handled.lastSetData, if_pos hset]
    by_cases hvalue : r.wValue = 0x03f5#16
    · rw [if_pos ⟨hset, hdata, hvalue⟩, toList_slice_overwrite _ _ hlen]
      simp [masterWrite, hset, hvalue]
    · rw [if_neg fun hs => hvalue hs.2.2]
      simp [masterWrite, hvalue]
  · rw [handled.master, if_neg fun hs => hset hs.1]
    simp [masterWrite, hset]

theorem reply_of_handled {d d' : Device} {r : ControlRequest} (handled : Handled d r d') :
    d'.reply = 0#8 ↔ d.reply = 0#8 ∧ ¬r.AsksMaster := by
  rw [handled.reply]
  by_cases hask : r.AsksMaster <;> by_cases hreply : d.reply = 0#8 <;> simp [hask, hreply]

theorem MasterKnown.request {history : List Event} {d d' : Device} {r : ControlRequest}
    (known : MasterKnown history d) (h : InSession (.request r)) (handled : Handled d r d') :
    MasterKnown (history ++ [.request r]) d' := by
  constructor
  · rw [master_of_handled handled h, known.1, lastWrite_concat]
  · rw [reply_of_handled handled, known.2]
    simp [Event.AsksMaster, or_imp, forall_and]

/-- Every session keeps its history in the state. -/
theorem masterKnown_run (eeprom : Eeprom) {history : List Event}
    (h : ∀ e ∈ history, InSession e) :
    ∃ d, emulator.state (.ok (powerUp eeprom)) history = .ok d ∧ MasterKnown history d := by
  apply emulator_run (N := InSession) (H := MasterKnown) _ _ _ _ _ h
  · exact fun r hr hset => (hr hset).2
  · exact fun history d r d' known hr handled => known.request hr handled
  · intro history d value known
    constructor
    · rw [lastWrite_concat]
      exact known.1
    · simpa [Event.AsksMaster, Device.writePsButton, or_imp, forall_and] using known.2
  · exact fun history d known hcycle => hcycle.elim
  · constructor
    · rw [powerUp_master]
      rfl
    · simp

/-! ## Replies -/

/-- The address that the branch answers with. -/
theorem masterField_getReport {r : ControlRequest} (hask : r.AsksMaster)
    (short : r.wLength.toNat ≤ 64) (d : Device) :
    masterField (getReport d r).2 =
      ((if d.reply = 0#8 then List.replicate 6 0xAA#8
        else d.volatileMasterBdaddr.toList).map some).take (r.wLength.toNat - 2) := by
  have hsent := getReport_sent (by rw [hask.2]; decide : reportKind r.wValue ≠ .sixaxis) d
  rw [hsent, hask.2]
  by_cases hreply : d.reply = 0#8
  · rw [replyBuffer, if_pos hreply, if_pos hreply, masterField, field_firstCells short]
    rfl
  · rw [replyBuffer, if_neg hreply, if_neg hreply, masterField]
    exact field_firstCells_copyAt Vector.length_toList (by decide) short

/-- The reply to a request for the master address, after any session. -/
theorem master_reply (eeprom : Eeprom) {history : List Event} (h : ∀ e ∈ history, InSession e)
    {r : ControlRequest} (hask : r.AsksMaster) (short : r.wLength.toNat ≤ 64) :
    ∃ sent, answers (emulator.state (.ok (powerUp eeprom)) history) r = [sent] ∧
      ((∀ e ∈ history, ¬e.AsksMaster) →
        masterField sent = ((List.replicate 6 0xAA#8).map some).take (r.wLength.toNat - 2)) ∧
      ((∃ e ∈ history, e.AsksMaster) → 8 ≤ r.wLength.toNat →
        masterField sent =
          (lastWrite masterWrite (List.replicate 6 0#8) history).map some) := by
  obtain ⟨d, hstate, master, reply⟩ := masterKnown_run eeprom h
  refine ⟨(getReport d r).2, ?_, ?_, ?_⟩
  · rw [hstate, answers_getReport hask.1]
  · intro hfirst
    rw [masterField_getReport hask short, if_pos (reply.mpr hfirst)]
  · rintro ⟨e, he, hasked⟩ hlen
    have hreply : d.reply ≠ 0#8 := fun h0 => reply.mp h0 e he hasked
    rw [masterField_getReport hask short, if_neg hreply, ← master]
    apply List.take_of_length_le
    simp only [List.length_map, Vector.length_toList]
    omega

theorem inSession_showMaster : InSession (.request showMaster) := fun hset =>
  absurd hset (ControlRequest.not_isSetReport_get _ _)

theorem inSession_setMaster (mac : Vector Int 6) : InSession (.request (setMaster mac)) := by
  intro hset
  rw [← ControlRequest.data_length_of_isSetReport hset]
  simp [setMaster, ControlRequest.set]

theorem masterWrite_setMaster (mac : Vector Int 6) :
    masterWrite (.request (setMaster mac)) = some (mac.map (BitVec.ofInt 8)).toList := by
  have hset : (setMaster mac).IsSetReport := ControlRequest.isSetReport_set _
  rw [masterWrite, if_pos ⟨hset, rfl⟩]
  congr 1
  apply List.take_of_length_le
  simp [setMaster, ControlRequest.set]

/-- The first request for the master address is answered with the dummy, every
later one with the last address that a SetReport wrote, whatever stands between
them; and `show_master` after `set_master` shows the address modulo 256. -/
theorem master_pairing (eeprom : Eeprom) :
    (∀ history r, (∀ e ∈ history, InSession e) → r.AsksMaster → r.wLength.toNat ≤ 64 →
      ∃ sent, answers (emulator.state (.ok (powerUp eeprom)) history) r = [sent] ∧
        ((∀ e ∈ history, ¬e.AsksMaster) →
          masterField sent =
            ((List.replicate 6 0xAA#8).map some).take (r.wLength.toNat - 2)) ∧
        ((∃ e ∈ history, e.AsksMaster) → 8 ≤ r.wLength.toNat →
          masterField sent =
            (lastWrite masterWrite (List.replicate 6 0#8) history).map some)) ∧
    ∀ before between after mac,
      (∀ e ∈ before ++ between ++ after, InSession e) → (∀ e ∈ after, masterWrite e = none) →
      ∃ sent,
        answers (emulator.state (.ok (powerUp eeprom))
          (before ++ .request showMaster :: between ++ .request (setMaster mac) :: after))
          showMaster = [sent] ∧
        masterField sent = (mac.map (BitVec.ofInt 8)).toList.map some := by
  constructor
  · intro history r h hask short
    exact master_reply eeprom h hask short
  · intro before between after mac h hafter
    have hsession : ∀ e ∈ before ++ .request showMaster :: between ++
        .request (setMaster mac) :: after, InSession e := by
      intro e he
      simp only [List.mem_append, List.mem_cons] at he h
      rcases he with (he | rfl | he) | rfl | he
      · exact h e (.inl (.inl he))
      · exact inSession_showMaster
      · exact h e (.inl (.inr he))
      · exact inSession_setMaster mac
      · exact h e (.inr he)
    have hask : showMaster.AsksMaster := ⟨ControlRequest.isGetReport_get _ _, by decide⟩
    obtain ⟨sent, hsent, -, hlater⟩ := master_reply eeprom hsession hask (by decide)
    refine ⟨sent, hsent, ?_⟩
    rw [hlater ⟨.request showMaster, by simp, hask⟩ (by decide), lastWrite_append,
      lastWrite_cons, masterWrite_setMaster, lastWrite_of_none masterWrite _ hafter]
    rfl

/-- A session: the dummy, then zeros, then the address of `sixpair`. -/
theorem master_pairing_session :
    (∃ sent, answers (emulator.state (.ok (powerUp programmedEeprom)) []) showMaster = [sent] ∧
      ((∀ e ∈ ([] : List Event), ¬e.AsksMaster) →
        masterField sent =
          ((List.replicate 6 0xAA#8).map some).take (showMaster.wLength.toNat - 2)) ∧
      ((∃ e ∈ ([] : List Event), e.AsksMaster) → 8 ≤ showMaster.wLength.toNat →
        masterField sent = (lastWrite masterWrite (List.replicate 6 0#8) []).map some)) ∧
    ∃ sent,
      answers (emulator.state (.ok (powerUp programmedEeprom))
        ([] ++ .request showMaster :: [] ++
          .request (setMaster #v[0, 17, 34, 51, 68, 341]) :: [.psButton 1]))
        showMaster = [sent] ∧
      masterField sent = (#v[0, 17, 34, 51, 68, 341].map (BitVec.ofInt 8)).toList.map some := by
  constructor
  · exact (master_pairing programmedEeprom).1 [] showMaster (by simp)
      ⟨ControlRequest.isGetReport_get _ _, by decide⟩ (by decide)
  · exact (master_pairing programmedEeprom).2 [] [] [.psButton 1] #v[0, 17, 34, 51, 68, 341]
      (by simp [InSession]) (by simp [masterWrite])

end DiyPs3Controller.SixpairEmu
