import DiyPs3Controller.SixpairEmu.Identity
import DiyPs3Controller.SixpairEmu.ReportIds

/-!
# SetReports that are too short

A SetReport commits ten bytes of the scratch buffer as an identity, or six as a
master address, however many it has received. A short one with data stores what
an earlier request left behind its own bytes; without data it stores nothing.
-/

namespace DiyPs3Controller.SixpairEmu

open Buffers

/-- A SetReport of an identity or of a master address that does not carry all of it. -/
def ControlRequest.IsShort (r : ControlRequest) : Prop :=
  r.IsSetReport ∧ (r.wValue = 0xDEAD#16 ∧ r.wLength.toNat < 10 ∨
    r.wValue = 0x03f5#16 ∧ r.wLength.toNat < 8)

/-- A state that some run reaches from power-up, with some EEPROM. -/
def Reachable (d : Device) : Prop :=
  ∃ eeprom history, emulator.state (.ok (powerUp eeprom)) history = .ok d

/-- The request leaves the ids, the device address and the master address stored
as they were. -/
def KeepsStored (d : Device) (r : ControlRequest) : Prop :=
  ∃ d' sent, unhandledControlRequest d r = .ok (d', sent) ∧ d'.eeprom = d.eeprom ∧
    d'.volatileMasterBdaddr = d.volatileMasterBdaddr

/-- A step whose data stage fits the scratch buffer, and which carries nothing
if it is short. -/
def NoShortData : Event → Prop
  | .request r => r.Fits ∧ (r.IsShort → r.wLength = 0#16)
  | .psButton _ => True
  | .powerCycle => True

/-- The ten bytes of a request that stores an identity. -/
def identityPayload : Event → Option (List U8)
  | .request r => if r.Stores 0xDEAD#16 then some (r.data.take 10) else none
  | .psButton _ => none
  | .powerCycle => none

/-- The six bytes of a request that stores a master address; a start clears it. -/
def masterPayload : Event → Option (List U8)
  | .request r => if r.Stores 0x03f5#16 then some ((r.data.drop 2).take 6) else none
  | .psButton _ => none
  | .powerCycle => some (List.replicate 6 0#8)

/-- What is stored is the payload of one request, or what the device started with. -/
def PayloadsStored (eeprom : Eeprom) (history : List Event) (d : Device) : Prop :=
  d.eeprom.identity = lastWrite identityPayload eeprom.identity history ∧
    d.volatileMasterBdaddr.toList = lastWrite masterPayload (List.replicate 6 0#8) history

section Payloads
variable {d d' : Device} {r : ControlRequest} (h : NoShortData (.request r))
include h

/-- Data of an identity request is an identity, whole. -/
theorem identity_length (hs : r.Stores 0xDEAD#16) : 10 ≤ r.data.length := by
  apply Nat.le_of_not_lt
  intro hlt
  have hlen := ControlRequest.data_length_of_isSetReport hs.1
  have hzero := h.2 ⟨hs.1, Or.inl ⟨hs.2.2, by omega⟩⟩
  rw [hzero] at hlen
  exact hs.2.1 (List.length_eq_zero_iff.mp hlen)

/-- Data of a master request has the whole address. -/
theorem master_length (hs : r.Stores 0x03f5#16) : 8 ≤ r.data.length := by
  apply Nat.le_of_not_lt
  intro hlt
  have hlen := ControlRequest.data_length_of_isSetReport hs.1
  have hzero := h.2 ⟨hs.1, Or.inr ⟨hs.2.2, by omega⟩⟩
  rw [hzero] at hlen
  exact hs.2.1 (List.length_eq_zero_iff.mp hlen)

theorem PayloadsStored.request {eeprom : Eeprom} {history : List Event}
    (known : PayloadsStored eeprom history d) (handled : Handled d r d') :
    PayloadsStored eeprom (history ++ [.request r]) d' := by
  constructor
  · rw [lastWrite_concat, ← known.1, handled.eeprom]
    by_cases hs : r.Stores 0xDEAD#16
    · rw [if_pos hs, handled.lastSetData, if_pos hs.1,
        identity_storedIdentity_take _ (identity_length h hs)]
      simp [identityPayload, hs]
    · simp [identityPayload, hs]
  · rw [lastWrite_concat, ← known.2, handled.master]
    by_cases hs : r.Stores 0x03f5#16
    · rw [if_pos hs, handled.lastSetData, if_pos hs.1,
        toList_slice_overwrite _ _ (master_length h hs)]
      simp [masterPayload, hs]
    · simp [masterPayload, hs]

end Payloads

/-- In a run without short data every byte stored came with the request that
stored it. -/
theorem payloadsStored_run (eeprom : Eeprom) {history : List Event}
    (h : ∀ e ∈ history, NoShortData e) :
    ∃ d, emulator.state (.ok (powerUp eeprom)) history = .ok d ∧
      PayloadsStored eeprom history d := by
  apply emulator_run (N := NoShortData) (H := PayloadsStored eeprom) _ _ _ _ _ h
  · exact fun r hr => hr.1
  · exact fun history d r d' known hr handled => known.request hr handled
  · intro history d value known
    rw [PayloadsStored, lastWrite_concat, lastWrite_concat]
    exact known
  · intro history d known _
    rw [PayloadsStored, lastWrite_concat, lastWrite_concat, powerUp_eeprom, powerUp_master]
    exact ⟨known.1, rfl⟩
  · rw [PayloadsStored, powerUp_eeprom, powerUp_master]
    exact ⟨rfl, rfl⟩

/-! ## Short requests in every reachable state -/

/-- Without data the handler waits for some, and commits nothing. -/
theorem keepsStored_of_noData {r : ControlRequest} (hset : r.IsSetReport)
    (hzero : r.wLength = 0#16) (d : Device) : KeepsStored d r := by
  have hlen := ControlRequest.data_length_of_isSetReport hset
  have hdata : r.data = [] := by
    rw [hzero] at hlen
    exact List.length_eq_zero_iff.mp hlen
  refine ⟨d, [], ?_, rfl, rfl⟩
  rw [unhandledControlRequest_setReport d hset, setReport, if_pos hdata]
  rfl

/-- A SetReport that fills the scratch buffer and commits nothing. -/
def fillScratch : ControlRequest := .set 0x0000 (List.replicate 64 0xFF#8) (by decide)

/-- A reachable state with the programmed identity, no master address and a
scratch buffer full of other bytes. -/
theorem reachable_filled :
    ∃ d, Reachable d ∧ d.eeprom = programmedEeprom ∧
      d.volatileMasterBdaddr = Vector.replicate 6 0#8 ∧
      ∀ j (hj : j < 64), d.lastSetData[j] = 0xFF#8 := by
  have hset : fillScratch.IsSetReport := ControlRequest.isSetReport_set _
  have hfits : fillScratch.Fits := fun _ => by decide
  obtain ⟨d, sent, hrun, handled⟩ := emulator_request hfits (powerUp programmedEeprom)
  refine ⟨d, ⟨programmedEeprom, [.request fillScratch], ?_⟩, ?_, ?_, ?_⟩
  · rw [Machine.state_cons, Machine.state_nil, hrun]
  · rw [handled.eeprom, if_neg (by decide), powerUp_eeprom]
  · rw [handled.master, if_neg (by decide), powerUp_master]
  · intro j hj
    have hdata : fillScratch.data[j]? = some 0xFF#8 := by
      change (List.replicate 64 0xFF#8)[j]? = some 0xFF#8
      rw [List.getElem?_replicate, if_pos hj]
    simp only [handled.lastSetData, if_pos hset]
    rw [getElem_overwrite_zero, hdata, Option.getD_some]

/-- A short request with data stores the last byte of what another request left. -/
theorem not_keepsStored {r : ControlRequest} (short : r.IsShort) (hdata : r.data ≠ [])
    {d : Device} (heeprom : d.eeprom = programmedEeprom)
    (hmaster : d.volatileMasterBdaddr = Vector.replicate 6 0#8)
    (hscratch : ∀ j (hj : j < 64), d.lastSetData[j] = 0xFF#8) : ¬KeepsStored d r := by
  rintro ⟨d', sent, hrun, hkeptEeprom, hkeptMaster⟩
  have hlen := ControlRequest.data_length_of_isSetReport short.1
  have hfits : r.Fits := by
    intro _
    rcases short.2 with ⟨-, hlt⟩ | ⟨-, hlt⟩ <;> omega
  obtain ⟨d'', sent', hrun', handled⟩ := unhandledControlRequest_handled hfits d
  obtain ⟨rfl, rfl⟩ : d' = d'' ∧ sent = sent' := by simpa [hrun] using hrun'
  -- the cell that this request does not reach keeps the earlier byte
  have hleft (j : Nat) (hj : j < 64) (hreach : r.data.length ≤ j) :
      d'.lastSetData[j] = 0xFF#8 := by
    simp only [handled.lastSetData, if_pos short.1]
    rw [getElem_overwrite_zero, List.getElem?_eq_none hreach, Option.getD_none, hscratch j hj]
  rcases short.2 with ⟨hvalue, hlt⟩ | ⟨hvalue, hlt⟩
  · have hstored := handled.eeprom
    rw [if_pos ⟨short.1, hdata, hvalue⟩, hkeptEeprom, heeprom] at hstored
    have hbyte := congrArg (fun e => e.deviceBdaddr[5]?) hstored
    have hcell := hleft 9 (by decide) (by omega)
    simp [programmedEeprom, storedIdentity, slice, hcell] at hbyte
  · have hstored := handled.master
    rw [if_pos ⟨short.1, hdata, hvalue⟩, hkeptMaster, hmaster] at hstored
    have hbyte := congrArg (fun v => v[5]?) hstored
    have hcell := hleft 7 (by decide) (by omega)
    simp [slice, hcell] at hbyte

/-- A short request commits nothing in every reachable state exactly when it
carries no data; and in every run in which short requests carry none, what is
stored came whole with the request that stored it. -/
theorem shortSetReport_iff {r : ControlRequest} (short : r.IsShort) (eeprom : Eeprom)
    (history : List Event) :
    ((∀ d, Reachable d → KeepsStored d r) ↔ r.wLength = 0#16) ∧
      ((∀ e ∈ history, NoShortData e) →
        ∃ d, emulator.state (.ok (powerUp eeprom)) history = .ok d ∧
          PayloadsStored eeprom history d) := by
  refine ⟨?_, payloadsStored_run eeprom⟩
  have hlen := ControlRequest.data_length_of_isSetReport short.1
  constructor
  · intro hkeeps
    by_contra hne
    have hdata : r.data ≠ [] := by
      intro hnil
      rw [hnil, List.length_nil] at hlen
      exact hne (BitVec.eq_of_toNat_eq hlen.symm)
    obtain ⟨d, hreach, heeprom, hmaster, hscratch⟩ := reachable_filled
    exact not_keepsStored short hdata heeprom hmaster hscratch (hkeeps d hreach)
  · exact fun hzero d _ => keepsStored_of_noData short.1 hzero d

/-- A vendor id alone. -/
def vendorOnly : ControlRequest := .set 0xDEAD [0xEB#8, 0x03#8] (by decide)

theorem isShort_vendorOnly : vendorOnly.IsShort :=
  ⟨ControlRequest.isSetReport_set _, Or.inl ⟨rfl, by decide⟩⟩

/-- Behind the two bytes of a vendor id the device stores bytes of the pairing
request before it. -/
theorem vendorOnly_storesLeftover :
    ((emulator.state (.ok (powerUp programmedEeprom)) [.request sixpairSet]).map
        fun d => d.eeprom.identity) =
      .ok [0xEB, 0x03, 0x42, 0x20, 0x01, 0x02, 0x03, 0x04, 0x05, 0x06] ∧
    ((emulator.state (.ok (powerUp programmedEeprom))
        [.request sixpairSet, .request vendorOnly]).map fun d => d.eeprom.identity) =
      .ok [0xEB, 0x03, 0x11, 0x22, 0x33, 0x44, 0x55, 0x66, 0x00, 0x00] ∧
    ¬∀ d r, Reachable d → r.IsShort → KeepsStored d r := by
  refine ⟨rfl, rfl, ?_⟩
  intro hkeeps
  obtain ⟨d, hreach, heeprom, hmaster, hscratch⟩ := reachable_filled
  exact not_keepsStored isShort_vendorOnly (List.cons_ne_nil _ _) heeprom hmaster hscratch
    (hkeeps d vendorOnly hreach isShort_vendorOnly)

/-- The request for a vendor id alone, and a run that pairs. -/
theorem shortSetReport_iff_vendorOnly :
    ((∀ d, Reachable d → KeepsStored d vendorOnly) ↔ vendorOnly.wLength = 0#16) ∧
      ∃ d, emulator.state (.ok (powerUp programmedEeprom)) [.request sixpairSet] = .ok d ∧
        PayloadsStored programmedEeprom [.request sixpairSet] d := by
  obtain ⟨hstep, hrun⟩ :=
    shortSetReport_iff isShort_vendorOnly programmedEeprom [.request sixpairSet]
  refine ⟨hstep, hrun ?_⟩
  intro e he
  obtain rfl := List.mem_singleton.mp he
  exact ⟨fun _ => by decide, fun hshort => absurd hshort.2 (by decide)⟩

end DiyPs3Controller.SixpairEmu
