import DiyPs3Controller.SixpairEmu.Emulator

/-!
# What one request does

Every request that the handler finishes is described field by field: a GetReport
answers from its buffer and may raise the flag of the first master request, a
SetReport overwrites the scratch buffer from its start and commits by its
`wValue`, and no other request touches these fields. A SetReport finishes when
its data stage fits the scratch buffer.
-/

namespace DiyPs3Controller.SixpairEmu

open Buffers

namespace ControlRequest

variable (r : ControlRequest)

/-- A GetReport that the handler answers. -/
def IsGetReport : Prop := r.bRequest = reqGetReport ∧ r.bmRequestType = classToHost

/-- A SetReport that the handler reads. -/
def IsSetReport : Prop := r.bRequest = reqSetReport ∧ r.bmRequestType = classToDevice

instance : Decidable r.IsGetReport := inferInstanceAs (Decidable (_ ∧ _))

instance : Decidable r.IsSetReport := inferInstanceAs (Decidable (_ ∧ _))

/-- A GetReport that reaches the branch of the master address. -/
def AsksMaster : Prop := r.IsGetReport ∧ reportKind r.wValue = .masterBdaddr

/-- A SetReport with a data stage and this `wValue`. -/
def Stores (wValue : U16) : Prop := r.IsSetReport ∧ r.data ≠ [] ∧ r.wValue = wValue

/-- A SetReport's data stage fits the scratch buffer. -/
def Fits : Prop := r.IsSetReport → r.wLength.toNat ≤ 64

instance : Decidable r.AsksMaster := inferInstanceAs (Decidable (_ ∧ _))

instance (wValue : U16) : Decidable (r.Stores wValue) := inferInstanceAs (Decidable (_ ∧ _ ∧ _))

instance : Decidable r.Fits := inferInstanceAs (Decidable (_ → _))

variable {r}

/-- The GetReport with this `wValue` and `wLength`. -/
def get (wValue wLength : U16) : ControlRequest where
  bmRequestType := classToHost
  bRequest := reqGetReport
  wValue
  wLength
  data := []
  data_length := rfl

/-- The SetReport of `data` with this `wValue`. -/
def set (wValue : U16) (data : List U8) (h : data.length < 65536) : ControlRequest where
  bmRequestType := classToDevice
  bRequest := reqSetReport
  wValue
  wLength := BitVec.ofNat 16 data.length
  data
  data_length := by
    rw [BitVec.toNat_ofNat, Nat.mod_eq_of_lt h]
    rfl

theorem isGetReport_get (wValue wLength : U16) : (get wValue wLength).IsGetReport := ⟨rfl, rfl⟩

theorem isSetReport_set {wValue : U16} {data : List U8} (h : data.length < 65536) :
    (set wValue data h).IsSetReport := ⟨rfl, rfl⟩

theorem data_length_of_isSetReport (h : r.IsSetReport) :
    r.data.length = r.wLength.toNat := by
  have hdata := r.data_length
  rw [h.2] at hdata
  exact hdata

/-- No request is both. -/
theorem not_isSetReport_of_isGetReport (h : r.IsGetReport) :
    ¬r.IsSetReport := by
  intro hset
  have hcode : reqGetReport = reqSetReport := h.1.symm.trans hset.1
  exact absurd hcode (by decide)

theorem not_isSetReport_get (wValue wLength : U16) : ¬(get wValue wLength).IsSetReport :=
  not_isSetReport_of_isGetReport (isGetReport_get wValue wLength)

end ControlRequest

/-- The loop copies the whole data stage, one byte for each step of its counter. -/
theorem readDataStage_eq {wLength : U16} (short : wLength.toNat ≤ 64) (bank : List U8) (i : U8)
    (buf : Vector U8 64) (count : i.toNat + bank.length = wLength.toNat) :
    readDataStage wLength i buf bank = .ok (overwrite buf i.toNat bank) := by
  induction bank generalizing i buf with
  | nil =>
      have hend : ¬i.toNat < wLength.toNat := by simp at count; omega
      rw [readDataStage, if_neg hend, overwrite_nil]
  | cons b bank ih =>
      simp only [List.length_cons] at count
      have hlt : i.toNat < 64 := by omega
      -- the counter does not wrap inside the array
      have hnext : (i + 1).toNat = i.toNat + 1 := by
        rw [BitVec.toNat_add]
        exact Nat.mod_eq_of_lt (by simp; omega)
      rw [readDataStage, if_pos (by omega), dif_pos hlt, ih (i + 1) _ (by omega), hnext,
        overwrite_cons buf hlt]

/-- A SetReport that fits commits the scratch buffer with the data stage in it. -/
theorem setReport_eq {r : ControlRequest} (hset : r.IsSetReport) (fits : r.wLength.toNat ≤ 64)
    (d : Device) :
    setReport d r = .ok (if r.data = [] then d else
      commit { d with lastSetData := overwrite d.lastSetData 0 r.data } r.wValue) := by
  have hcopy := readDataStage_eq fits r.data 0#8 d.lastSetData
    (by simp [ControlRequest.data_length_of_isSetReport hset])
  by_cases hdata : r.data = []
  · rw [setReport, if_pos hdata, if_pos hdata]
  · rw [setReport, if_neg hdata, if_neg hdata, hcopy]
    rfl

section Branches
variable (d : Device) {r : ControlRequest}

theorem unhandledControlRequest_getReport (h : r.IsGetReport) :
    unhandledControlRequest d r = .ok ((getReport d r).1, [(getReport d r).2]) := by
  rw [unhandledControlRequest, if_pos h.1, if_pos h.2]

theorem unhandledControlRequest_setReport (h : r.IsSetReport) :
    unhandledControlRequest d r = (setReport d r).map fun d => (d, []) := by
  have hget : ¬r.bRequest = reqGetReport := by
    rw [h.1]
    decide
  rw [unhandledControlRequest, if_neg hget, if_pos h.1, if_pos h.2]

/-- The outcome leaves all but the protocol and the idle count alone. -/
def KeepsReports (outcome : Except Fault (Device × List InData)) : Prop :=
  ∃ usingReportProtocol idleCount sent,
    outcome = .ok ({ d with usingReportProtocol, idleCount }, sent)

theorem unhandledControlRequest_other (hget : ¬r.IsGetReport) (hset : ¬r.IsSetReport) :
    KeepsReports d (unhandledControlRequest d r) := by
  unfold unhandledControlRequest
  apply iteInduction (motive := KeepsReports d)
  · intro hgetCode
    rw [if_neg fun htype => hget ⟨hgetCode, htype⟩]
    exact ⟨_, _, _, rfl⟩
  · intro _
    apply iteInduction (motive := KeepsReports d)
    · intro hsetCode
      rw [if_neg fun htype => hset ⟨hsetCode, htype⟩]
      exact ⟨_, _, _, rfl⟩
    · intro _
      repeat' apply iteInduction (motive := KeepsReports d) <;> intro _
      all_goals exact ⟨_, _, _, rfl⟩

end Branches

/-- A handled request, field by field. -/
structure Handled (d : Device) (r : ControlRequest) (d' : Device) : Prop where
  lastSetData : d'.lastSetData =
    if r.IsSetReport then overwrite d.lastSetData 0 r.data else d.lastSetData
  reply : d'.reply = if r.AsksMaster ∧ d.reply = 0#8 then 1#8 else d.reply
  master : d'.volatileMasterBdaddr =
    if r.Stores 0x03f5#16 then slice d'.lastSetData 2 6 (by decide) else d.volatileMasterBdaddr
  eeprom : d'.eeprom = if r.Stores 0xDEAD#16 then storedIdentity d'.lastSetData else d.eeprom
  vendorID : d'.vendorID = d.vendorID
  productID : d'.productID = d.productID
  deviceBdaddr : d'.volatileDeviceBdaddr = d.volatileDeviceBdaddr

theorem Handled.getReport {r : ControlRequest} (h : r.IsGetReport) (d : Device) :
    Handled d r (getReport d r).1 := by
  have hset := ControlRequest.not_isSetReport_of_isGetReport h
  have hstores : ∀ wValue, ¬r.Stores wValue := fun wValue hstored => hset hstored.1
  by_cases hask : reportKind r.wValue = .masterBdaddr ∧ d.reply = 0#8
  · have hd : (SixpairEmu.getReport d r).1 = { d with reply := 1#8 } := if_pos hask
    rw [hd]
    have hflag : r.AsksMaster ∧ d.reply = 0#8 := ⟨⟨h, hask.1⟩, hask.2⟩
    constructor <;> simp only [hset, hflag, hstores, and_self, if_true, if_false]
  · have hd : (SixpairEmu.getReport d r).1 = d := if_neg hask
    have hflag : ¬(r.AsksMaster ∧ d.reply = 0#8) := fun hflag => hask ⟨hflag.1.2, hflag.2⟩
    rw [hd]
    constructor <;> simp only [hset, hflag, hstores, if_false]

theorem commit_eq (d : Device) (wValue : U16) :
    commit d wValue =
      { d with
        eeprom := if wValue = 0xDEAD#16 then storedIdentity d.lastSetData else d.eeprom
        volatileMasterBdaddr :=
          if wValue = 0x03f5#16 then slice d.lastSetData 2 6 (by decide)
          else d.volatileMasterBdaddr } := by
  unfold commit
  split_ifs <;> rfl

theorem Handled.setReport {r : ControlRequest} (h : r.IsSetReport) (d : Device) :
    Handled d r (if r.data = [] then d else
      commit { d with lastSetData := overwrite d.lastSetData 0 r.data } r.wValue) := by
  have hget : ¬r.IsGetReport := fun hget =>
    ControlRequest.not_isSetReport_of_isGetReport hget h
  by_cases hdata : r.data = []
  · rw [if_pos hdata]
    constructor <;> simp [h, hget, hdata, ControlRequest.AsksMaster, ControlRequest.Stores]
  · rw [if_neg hdata, commit_eq]
    constructor <;> simp [h, hget, hdata, ControlRequest.AsksMaster, ControlRequest.Stores]

/-- Every request whose data stage fits is handled. -/
theorem unhandledControlRequest_handled {r : ControlRequest} (fits : r.Fits) (d : Device) :
    ∃ d' sent, unhandledControlRequest d r = .ok (d', sent) ∧ Handled d r d' := by
  by_cases hget : r.IsGetReport
  · exact ⟨_, _, unhandledControlRequest_getReport d hget, Handled.getReport hget d⟩
  · by_cases hset : r.IsSetReport
    · refine ⟨_, [], ?_, Handled.setReport hset d⟩
      rw [unhandledControlRequest_setReport d hset, setReport_eq hset (fits hset)]
      rfl
    · obtain ⟨usingReportProtocol, idleCount, sent, hother⟩ :=
        unhandledControlRequest_other d hget hset
      refine ⟨_, sent, hother, ?_⟩
      constructor <;> simp [hget, hset, ControlRequest.AsksMaster, ControlRequest.Stores]

/-! ## Requests as steps of the emulator -/

/-- The data stages that answer a request. -/
def answers (s : Except Fault Device) (r : ControlRequest) : List InData :=
  (emulator.step s (.request r)).2

theorem emulator_request {r : ControlRequest} (fits : r.Fits) (d : Device) :
    ∃ d' sent, emulator.step (.ok d) (.request r) = (.ok d', sent) ∧ Handled d r d' := by
  obtain ⟨d', sent, hrun, handled⟩ := unhandledControlRequest_handled fits d
  refine ⟨d', sent, ?_, handled⟩
  simp only [emulator, Device.handle, hrun]

/-- What each event keeps between the history and the device, a run keeps. -/
theorem emulator_run {N : Event → Prop} {H : List Event → Device → Prop}
    (fits : ∀ r, N (.request r) → r.Fits)
    (request : ∀ history d r d', H history d → N (.request r) → Handled d r d' →
      H (history ++ [.request r]) d')
    (psButton : ∀ history d value, H history d →
      H (history ++ [.psButton value]) (d.writePsButton value))
    (powerCycle : ∀ history d, H history d → N .powerCycle →
      H (history ++ [.powerCycle]) (powerUp d.eeprom))
    {d : Device} (start : H [] d) {history : List Event} (h : ∀ e ∈ history, N e) :
    ∃ d', emulator.state (.ok d) history = .ok d' ∧ H history d' := by
  apply Machine.history_of_good_step (M := emulator) (N := N)
    (H := fun history s => ∃ d', s = .ok d' ∧ H history d') _ ⟨d, rfl, start⟩ h
  rintro history s e ⟨d, rfl, known⟩ he
  cases e with
  | request r =>
      obtain ⟨d', sent, hrun, handled⟩ := emulator_request (fits r he) d
      exact ⟨d', by rw [hrun], request history d r d' known he handled⟩
  | psButton value => exact ⟨_, rfl, psButton history d value known⟩
  | powerCycle => exact ⟨_, rfl, powerCycle history d known he⟩

theorem answers_getReport {r : ControlRequest} (h : r.IsGetReport) (d : Device) :
    answers (.ok d) r = [(getReport d r).2] := by
  simp only [answers, emulator, Device.handle, unhandledControlRequest_getReport d h]

/-- Every branch but the last sends what the host asks for. -/
theorem getReport_sent {r : ControlRequest} (h : reportKind r.wValue ≠ .sixaxis) (d : Device) :
    (getReport d r).2 = firstCells (replyBuffer d (reportKind r.wValue)) r.wLength.toNat := by
  simp [getReport, writeControlStream, h]

end DiyPs3Controller.SixpairEmu
