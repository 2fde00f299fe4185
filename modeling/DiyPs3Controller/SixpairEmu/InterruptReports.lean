import DiyPs3Controller.Foundations.ChangeFeeds
import DiyPs3Controller.SixpairEmu.Emulator

/-!
# Reports on the interrupt endpoint

`HID_Task` sends the reference report to the host when it differs from the last
report sent or when the idle period has elapsed, provided that the endpoint is
ready. Up to repetitions the host reads what the reference report has been at
the polls that could have sent it.
-/

namespace DiyPs3Controller.SixpairEmu

open ChangeFeeds

/-- `USB_SixaxisReport_Data_t` -/
abbrev Report := Vector U8 50

/-- `USB_Device_States_t` -/
inductive DeviceState
  | unattached
  | powered
  | default
  | addressed
  | configured
  | suspended
  deriving DecidableEq, Repr

/-- `HID_IDLE_CHANGESONLY` -/
def hidIdleChangesonly : U16 := 0#16

/-- The variables that the interrupt endpoint is served from. -/
structure Hid where
  device : Device
  idleMSRemaining : U16
  prevSixaxisReportData : Report
  deriving DecidableEq

/-- The static variables at the start are zero. -/
def zeroReport : Report := Vector.replicate 50 0#8

def hidStart (device : Device) : Hid where
  device := device
  idleMSRemaining := 0#16
  prevSixaxisReportData := zeroReport

/-- The idle period is set and has elapsed. -/
def Elapsed (h : Hid) : Prop :=
  h.device.idleCount ≠ hidIdleChangesonly ∧ h.idleMSRemaining = 0#16

instance (h : Hid) : Decidable (Elapsed h) := inferInstanceAs (Decidable (_ ∧ _))

/-- `SendNextReport`, with whether the endpoint is ready; the outputs are the
reports written to it. -/
def sendNextReport (h : Hid) (isReadWriteAllowed : Bool) : Hid × List Report :=
  let sixaxisReportData := h.device.refReportData
  let changed : Bool := h.prevSixaxisReportData ≠ sixaxisReportData
  let sendReport := if Elapsed h then true else changed
  let h := if Elapsed h then { h with idleMSRemaining := h.device.idleCount } else h
  if isReadWriteAllowed && sendReport then
    ({ h with prevSixaxisReportData := sixaxisReportData }, [sixaxisReportData])
  else (h, [])

/-- `HID_Task`; `ReceiveNextReport` drops what it reads. -/
def hidTask (h : Hid) (usbDeviceState : DeviceState) (isReadWriteAllowed : Bool) :
    Hid × List Report :=
  if usbDeviceState ≠ .configured then (h, []) else sendNextReport h isReadWriteAllowed

/-- `EVENT_USB_Device_StartOfFrame` -/
def startOfFrame (h : Hid) : Hid :=
  if h.idleMSRemaining ≠ 0#16 then { h with idleMSRemaining := h.idleMSRemaining - 1#16 } else h

/-- The SetIdle branch. -/
def setIdle (d : Device) (wValue : U16) : Device :=
  { d with idleCount := (wValue &&& 0xFF00) >>> 6 }

/-- A SetIdle request of the host does nothing else. -/
theorem unhandledControlRequest_setIdle (d : Device) {r : ControlRequest}
    (hrequest : r.bRequest = reqSetIdle) (htype : r.bmRequestType = classToDevice) :
    unhandledControlRequest d r = .ok (setIdle d r.wValue, []) := by
  simp [unhandledControlRequest, hrequest, htype, setIdle, reqSetIdle, reqGetReport, reqSetReport,
    reqGetProtocol, reqSetProtocol]

/-- A poll of `HID_Task` with the device state and the endpoint as it finds them,
a tick, a SetIdle request, or a new value of `RefReportData`. -/
inductive HidInput
  | hidTask (usbDeviceState : DeviceState) (isReadWriteAllowed : Bool)
  | startOfFrame
  | setIdle (wValue : U16)
  | refReportData (report : Report)
  deriving DecidableEq, Repr

/-- The emulator between the host's interrupt requests. -/
def hidMachine : Machine Hid HidInput Report where
  step h
    | .hidTask usbDeviceState isReadWriteAllowed => hidTask h usbDeviceState isReadWriteAllowed
    | .startOfFrame => (startOfFrame h, [])
    | .setIdle wValue => ({ h with device := setIdle h.device wValue }, [])
    | .refReportData report => ({ h with device := { h.device with refReportData := report } }, [])

/-- The device is configured and the endpoint ready. -/
def ready : HidInput := .hidTask .configured true

/-- What the poll of an input could send, and whether it must. -/
def offered (h : Hid) (i : HidInput) : List (Report × Bool) :=
  if i = ready then [(h.device.refReportData, decide (Elapsed h))] else []

/-- The values of `RefReportData` at the polls that could send it. -/
def available (h : Hid) (inputs : List HidInput) : List Report :=
  (hidMachine.noting fun h i => if i = ready then [h.device.refReportData] else []).outputs h
    inputs

/-- The host reads each change once and in order, and a repetition only when the
idle period has elapsed. -/
structure DeliversChanges (h : Hid) (inputs : List HidInput) : Prop where
  sequence : (zeroReport :: hidMachine.outputs h inputs).destutter (· ≠ ·) =
    (zeroReport :: available h inputs).destutter (· ≠ ·)
  repeated : ∀ before i after, inputs = before ++ i :: after →
    ∀ report ∈ (hidMachine.step (hidMachine.state h before) i).2,
      (zeroReport :: hidMachine.outputs h before).getLast? = some report →
        (hidMachine.state h before).device.idleCount ≠ 0#16 ∧
          (hidMachine.state h before).idleMSRemaining = 0#16

section Step
variable (h : Hid)

/-- A poll with the endpoint busy only restarts an idle period that has elapsed. -/
theorem sendNextReport_busy :
    sendNextReport h false =
      (if Elapsed h then { h with idleMSRemaining := h.device.idleCount } else h, []) := rfl

/-- A poll with the endpoint ready sends the report if it is new or the idle
period has elapsed. -/
theorem sendNextReport_ready :
    (sendNextReport h true).1.prevSixaxisReportData =
        sender.state h.prevSixaxisReportData
          [(h.device.refReportData, decide (Elapsed h))] ∧
      (sendNextReport h true).2 =
        sender.outputs h.prevSixaxisReportData
          [(h.device.refReportData, decide (Elapsed h))] := by
  rw [Machine.state_cons, Machine.state_nil, Machine.outputs_cons, Machine.outputs_nil,
    List.append_nil]
  by_cases helapsed : Elapsed h
  · rw [sender_sends (Or.inr (decide_eq_true helapsed))]
    simp [sendNextReport, helapsed]
  · by_cases hsame : h.prevSixaxisReportData = h.device.refReportData
    · have hsilent : ¬(h.device.refReportData ≠ h.prevSixaxisReportData ∨
          decide (Elapsed h) = true) := by
        simp [hsame, helapsed]
      rw [sender_silent hsilent]
      simp [sendNextReport, helapsed, hsame]
    · rw [sender_sends (Or.inl fun heq => hsame heq.symm)]
      simp [sendNextReport, helapsed, hsame]

/-- No input but a ready poll sends anything or changes what was sent last. -/
theorem step_other {i : HidInput} (hi : i ≠ ready) :
    (hidMachine.step h i).1.prevSixaxisReportData = h.prevSixaxisReportData ∧
      (hidMachine.step h i).2 = [] := by
  cases i with
  | hidTask usbDeviceState isReadWriteAllowed =>
      by_cases hstate : usbDeviceState = .configured
      · have hbusy : isReadWriteAllowed = false := by
          rw [hstate, ready] at hi
          simpa using hi
        have hstep : hidMachine.step h (.hidTask usbDeviceState isReadWriteAllowed) =
            sendNextReport h false := by
          rw [hstate, hbusy]
          rfl
        rw [hstep, sendNextReport_busy]
        refine ⟨?_, rfl⟩
        dsimp only
        split_ifs <;> rfl
      · have hstep : hidMachine.step h (.hidTask usbDeviceState isReadWriteAllowed) = (h, []) :=
          if_pos hstate
        rw [hstep]
        exact ⟨rfl, rfl⟩
  | startOfFrame =>
      refine ⟨?_, rfl⟩
      simp only [hidMachine, startOfFrame]
      split_ifs <;> rfl
  | setIdle wValue => exact ⟨rfl, rfl⟩
  | refReportData report => exact ⟨rfl, rfl⟩

/-- Each step does with the last report sent what the sender does with what the
step offers. -/
theorem step_fed (i : HidInput) :
    (hidMachine.step h i).1.prevSixaxisReportData =
        sender.state h.prevSixaxisReportData (offered h i) ∧
      (hidMachine.step h i).2.map id = sender.outputs h.prevSixaxisReportData (offered h i) := by
  rw [List.map_id]
  by_cases hi : i = ready
  · subst hi
    rw [offered, if_pos rfl]
    exact sendNextReport_ready h
  · rw [offered, if_neg hi]
    exact step_other h hi

variable {h}

/-- The last report sent is sent again only when the idle period has elapsed. -/
theorem elapsed_of_repeated {i : HidInput}
    (hmem : h.prevSixaxisReportData ∈ (hidMachine.step h i).2) : Elapsed h := by
  by_cases hi : i = ready
  · subst hi
    have hsent := (sendNextReport_ready h).2
    rw [Machine.outputs_cons, Machine.outputs_nil, List.append_nil] at hsent
    have hmem' : h.prevSixaxisReportData ∈ (sendNextReport h true).2 := hmem
    rw [hsent] at hmem'
    by_contra helapsed
    by_cases hnew : h.device.refReportData = h.prevSixaxisReportData
    · rw [sender_silent (by simp [hnew, helapsed])] at hmem'
      exact List.not_mem_nil hmem'
    · rw [sender_sends (Or.inl hnew)] at hmem'
      exact hnew (List.mem_singleton.mp hmem').symm
  · rw [(step_other h hi).2] at hmem
    exact absurd hmem List.not_mem_nil

end Step

section Run
variable (h : Hid) (inputs : List HidInput)

/-- A run sends what the sender sends of all that its polls offer. -/
theorem run_fed :
    (hidMachine.state h inputs).prevSixaxisReportData =
        sender.state h.prevSixaxisReportData ((hidMachine.noting offered).outputs h inputs) ∧
      hidMachine.outputs h inputs =
        sender.outputs h.prevSixaxisReportData ((hidMachine.noting offered).outputs h inputs) := by
  have hfed := Machine.fed_run (M := hidMachine) (N := sender) step_fed h inputs
  rwa [List.map_id] at hfed

/-- Of what the polls offer the reports are those that they could send. -/
theorem offered_available :
    ((hidMachine.noting offered).outputs h inputs).map Prod.fst = available h inputs := by
  have hnote : (fun h i => (offered h i).map Prod.fst) =
      fun (h : Hid) i => if i = ready then [h.device.refReportData] else [] := by
    funext h i
    unfold offered
    split_ifs <;> rfl
  rw [Machine.noting_map, hnote, available]

end Run

/-- In every run from power-on the reports sent are the reference reports at the
polls that could send, up to repetitions, and a report is repeated only when the
idle period has elapsed. -/
theorem hidStart_deliversChanges (device : Device) (inputs : List HidInput) :
    DeliversChanges (hidStart device) inputs where
  sequence := by
    rw [(run_fed (hidStart device) inputs).2, ← offered_available]
    exact sender_destutter zeroReport _
  repeated := by
    intro before i after _ report hreport hlast
    obtain ⟨hprev, hsent⟩ := run_fed (hidStart device) before
    have hprevious : (zeroReport :: hidMachine.outputs (hidStart device) before).getLast? =
        some (hidMachine.state (hidStart device) before).prevSixaxisReportData := by
      rw [hsent, hprev]
      exact sender_last zeroReport _
    have hsame : report = (hidMachine.state (hidStart device) before).prevSixaxisReportData :=
      Option.some.inj (hlast.symm.trans hprevious)
    rw [hsame] at hreport
    exact elapsed_of_repeated hreport

end DiyPs3Controller.SixpairEmu
