import DiyPs3Controller.SixpairEmu.HostConversation

/-!
# The main program of the emulator

`main` calls its two tasks in three loops, and writes the PS3 button between
them. It hands reports to the endpoint only in the configuration that the host has
set since the last bus reset, and of the button at most one press: exactly when a
call in the second loop finds the device configured and the endpoint ready. What
becomes of a report in the endpoint is left to the host and to the bus.
-/

namespace DiyPs3Controller.SixpairEmu

open ChangeFeeds UsbDevice

/-- One round of the loops, with the interrupts before and behind the call of `HID_Task`,
the readiness of the endpoint, and the SETUP packet that `USB_USBTask` finds. -/
structure Round where
  before : List GenFlags
  isReadWriteAllowed : Bool
  between : List GenFlags
  pending : Option Exchange
  deriving DecidableEq, Repr

def Round.occurrences (r : Round) : List Occurrence :=
  r.before.map .interrupt ++ [.hidTask r.isReadWriteAllowed] ++ r.between.map .interrupt ++
    [.usbTask r.pending]

/-- The rounds of a loop. -/
def loop (rounds : List Round) : List Occurrence := rounds.flatMap Round.occurrences

/-! The loops of `main`, as far as the rounds go: a button is written when all rounds of
the loop before it are done. -/

def firstLoop (rounds : List Round) : List Occurrence := loop (rounds.take 2000)

def secondLoop (rounds : List Round) : List Occurrence :=
  if rounds.length < 2000 then []
  else .psButton 0x01#8 :: loop ((rounds.drop 2000).take 1000)

def thirdLoop (rounds : List Round) : List Occurrence :=
  if rounds.length < 3000 then [] else .psButton 0x00#8 :: loop (rounds.drop 3000)

/-- `main`, behind its start. -/
def main (rounds : List Round) : List Occurrence :=
  firstLoop rounds ++ secondLoop rounds ++ thirdLoop rounds

/-- `buffer[4]` is in the report. -/
theorem psButton_lt : 4 < 50 := by decide

/-- The reference report with the PS3 button released, and with it pressed. -/
def released : Report := refReportData
def pressed : Report := refReportData.set 4 0x01#8 psButton_lt

def reportOf : Shown → Option Report
  | .report report => some report
  | _ => none

/-- The reports that a run hands to the endpoint. -/
def reports (outcome : Except Ending UsbDevice) (occurrences : List Occurrence) : List Report :=
  (usbDevice.outputs outcome occurrences).filterMap reportOf

/-- A call of `HID_Task` finds the device configured and the endpoint ready. -/
def Polled (outcome : Except Ending UsbDevice) (occurrences : List Occurrence) : Prop :=
  ∃ before after s, occurrences = before ++ .hidTask true :: after ∧
    usbDevice.state outcome before = .ok s ∧ s.usbDeviceState = .configured

/-! ## Between the calls -/

/-- The idle period is a whole rate, of 4 ms each. -/
def Timed (d : Device) : Prop := ∃ wValue : U16, d.idleCount = (wValue &&& 0xFF00) >>> 6

/-- There is one configuration to set. -/
def Numbered (s : UsbDevice) : Prop := s.usbConfigurationNumber ≤ fixedNumConfigurations

/-- Between two calls of the main program a configured device has a configuration,
and with it its endpoints open. -/
structure Settled (s : UsbDevice) : Prop where
  configured : s.usbDeviceState = .configured → s.usbConfigurationNumber ≠ 0#8
  opened : s.usbConfigurationNumber ≠ 0#8 → (s.endpoints sixaxisInEpnum).epen = true

/-- What a request or an interrupt leaves: the last report sent, the next one, and a
device that keeps to its configuration and its idle rate and is settled. -/
structure Untouched (s s' : UsbDevice) : Prop where
  previous : s'.hid.prevSixaxisReportData = s.hid.prevSixaxisReportData
  reference : s'.hid.device.refReportData = s.hid.device.refReportData
  timed : Timed s.hid.device → Timed s'.hid.device
  numbered : Numbered s → Numbered s'
  settled : Settled s → Settled s'

section Keeps
variable {s s' s'' : UsbDevice}

theorem Untouched.trans (h : Untouched s s') (h' : Untouched s' s'') : Untouched s s'' where
  previous := h'.previous.trans h.previous
  reference := h'.reference.trans h.reference
  timed := h'.timed ∘ h.timed
  numbered := h'.numbered ∘ h.numbered
  settled := h'.settled ∘ h.settled

theorem Untouched.refl (s : UsbDevice) : Untouched s s := ⟨rfl, rfl, id, id, id⟩

/-- Another state than the configured one may be written at any time. -/
theorem Untouched.of_state
    (hprevious : s'.hid.prevSixaxisReportData = s.hid.prevSixaxisReportData)
    (hreference : s'.hid.device.refReportData = s.hid.device.refReportData)
    (htimed : Timed s.hid.device → Timed s'.hid.device)
    (hnumber : s'.usbConfigurationNumber = s.usbConfigurationNumber)
    (hendpoints : s'.endpoints = s.endpoints) (hstate : s'.usbDeviceState ≠ .configured) :
    Untouched s s' := by
  refine ⟨hprevious, hreference, htimed, fun h => ?_, fun h => ⟨fun hconfigured => ?_, ?_⟩⟩
  · rw [Numbered, hnumber]
    exact h
  · exact absurd hconfigured hstate
  · rw [hnumber, hendpoints]
    exact h.opened

/-- The state that a configuration gives is configured when there is one. -/
theorem stateOf_configured {number : U8} (h : stateOf number = .configured) : number ≠ 0#8 := by
  intro hzero
  rw [stateOf, if_neg (not_not.mpr hzero)] at h
  cases h

variable (s)

theorem untouched_genVect (f : GenFlags) : Untouched s (s.genVect f) := by
  have hvbus : Untouched s (s.vbusInterrupt f) := by
    unfold UsbDevice.vbusInterrupt
    split_ifs
    · exact .of_state rfl rfl id rfl rfl (by simp [UsbDevice.connect])
    · exact .of_state rfl rfl id rfl rfl (by simp)
    · exact .refl s
  have hsuspend (s : UsbDevice) : Untouched s (s.suspendInterrupt f) := by
    unfold UsbDevice.suspendInterrupt
    split_ifs
    · exact .of_state rfl rfl id rfl rfl (by simp)
    · exact .refl s
  have hwakeup (s : UsbDevice) : Untouched s (s.wakeupInterrupt f) := by
    unfold UsbDevice.wakeupInterrupt
    split_ifs
    · exact ⟨rfl, rfl, id, id, fun h => ⟨stateOf_configured, h.opened⟩⟩
    · exact .refl s
  have hreset (s : UsbDevice) : Untouched s (s.resetInterrupt f) := by
    unfold UsbDevice.resetInterrupt
    split_ifs
    · have hnumbered : (0#8 : U8) ≤ fixedNumConfigurations := by decide
      refine ⟨rfl, rfl, id, fun _ => hnumbered, fun _ => ⟨fun hstate => ?_, fun hzero => ?_⟩⟩
      · cases hstate
      · exact absurd rfl hzero
    · exact .refl s
  have hsof (s : UsbDevice) : Untouched s (s.sofInterrupt f) := by
    unfold UsbDevice.sofInterrupt startOfFrame
    split_ifs
    · exact ⟨rfl, rfl, id, id, fun h => ⟨h.configured, h.opened⟩⟩
    · exact .refl s
    · exact .refl s
  exact (((hvbus.trans (hsuspend _)).trans (hwakeup _)).trans (hreset _)).trans (hsof _)

theorem untouched_interrupts (flags : List GenFlags) : Untouched s (s.interrupts flags) := by
  induction flags generalizing s with
  | nil => exact .refl s
  | cons f rest ih => exact (untouched_genVect s f).trans (ih (s.genVect f))

end Keeps

/-! ## The requests -/

/-- A handler leaves the reports alone, and sends none. -/
structure Silences (s : UsbDevice) (served : UsbDevice × List Shown) : Prop where
  untouched : Untouched s served.1
  none_sent : served.2.filterMap reportOf = []

section Handlers
variable {s s' : UsbDevice} {x : Exchange}

theorem reportOf_interrupts (flags : List GenFlags) :
    (flags.map Shown.interrupt).filterMap reportOf = [] := by
  rw [List.filterMap_map]
  exact List.filterMap_eq_nil_iff.mpr fun _ _ => rfl

theorem Silences.refused (s : UsbDevice) : Silences s (s, []) := ⟨.refl s, rfl⟩

theorem Silences.of_acknowledge {done : List Shown} (h : Untouched s s')
    (hdone : done.filterMap reportOf = []) : Silences s (s'.acknowledge x done) where
  untouched := h.trans (untouched_interrupts s' _)
  none_sent := by
    rw [UsbDevice.acknowledge, List.cons_append, List.filterMap_cons_none rfl,
      List.filterMap_append, hdone, reportOf_interrupts]
    rfl

end Handlers

/-! ## The runs -/

/-- What a call of `HID_Task` offers to the endpoint, and whether it must be sent. -/
def offer : Except Ending UsbDevice → Occurrence → List (Report × Bool)
  | .ok s, .hidTask true =>
      if s.usbDeviceState = .configured then
        [(s.hid.device.refReportData, decide (Elapsed s.hid))]
      else []
  | _, _ => []

def offers (outcome : Except Ending UsbDevice) (occurrences : List Occurrence) :
    List (Report × Bool) :=
  (usbDevice.noting offer).outputs outcome occurrences

/-- The last report sent; a device that has stopped sends none. -/
def previous : Except Ending UsbDevice → Report
  | .ok s => s.hid.prevSixaxisReportData
  | .error _ => zeroReport

/-- The next report is this one. -/
def Refers (v : Report) (outcome : Except Ending UsbDevice) : Prop :=
  ∀ s, outcome = .ok s → s.hid.device.refReportData = v

section Occur
variable {s s' : UsbDevice} {shown : List Shown} {o : Occurrence}

end Occur

section Run
variable {outcome : Except Ending UsbDevice} {occurrences : List Occurrence}

/-- A run in which the next report is this one. -/
structure Phase (v : Report) (outcome : Except Ending UsbDevice) (occurrences : List Occurrence) :
    Prop where
  sent : ∀ report ∈ reports outcome occurrences, report = v
  polled : previous outcome ≠ v →
    (reports outcome occurrences ≠ [] ↔ Polled outcome occurrences)
  refers : Refers v (usbDevice.state outcome occurrences)
  last : previous (usbDevice.state outcome occurrences) = zeroReport ∨
    Polled outcome occurrences ∧ previous (usbDevice.state outcome occurrences) = v ∨
    ¬Polled outcome occurrences ∧
      previous (usbDevice.state outcome occurrences) = previous outcome

end Run

/-! ## The three loops -/

/-- The device behind a run from its start. -/
def behind (eeprom : Eeprom) (occurrences : List Occurrence) : Except Ending UsbDevice :=
  usbDevice.state (.ok (start eeprom)) occurrences

section Program
variable {eeprom : Eeprom} {rounds : List Round} {occurrences : List Occurrence}

/-- An idle period that is set is one in the host's units. -/
theorem Timed.idleRate {d : Device} (h : Timed d) (hidle : d.idleCount ≠ hidIdleChangesonly) :
    ((d.idleCount >>> 2).setWidth 8 : U8) ≠ 0#8 := by
  obtain ⟨wValue, hvalue⟩ := h
  intro hzero
  rw [hvalue, idleRate_setIdle] at hzero
  refine hidle (hvalue.trans (BitVec.eq_of_getLsbD_eq fun i hi => ?_))
  rw [BitVec.getLsbD_ushiftRight, BitVec.getLsbD_and, hidIdleChangesonly, BitVec.getLsbD_zero]
  -- The two low bits are masked, the others are bits of the rate or beyond the word.
  by_cases hlow : i < 2
  · have hmask : (0xFF00 : U16).getLsbD (6 + i) = false := by
      have hall : (List.range 2).all fun i => !(0xFF00 : U16).getLsbD (6 + i) := by decide
      simpa using List.all_eq_true.mp hall i (List.mem_range.mpr hlow)
    rw [hmask, Bool.and_false]
  · by_cases hword : 6 + i < 16
    · have hbit := congrArg (fun rate : U8 => rate.getLsbD (i - 2)) hzero
      have hindex : 8 + (i - 2) = 6 + i := by omega
      have hin : i - 2 < 8 := by omega
      simp only [BitVec.getLsbD_setWidth, BitVec.getLsbD_ushiftRight, BitVec.getLsbD_zero, hindex,
        hin, decide_true, Bool.true_and] at hbit
      rw [hbit, Bool.false_and]
    · rw [BitVec.getLsbD_of_ge wValue (6 + i) (not_lt.mp hword), Bool.false_and]

/-- The reports of a loop are as many as there are, and some if a call could send them. -/
structure Counted (v : Report) (outcome : Except Ending UsbDevice) (occurrences : List Occurrence)
    (n : Nat) : Prop where
  reports_eq : reports outcome occurrences = List.replicate n v
  polled : previous outcome ≠ v → (n ≠ 0 ↔ Polled outcome occurrences)

theorem Phase.counted {v : Report} {outcome : Except Ending UsbDevice}
    (h : Phase v outcome occurrences) :
    ∃ n, Counted v outcome occurrences n := by
  refine ⟨(reports outcome occurrences).length, List.eq_replicate_of_mem h.sent, ?_⟩
  intro hprevious
  rw [← h.polled hprevious, ne_eq, List.length_eq_zero_iff]

end Program

end DiyPs3Controller.SixpairEmu
