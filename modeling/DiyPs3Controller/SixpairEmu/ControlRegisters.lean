import DiyPs3Controller.Foundations.LastWrites
import DiyPs3Controller.SixpairEmu.Requests
import DiyPs3Controller.SixpairEmu.UsbDevice

/-!
# What the host has written it reads again

Of all that the device has done only the last writes count: the configuration,
the features, the protocol and the idle rate that the host reads are those that
it has set last, or that a bus reset or a new connection has put in their place.
The other replies are those of the emulator behind the class requests handled so
far. Interrupts may be taken in all waits of the requests.
-/

namespace DiyPs3Controller.SixpairEmu

open UsbDevice

/-- What the host can read of the device, the reports and the descriptors apart. -/
@[ext] structure HostView where
  configuration : U8
  remoteWakeup : Bool
  reportProtocol : Bool
  idleRate : U8
  opened : Bool
  halted : Fin 8 → Bool

/-! ## What is written -/

/-- The feature is one of the device. -/
def OfDevice (r : SetupPacket) : Prop :=
  r.bmRequestType &&& controlReqtypeRecipient = reqrecDevice

instance : DecidablePred OfDevice := fun _ => inferInstanceAs (Decidable (_ = _))

/-- The low byte of `wValue`: a configuration or the number of a feature. -/
def lowValue (r : SetupPacket) : U8 := r.wValue.setWidth 8

def writesConfiguration : Shown → Option U8
  | .interrupt f => if f.eorsti then some 0#8 else none
  | .accepted r =>
      if requestCase r = .setConfiguration then some (lowValue r) else none
  | _ => none

def writesRemoteWakeup : Shown → Option Bool
  | .accepted r =>
      if requestCase r = .clearSetFeature ∧ OfDevice r then some (r.bRequest = reqSetFeature)
      else none
  | _ => none

def writesProtocol : Shown → Option Bool
  | .interrupt f => if f.vbusti && f.vbus then some true else none
  | .handled r =>
      if r.bRequest = reqSetProtocol ∧ r.bmRequestType = classToDevice then
        some (r.wValue ≠ 0#16)
      else none
  | _ => none

def writesIdleRate : Shown → Option U8
  | .handled r =>
      if r.bRequest = reqSetIdle ∧ r.bmRequestType = classToDevice then
        some ((r.wValue >>> 8).setWidth 8)
      else none
  | _ => none

def writesOpened : Shown → Option Bool
  | .interrupt f => if f.eorsti then some false else none
  | .configurationChanged => some true
  | _ => none

def writesHalted (n : Fin 8) : Shown → Option Bool
  | .interrupt f => if f.eorsti then some (haltLeft f.stallrq n) else none
  | .stallrq m value => if m = n then some value else none
  | _ => none

/-- The last writes of a history, over what `USB_Init` has left. -/
def viewOf (history : List Shown) : HostView where
  configuration := lastWrite writesConfiguration 0#8 history
  remoteWakeup := lastWrite writesRemoteWakeup false history
  reportProtocol := lastWrite writesProtocol true history
  idleRate := lastWrite writesIdleRate 125#8 history
  opened := lastWrite writesOpened false history
  halted n := lastWrite (writesHalted n) false history

/-- The view behind one more thing that the device does. -/
def HostView.write (v : HostView) (e : Shown) : HostView where
  configuration := (writesConfiguration e).getD v.configuration
  remoteWakeup := (writesRemoteWakeup e).getD v.remoteWakeup
  reportProtocol := (writesProtocol e).getD v.reportProtocol
  idleRate := (writesIdleRate e).getD v.idleRate
  opened := (writesOpened e).getD v.opened
  halted n := (writesHalted n e).getD (v.halted n)

/-- The class requests and the writes to the PS3 button, as the emulator has them. -/
def emulatorEvent : Shown → Option Event
  | .handled r => some (.request r)
  | .psButton value => some (.psButton value)
  | _ => none

/-- The emulator behind a history. -/
def emulated (eeprom : Eeprom) (history : List Shown) : Except Fault Device :=
  emulator.state (.ok (powerUp eeprom)) (history.filterMap emulatorEvent)

/-! ## What is answered -/

/-- There is a descriptor for `wValue`. -/
def HasDescriptor (wValue : U16) : Prop :=
  let descriptorType : U8 := (wValue >>> 8).setWidth 8
  let descriptorNumber : U8 := (wValue &&& 0xFF).setWidth 8
  descriptorType = 0x01#8 ∨ descriptorType = 0x02#8 ∨
    (descriptorType = 0x03#8 ∧
      (descriptorNumber = 0x00#8 ∨ descriptorNumber = 0x01#8 ∨ descriptorNumber = 0x02#8)) ∨
    descriptorType = 0x21#8 ∨ descriptorType = 0x22#8

/-- The feature can be set and cleared: the remote wake-up of the device, and any
feature of an endpoint but the halt of endpoint 0. -/
def KnownFeature (r : SetupPacket) : Prop :=
  if OfDevice r then lowValue r = featureRemoteWakeup
  else lowValue r ≠ featureEndpointHalt ∨
    uenum (r.wIndex.setWidth 8 &&& 0x07#8) ≠ endpointControlep

/-- A request that the device answers. -/
def Supported (r : SetupPacket) : Prop :=
  match requestCase r with
  | .clearSetFeature => KnownFeature r
  | .getDescriptor => HasDescriptor r.wValue
  | .setConfiguration => lowValue r ≤ fixedNumConfigurations
  | .unhandled => IsClassRequest r.toControlRequest
  | _ => True

/-- The data stage of a class request to the host. -/
def classReply (v : HostView) (d : Device) (r : SetupPacket) : Option InData :=
  if r.bmRequestType = classToHost then
    if r.bRequest = reqGetReport then some (getReport d r.toControlRequest).2
    else if r.bRequest = reqGetProtocol then some [some (if v.reportProtocol then 1#8 else 0#8)]
    else if r.bRequest = reqGetIdle then some [some v.idleRate]
    else none
  else none

/-- The data stage of a request to the host, from what the host can read of the
device and from the emulator. -/
def replyTo (v : HostView) (d : Device) (r : SetupPacket) : Option InData :=
  match requestCase r with
  | .getStatus =>
      if r.bmRequestType = reqdirDevicetohost ||| reqtypeStandard ||| reqrecDevice then
        some (statusData (if v.remoteWakeup then featureRemoteWakeupEnabled else 0#8))
      else
        some (statusData
          (if v.halted (uenum ((r.wIndex &&& 0xFF).setWidth 8)) then 1#8 else 0#8))
  | .getDescriptor =>
      (callbackGetDescriptor d r.wValue).map fun descriptor =>
        writeControlStream (descriptor.map some) (.ofNat 16 descriptor.length) r.wLength
  | .getConfiguration => some [some v.configuration]
  | .unhandled => classReply v d r
  | _ => none

/-- The data stage that the host gets behind a history. -/
def dataStage (eeprom : Eeprom) (history : List Shown) (r : SetupPacket) : Option InData :=
  match emulated eeprom history with
  | .ok d => replyTo (viewOf history) d r
  | .error _ => none

def sentData : Shown → Option InData
  | .sent data => some data
  | _ => none

/-! ## The view of a history -/

section View
variable (history : List Shown)

theorem viewOf_concat (e : Shown) : viewOf (history ++ [e]) = (viewOf history).write e := by
  ext <;> simp only [viewOf, HostView.write, lastWrite_concat]

theorem emulated_concat_none (eeprom : Eeprom) {e : Shown} (h : emulatorEvent e = none) :
    emulated eeprom (history ++ [e]) = emulated eeprom history := by
  rw [emulated, List.filterMap_append, List.filterMap_cons_none h, List.filterMap_nil,
    List.append_nil, emulated]

theorem emulated_concat_some (eeprom : Eeprom) {e : Shown} {i : Event}
    (h : emulatorEvent e = some i) :
    emulated eeprom (history ++ [e]) = (emulator.step (emulated eeprom history) i).1 := by
  rw [emulated, List.filterMap_append, List.filterMap_cons_some h, List.filterMap_nil,
    Machine.state_append, emulated]
  rfl

end View

/-- The variables of the emulator but the protocol, which a connection writes too. -/
def Device.forget (d : Device) : Device := { d with usingReportProtocol := true }

/-- What the host can read of the device. -/
def UsbDevice.view (s : UsbDevice) : HostView where
  configuration := s.usbConfigurationNumber
  remoteWakeup := s.usbRemoteWakeupEnabled
  reportProtocol := s.hid.device.usingReportProtocol
  idleRate := (s.hid.device.idleCount >>> 2).setWidth 8
  opened := (s.endpoints sixaxisInEpnum).epen
  halted n := (s.endpoints n).stallrq

/-- What no request and no interrupt changes: the two interrupts stay enabled, and of
the endpoints but endpoint 0 both data endpoints are open or none is. -/
structure UsbDevice.Sound (s : UsbDevice) : Prop where
  vbus : s.enabled.vbus = true
  eorsti : s.enabled.eorsti = true
  busPowered : s.usbCurrentlySelfPowered = false
  opened : (s.endpoints sixaxisOutEpnum).epen = (s.endpoints sixaxisInEpnum).epen
  closed : ∀ n, n ≠ endpointControlep → n ≠ sixaxisInEpnum → n ≠ sixaxisOutEpnum →
    (s.endpoints n).epen = false

/-- The device is what the history says. -/
structure Recorded (eeprom : Eeprom) (history : List Shown) (s : UsbDevice) : Prop where
  view : s.view = viewOf history
  device : (emulated eeprom history).map Device.forget = .ok s.hid.device.forget
  sound : s.Sound

/-! ## Interrupts -/

section Interrupt
variable {s : UsbDevice} (f : GenFlags)

/-- What a test of the interrupt leaves: the variables of the emulator but the
protocol, and what no request and no interrupt changes. -/
def Leaves (s s' : UsbDevice) : Prop :=
  s'.hid.device.forget = s.hid.device.forget ∧ (s.Sound → s'.Sound)

theorem Leaves.trans {s s' s'' : UsbDevice} (h : Leaves s s') (h' : Leaves s' s'') :
    Leaves s s'' :=
  ⟨h'.1.trans h.1, fun hs => h'.2 (h.2 hs)⟩

/-- A test that changes only the state, the device's protocol, its ticks and the
enable bits of the other interrupts. -/
theorem Leaves.of_endpoints {s s' : UsbDevice}
    (hdevice : s'.hid.device.forget = s.hid.device.forget)
    (hpowered : s'.usbCurrentlySelfPowered = s.usbCurrentlySelfPowered)
    (hvbus : s'.enabled.vbus = s.enabled.vbus) (heorsti : s'.enabled.eorsti = s.enabled.eorsti)
    (hendpoints : s'.endpoints = s.endpoints) : Leaves s s' := by
  refine ⟨hdevice, fun hs => ⟨?_, ?_, ?_, ?_, ?_⟩⟩
  · rw [hvbus, hs.vbus]
  · rw [heorsti, hs.eorsti]
  · rw [hpowered, hs.busPowered]
  · rw [hendpoints, hs.opened]
  · rw [hendpoints]
    exact hs.closed

theorem vbusInterrupt_view (hs : s.Sound) :
    (s.vbusInterrupt f).view =
        { s.view with reportProtocol := (f.vbusti && f.vbus) || s.view.reportProtocol } ∧
      Leaves s (s.vbusInterrupt f) := by
  unfold UsbDevice.vbusInterrupt
  rw [hs.vbus, Bool.and_true]
  split_ifs with hflag hlevel
  · rw [hflag, hlevel]
    exact ⟨rfl, .of_endpoints rfl rfl rfl rfl rfl⟩
  · rw [hflag, Bool.eq_false_iff.mpr hlevel]
    exact ⟨rfl, .of_endpoints rfl rfl rfl rfl rfl⟩
  · rw [Bool.eq_false_iff.mpr hflag]
    exact ⟨rfl, .of_endpoints rfl rfl rfl rfl rfl⟩

theorem suspendInterrupt_view :
    (s.suspendInterrupt f).view = s.view ∧ Leaves s (s.suspendInterrupt f) := by
  unfold UsbDevice.suspendInterrupt
  split_ifs
  · exact ⟨rfl, .of_endpoints rfl rfl rfl rfl rfl⟩
  · exact ⟨rfl, .of_endpoints rfl rfl rfl rfl rfl⟩

theorem wakeupInterrupt_view :
    (s.wakeupInterrupt f).view = s.view ∧ Leaves s (s.wakeupInterrupt f) := by
  unfold UsbDevice.wakeupInterrupt
  split_ifs
  · exact ⟨rfl, .of_endpoints rfl rfl rfl rfl rfl⟩
  · exact ⟨rfl, .of_endpoints rfl rfl rfl rfl rfl⟩

theorem sofInterrupt_view :
    (s.sofInterrupt f).view = s.view ∧ Leaves s (s.sofInterrupt f) := by
  have hdevice : (startOfFrame s.hid).device = s.hid.device := by
    unfold startOfFrame
    split_ifs <;> rfl
  unfold UsbDevice.sofInterrupt
  split_ifs
  · refine ⟨?_, .of_endpoints ?_ rfl rfl rfl rfl⟩
    · simp only [UsbDevice.view, hdevice]
    · exact congrArg Device.forget hdevice
  · exact ⟨rfl, .of_endpoints rfl rfl rfl rfl rfl⟩

/-- The endpoints behind a bus reset: endpoint 0 alone is open. -/
theorem resetEndpoints (endpoints : Fin 8 → Endpoint) (stallrq : U8) (n : Fin 8) :
    let cleared := clearEndpoints endpoints stallrq
    let left := Function.update cleared endpointControlep
      ((cleared endpointControlep).configure epTypeControl endpointDirOut)
    (left n).stallrq = haltLeft stallrq n ∧
      (n ≠ endpointControlep → (endpoints n).epen = false ∨ n.val < endpointTotalEndpoints →
        (left n).epen = false) := by
  dsimp only
  by_cases hn : n = endpointControlep
  · subst hn
    rw [Function.update_self]
    exact ⟨rfl, fun h => absurd rfl h⟩
  · rw [Function.update_of_ne hn]
    unfold clearEndpoints
    dsimp only
    split_ifs with hlast
    · exact ⟨rfl, fun _ _ => rfl⟩
    · exact ⟨rfl, fun _ h => h.resolve_right hlast⟩

theorem resetInterrupt_view (hs : s.Sound) :
    (s.resetInterrupt f).view =
        { s.view with
          configuration := if f.eorsti then 0#8 else s.view.configuration
          opened := !f.eorsti && s.view.opened
          halted := fun n => if f.eorsti then haltLeft f.stallrq n else s.view.halted n } ∧
      Leaves s (s.resetInterrupt f) := by
  unfold UsbDevice.resetInterrupt
  rw [hs.eorsti, Bool.and_true]
  split_ifs with hflag
  · have hreset := resetEndpoints s.endpoints f.stallrq
    dsimp only at hreset ⊢
    refine ⟨?_, rfl, fun _ => ⟨hs.vbus, hs.eorsti, hs.busPowered, ?_, ?_⟩⟩
    · ext n <;> simp only [UsbDevice.view, hflag, Bool.not_true, Bool.false_and]
      · exact (hreset sixaxisInEpnum).2 (by decide) (Or.inr (by decide))
      · exact (hreset n).1
    · rw [(hreset sixaxisOutEpnum).2 (by decide) (Or.inr (by decide)),
        (hreset sixaxisInEpnum).2 (by decide) (Or.inr (by decide))]
    · intro n hcontrol hin hout
      exact (hreset n).2 hcontrol (Or.inl (hs.closed n hcontrol hin hout))
  · rw [Bool.eq_false_iff.mpr hflag]
    exact ⟨rfl, .of_endpoints rfl rfl rfl rfl rfl⟩

/-- The interrupt writes what its flags say. -/
theorem genVect_view (hs : s.Sound) :
    (s.genVect f).view = s.view.write (.interrupt f) ∧ Leaves s (s.genVect f) := by
  obtain ⟨hvbus, hleaves⟩ := vbusInterrupt_view f hs
  obtain ⟨hsuspend, hleaves'⟩ := suspendInterrupt_view (s := s.vbusInterrupt f) f
  have hafter := hleaves.trans hleaves'
  obtain ⟨hwakeup, hleaves'⟩ :=
    wakeupInterrupt_view (s := (s.vbusInterrupt f).suspendInterrupt f) f
  replace hafter := hafter.trans hleaves'
  obtain ⟨hreset, hleaves'⟩ := resetInterrupt_view f (hafter.2 hs)
  replace hafter := hafter.trans hleaves'
  obtain ⟨hsof, hleaves'⟩ := sofInterrupt_view (s :=
    (((s.vbusInterrupt f).suspendInterrupt f).wakeupInterrupt f).resetInterrupt f) f
  refine ⟨?_, hafter.trans hleaves'⟩
  rw [UsbDevice.genVect, hsof, hreset, hwakeup, hsuspend, hvbus]
  cases hflag : f.eorsti <;> cases hconnect : f.vbusti && f.vbus <;>
    simp [HostView.write, writesConfiguration, writesRemoteWakeup, writesProtocol,
      writesIdleRate, writesOpened, writesHalted, hflag, hconnect]

end Interrupt

/-! ## Class requests -/

/-- What a class request does, branch by branch. -/
inductive ClassStep (d : Device) (r : ControlRequest) : Except Fault (Device × List InData) → Prop
  | getReport (h : r.IsGetReport) :
      ClassStep d r (.ok ((getReport d r).1, [(SixpairEmu.getReport d r).2]))
  | setReport (h : r.IsSetReport) : ClassStep d r ((setReport d r).map fun d => (d, []))
  | getProtocol (h : r.bRequest = reqGetProtocol ∧ r.bmRequestType = classToHost) :
      ClassStep d r (.ok (d, [[some (if d.usingReportProtocol then 1#8 else 0#8)]]))
  | setProtocol (h : r.bRequest = reqSetProtocol ∧ r.bmRequestType = classToDevice) :
      ClassStep d r (.ok ({ d with usingReportProtocol := r.wValue ≠ 0#16 }, []))
  | setIdle (h : r.bRequest = reqSetIdle ∧ r.bmRequestType = classToDevice) :
      ClassStep d r (.ok (setIdle d r.wValue, []))
  | getIdle (h : r.bRequest = reqGetIdle ∧ r.bmRequestType = classToHost) :
      ClassStep d r (.ok (d, [[some ((d.idleCount >>> 2).setWidth 8)]]))
  | ignored (h : ¬IsClassRequest r) : ClassStep d r (.ok (d, []))

theorem not_isClassRequest {r : ControlRequest} {type : U8}
    (h : classRequestType r.bRequest = some type) (hne : ¬r.bmRequestType = type) :
    ¬IsClassRequest r :=
  fun hclass => hne (Option.some.inj (hclass.symm.trans h))

/-- Every class request does what its branch says. -/
theorem classStep (d : Device) (r : ControlRequest) :
    ClassStep d r (unhandledControlRequest d r) := by
  unfold unhandledControlRequest
  split
  next hrequest =>
    split
    next htype => exact .getReport ⟨hrequest, htype⟩
    next htype => exact .ignored (not_isClassRequest (by rw [hrequest]; rfl) htype)
  next hget =>
  split
  next hrequest =>
    split
    next htype => exact .setReport ⟨hrequest, htype⟩
    next htype => exact .ignored (not_isClassRequest (by rw [hrequest]; rfl) htype)
  next hset =>
  split
  next hrequest =>
    split
    next htype => exact .getProtocol ⟨hrequest, htype⟩
    next htype => exact .ignored (not_isClassRequest (by rw [hrequest]; rfl) htype)
  next hgetProtocol =>
  split
  next hrequest =>
    split
    next htype => exact .setProtocol ⟨hrequest, htype⟩
    next htype => exact .ignored (not_isClassRequest (by rw [hrequest]; rfl) htype)
  next hsetProtocol =>
  split
  next hrequest =>
    split
    next htype => exact .setIdle ⟨hrequest, htype⟩
    next htype => exact .ignored (not_isClassRequest (by rw [hrequest]; rfl) htype)
  next hsetIdle =>
  split
  next hrequest =>
    split
    next htype => exact .getIdle ⟨hrequest, htype⟩
    next htype => exact .ignored (not_isClassRequest (by rw [hrequest]; rfl) htype)
  next hgetIdle =>
    refine .ignored ?_
    simp [IsClassRequest, classRequestType, hget, hset, hgetProtocol, hsetProtocol, hsetIdle,
      hgetIdle]

section ClassRequest
variable (d : Device) (r : ControlRequest)

/-- No buffer and no test of a GetReport reads the protocol. -/
theorem getReport_forget :
    getReport d.forget r = ((getReport d r).1.forget, (getReport d r).2) := by
  unfold getReport
  dsimp only
  have hbuffer : replyBuffer d.forget = replyBuffer d := rfl
  have hreply : d.forget.reply = d.reply := rfl
  rw [hbuffer, hreply]
  split_ifs <;> rfl

theorem setReport_forget : setReport d.forget r = (setReport d r).map Device.forget := by
  unfold setReport
  have hdata : d.forget.lastSetData = d.lastSetData := rfl
  rw [hdata]
  split_ifs
  · rfl
  · cases readDataStage r.wLength 0#8 d.lastSetData r.data with
    | error fault => rfl
    | ok lastSetData =>
        refine congrArg Except.ok ?_
        unfold commit
        dsimp only
        split_ifs <;> rfl

/-- What a class request leaves does not depend on the protocol, the protocol apart. -/
theorem unhandledControlRequest_forget :
    (unhandledControlRequest d.forget r).map (fun handled => handled.1.forget) =
      (unhandledControlRequest d r).map fun handled => handled.1.forget := by
  unfold unhandledControlRequest
  rw [getReport_forget, setReport_forget]
  split_ifs
  any_goals rfl
  cases setReport d r <;> rfl

end ClassRequest

/-- Of the idle period in milliseconds the host reads the rate that it has set. -/
theorem idleRate_setIdle (wValue : U16) :
    ((((wValue &&& 0xFF00) >>> 6) >>> 2).setWidth 8 : U8) = (wValue >>> 8).setWidth 8 := by
  apply BitVec.eq_of_getLsbD_eq
  intro i hi
  have hmask : (0xFF00 : U16).getLsbD (6 + (2 + i)) = true := by
    have hall : (List.range 8).all fun i => (0xFF00 : U16).getLsbD (6 + (2 + i)) := by decide
    exact List.all_eq_true.mp hall i (List.mem_range.mpr hi)
  have hindex : 6 + (2 + i) = 8 + i := by omega
  simp only [BitVec.getLsbD_setWidth, BitVec.getLsbD_ushiftRight, BitVec.getLsbD_and]
  rw [hmask, hindex, Bool.and_true]

section Writes
variable {d d' : Device} {r : ControlRequest} {sent : List InData}

/-- No branch but one writes the protocol, and no branch but one the idle period. -/
theorem writesProtocol_of_ne (h : r.bRequest ≠ reqSetProtocol) :
    writesProtocol (.handled r) = none :=
  if_neg fun hset => h hset.1

theorem writesIdleRate_of_ne (h : r.bRequest ≠ reqSetIdle) :
    writesIdleRate (.handled r) = none :=
  if_neg fun hset => h hset.1

/-- A SetReport keeps the protocol and the idle period. -/
theorem setReport_keeps (h : setReport d r = .ok d') :
    d'.usingReportProtocol = d.usingReportProtocol ∧ d'.idleCount = d.idleCount := by
  unfold setReport at h
  split_ifs at h
  · obtain rfl := Except.ok.inj h
    exact ⟨rfl, rfl⟩
  · cases hcopy : readDataStage r.wLength 0#8 d.lastSetData r.data with
    | error fault => rw [hcopy] at h; cases h
    | ok lastSetData =>
        rw [hcopy] at h
        obtain rfl := Except.ok.inj h
        unfold commit
        dsimp only
        split_ifs <;> exact ⟨rfl, rfl⟩

theorem getReport_keeps : (getReport d r).1.usingReportProtocol = d.usingReportProtocol ∧
    (getReport d r).1.idleCount = d.idleCount := by
  unfold getReport
  dsimp only
  split_ifs <;> exact ⟨rfl, rfl⟩

/-- A request that is neither `SetProtocol` nor `SetIdle` writes neither. -/
theorem writes_of_kept (hsetProtocol : r.bRequest ≠ reqSetProtocol)
    (hsetIdle : r.bRequest ≠ reqSetIdle)
    (hkept : d'.usingReportProtocol = d.usingReportProtocol ∧ d'.idleCount = d.idleCount) :
    d'.usingReportProtocol = (writesProtocol (.handled r)).getD d.usingReportProtocol ∧
      ((d'.idleCount >>> 2).setWidth 8 : U8) =
        (writesIdleRate (.handled r)).getD ((d.idleCount >>> 2).setWidth 8) := by
  rw [writesProtocol_of_ne hsetProtocol, writesIdleRate_of_ne hsetIdle, hkept.1, hkept.2]
  exact ⟨rfl, rfl⟩

/-- A class request writes what the history keeps of it. -/
theorem unhandledControlRequest_writes (h : unhandledControlRequest d r = .ok (d', sent)) :
    d'.usingReportProtocol = (writesProtocol (.handled r)).getD d.usingReportProtocol ∧
      ((d'.idleCount >>> 2).setWidth 8 : U8) =
        (writesIdleRate (.handled r)).getD ((d.idleCount >>> 2).setWidth 8) := by
  have hstep := classStep d r
  generalize unhandledControlRequest d r = out at h hstep
  cases hstep with
  | getReport hget =>
      obtain ⟨rfl, -⟩ := Prod.mk.inj (Except.ok.inj h)
      exact writes_of_kept (by rw [hget.1]; decide) (by rw [hget.1]; decide) getReport_keeps
  | setReport hset =>
      cases hcopy : setReport d r with
      | error fault => rw [hcopy] at h; cases h
      | ok d'' =>
          rw [hcopy] at h
          obtain ⟨rfl, -⟩ := Prod.mk.inj (Except.ok.inj h)
          exact writes_of_kept (by rw [hset.1]; decide) (by rw [hset.1]; decide)
            (setReport_keeps hcopy)
  | getProtocol hget =>
      obtain ⟨rfl, -⟩ := Prod.mk.inj (Except.ok.inj h)
      exact writes_of_kept (by rw [hget.1]; decide) (by rw [hget.1]; decide) ⟨rfl, rfl⟩
  | setProtocol hset =>
      obtain ⟨rfl, -⟩ := Prod.mk.inj (Except.ok.inj h)
      rw [writesProtocol, if_pos hset, writesIdleRate_of_ne (by rw [hset.1]; decide)]
      exact ⟨rfl, rfl⟩
  | setIdle hset =>
      obtain ⟨rfl, -⟩ := Prod.mk.inj (Except.ok.inj h)
      rw [writesProtocol_of_ne (by rw [hset.1]; decide), writesIdleRate, if_pos hset]
      exact ⟨rfl, idleRate_setIdle r.wValue⟩
  | getIdle hget =>
      obtain ⟨rfl, -⟩ := Prod.mk.inj (Except.ok.inj h)
      exact writes_of_kept (by rw [hget.1]; decide) (by rw [hget.1]; decide) ⟨rfl, rfl⟩
  | ignored hother =>
      obtain ⟨rfl, -⟩ := Prod.mk.inj (Except.ok.inj h)
      rw [writesProtocol, if_neg fun hset => hother (by rw [IsClassRequest, hset.1, hset.2]; rfl),
        writesIdleRate, if_neg fun hset => hother (by rw [IsClassRequest, hset.1, hset.2]; rfl)]
      exact ⟨rfl, rfl⟩

end Writes

/-- The data stage of a class request, from a view and an emulator that agree with
the device. -/
theorem unhandledControlRequest_sent {d d' d₀ : Device} {r : SetupPacket} {sent : List InData}
    {v : HostView} (h : unhandledControlRequest d r.toControlRequest = .ok (d', sent))
    (hprotocol : v.reportProtocol = d.usingReportProtocol)
    (hidle : v.idleRate = (d.idleCount >>> 2).setWidth 8) (hemulated : d₀.forget = d.forget) :
    sent = (classReply v d₀ r).toList := by
  have hstep := classStep d r.toControlRequest
  generalize unhandledControlRequest d r.toControlRequest = out at h hstep
  cases hstep with
  | getReport hget =>
      obtain ⟨-, rfl⟩ := Prod.mk.inj (Except.ok.inj h)
      have hsame : (getReport d₀ r.toControlRequest).2 = (getReport d r.toControlRequest).2 := by
        have hboth := congrArg (fun d => (getReport d r.toControlRequest).2) hemulated
        simpa only [getReport_forget] using hboth
      rw [classReply, if_pos hget.2, if_pos hget.1, hsame]
      rfl
  | setReport hset =>
      have hsent : sent = [] := by
        cases hcopy : setReport d r.toControlRequest with
        | error fault => rw [hcopy] at h; cases h
        | ok d'' =>
            rw [hcopy] at h
            exact (Prod.mk.inj (Except.ok.inj h)).2.symm
      rw [hsent, classReply, if_neg (by rw [hset.2]; decide)]
      rfl
  | getProtocol hget =>
      obtain ⟨-, rfl⟩ := Prod.mk.inj (Except.ok.inj h)
      have hne : ¬r.bRequest = reqGetReport := by rw [hget.1]; decide
      rw [classReply, if_pos hget.2, if_neg hne, if_pos hget.1, hprotocol]
      rfl
  | setProtocol hset =>
      obtain ⟨-, rfl⟩ := Prod.mk.inj (Except.ok.inj h)
      rw [classReply, if_neg (by rw [hset.2]; decide)]
      rfl
  | setIdle hset =>
      obtain ⟨-, rfl⟩ := Prod.mk.inj (Except.ok.inj h)
      rw [classReply, if_neg (by rw [hset.2]; decide)]
      rfl
  | getIdle hget =>
      obtain ⟨-, rfl⟩ := Prod.mk.inj (Except.ok.inj h)
      have hne : ¬r.bRequest = reqGetReport := by rw [hget.1]; decide
      have hne' : ¬r.bRequest = reqGetProtocol := by rw [hget.1]; decide
      rw [classReply, if_pos hget.2, if_neg hne, if_neg hne', if_pos hget.1, hidle]
      rfl
  | ignored hother =>
      obtain ⟨-, rfl⟩ := Prod.mk.inj (Except.ok.inj h)
      have hne : ∀ bRequest, classRequestType bRequest = some classToHost →
          r.bmRequestType = classToHost → ¬r.bRequest = bRequest := by
        rintro _ hclass htype rfl
        exact hother (hclass.trans (congrArg some htype.symm))
      by_cases htype : r.bmRequestType = classToHost
      · rw [classReply, if_pos htype, if_neg (hne reqGetReport rfl htype),
          if_neg (hne reqGetProtocol rfl htype), if_neg (hne reqGetIdle rfl htype)]
        rfl
      · rw [classReply, if_neg htype]
        rfl

/-! ## The record of a run -/

/-- Something that writes nothing. -/
def Shown.Silent (e : Shown) : Prop := emulatorEvent e = none ∧ ∀ v : HostView, v.write e = v

section Record
variable {eeprom : Eeprom} {history : List Shown} {s s' : UsbDevice}

/-- One more thing that the emulator takes no part in. -/
theorem Recorded.concat (h : Recorded eeprom history s) {e : Shown}
    (hemulator : emulatorEvent e = none) (hview : s'.view = s.view.write e)
    (hleaves : Leaves s s') : Recorded eeprom (history ++ [e]) s' := by
  refine ⟨?_, ?_, hleaves.2 h.sound⟩
  · rw [viewOf_concat, hview, h.view]
  · rw [emulated_concat_none history eeprom hemulator, h.device, hleaves.1]

theorem Recorded.silent (h : Recorded eeprom history s) {e : Shown} (he : e.Silent) :
    Recorded eeprom (history ++ [e]) s :=
  h.concat he.1 (he.2 s.view).symm ⟨rfl, id⟩

theorem Recorded.interrupts (h : Recorded eeprom history s) (flags : List GenFlags) :
    Recorded eeprom (history ++ flags.map .interrupt) (s.interrupts flags) := by
  induction flags generalizing history s with
  | nil => simpa [UsbDevice.interrupts] using h
  | cons f rest ih =>
      obtain ⟨hview, hleaves⟩ := genVect_view f h.sound
      have hrest := ih (h.concat rfl hview hleaves)
      rwa [List.append_assoc] at hrest

/-- A class request that has gone through its branch. -/
theorem Recorded.handled (h : Recorded eeprom history s) {r : ControlRequest} {d : Device}
    {sent : List InData} (hrun : unhandledControlRequest s.hid.device r = .ok (d, sent)) :
    Recorded eeprom (history ++ [.handled r]) (s.withDevice d) := by
  obtain ⟨hprotocol, hidle⟩ := unhandledControlRequest_writes hrun
  refine ⟨?_, ?_, h.sound.vbus, h.sound.eorsti, h.sound.busPowered, h.sound.opened,
    h.sound.closed⟩
  · rw [viewOf_concat, ← h.view]
    exact HostView.ext rfl rfl hprotocol hidle rfl rfl
  · have hdevice := h.device
    rw [emulated_concat_some history eeprom (i := .request r) rfl]
    cases hemulated : emulated eeprom history with
    | error fault => rw [hemulated] at hdevice; cases hdevice
    | ok d₀ =>
        rw [hemulated] at hdevice
        have hsame : d₀.forget = s.hid.device.forget := Except.ok.inj hdevice
        have hleft := unhandledControlRequest_forget d₀ r
        rw [hsame, unhandledControlRequest_forget, hrun] at hleft
        cases hother : unhandledControlRequest d₀ r with
        | error fault => rw [hother] at hleft; cases hleft
        | ok handled =>
            rw [hother] at hleft
            have hstep : emulator.step (.ok d₀) (.request r) = (.ok handled.1, handled.2) := by
              simp only [emulator, Device.handle, hother]
            rw [hstep]
            exact hleft.symm

/-- A write to the PS3 button. -/
theorem Recorded.psButton (h : Recorded eeprom history s) (value : U8) :
    Recorded eeprom (history ++ [.psButton value])
      (s.withDevice (s.hid.device.writePsButton value)) := by
  refine ⟨?_, ?_, h.sound.vbus, h.sound.eorsti, h.sound.busPowered, h.sound.opened,
    h.sound.closed⟩
  · rw [viewOf_concat, ← h.view]
    rfl
  · have hdevice := h.device
    rw [emulated_concat_some history eeprom (i := .psButton value) rfl]
    cases hemulated : emulated eeprom history with
    | error fault => rw [hemulated] at hdevice; cases hdevice
    | ok d₀ =>
        rw [hemulated] at hdevice
        have hsame : d₀.forget = s.hid.device.forget := Except.ok.inj hdevice
        exact congrArg Except.ok (congrArg (Device.writePsButton · value) hsame)

end Record
end DiyPs3Controller.SixpairEmu
