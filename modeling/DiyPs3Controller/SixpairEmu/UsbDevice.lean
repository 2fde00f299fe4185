import DiyPs3Controller.SixpairEmu.InterruptReports

/-!
# The USB device under the emulator

The device side of the USB library as it is built for the emulator: the
interrupt `USB_GEN_vect`, the standard requests, the task that serves endpoint
0, and the calls of `main`. An interrupt is taken between two of these calls,
or in a loop in which a request waits for the host. The bytes of a data stage
are those of the buffer; how they travel is a matter of the stream functions.
-/

namespace DiyPs3Controller.SixpairEmu

open Buffers

/-- A SETUP packet with its `wIndex`, which only the standard requests read. -/
structure SetupPacket extends ControlRequest where
  wIndex : U16
  deriving DecidableEq, Repr

/-! `USB_Control_Request_t`, and the parts of `bmRequestType`. -/

def reqGetStatus : U8 := 0#8
def reqClearFeature : U8 := 1#8
def reqSetFeature : U8 := 3#8
def reqSetAddress : U8 := 5#8
def reqGetDescriptor : U8 := 6#8
def reqGetConfiguration : U8 := 8#8
def reqSetConfiguration : U8 := 9#8

def reqdirHosttodevice : U8 := 0#8 <<< 7
def reqdirDevicetohost : U8 := 1#8 <<< 7
def reqtypeStandard : U8 := 0#8 <<< 5
def reqrecDevice : U8 := 0#8
def reqrecInterface : U8 := 1#8
def reqrecEndpoint : U8 := 2#8

/-- `CONTROL_REQTYPE_RECIPIENT` -/
def controlReqtypeRecipient : U8 := 0x1F#8

def featureEndpointHalt : U8 := 0x00#8
def featureRemoteWakeup : U8 := 0x01#8
def featureSelfpoweredEnabled : U8 := 1#8 <<< 0
def featureRemoteWakeupEnabled : U8 := 1#8 <<< 1

/-- `FIXED_NUM_CONFIGURATIONS` -/
def fixedNumConfigurations : U8 := 1#8

/-! ## Endpoint registers -/

/-- The registers of one endpoint: two bits of `UECONX`, and its configuration. -/
structure Endpoint where
  epen : Bool
  stallrq : Bool
  uecfg0x : U8
  uecfg1x : U8
  deriving DecidableEq, Repr

/-- `ALLOC` of `UECFG1X` -/
def alloc : U8 := 1#8 <<< 1

/-- `Endpoint_BytesToEPSizeMask(64)`, at the place of `EPSIZE0` -/
def epSizeMask64 : U8 := 3#8 <<< 4

/-- `UECFG0X` of `Endpoint_ConfigureEndpoint`: the type and the direction. -/
def uecfg0xData (type direction : U8) : U8 := type <<< 6 ||| direction

/-- `UECFG1X` for 64 bytes in one bank. -/
def uecfg1xData : U8 := alloc ||| epSizeMask64

def epTypeControl : U8 := 0#8
def epTypeInterrupt : U8 := 3#8
def endpointDirOut : U8 := 0#8
def endpointDirIn : U8 := 1#8

def endpointControlep : Fin 8 := 0
def sixaxisInEpnum : Fin 8 := 1
def sixaxisOutEpnum : Fin 8 := 2

/-- `ENDPOINT_TOTAL_ENDPOINTS` -/
def endpointTotalEndpoints : Nat := 7

/-- The endpoint that `UENUM` selects: the register has three bits. -/
def uenum (value : U8) : Fin 8 := Fin.ofNat 8 value.toNat

/-- `Endpoint_ConfigureEndpoint`, always with 64 bytes in one bank -/
def Endpoint.configure (e : Endpoint) (type direction : U8) : Endpoint :=
  { e with
    epen := true, uecfg0x := uecfg0xData type direction, uecfg1x := uecfg1xData }

/-- `Endpoint_DeallocateMemory` and `Endpoint_DisableEndpoint` -/
def Endpoint.clear (e : Endpoint) : Endpoint :=
  { e with epen := false, uecfg1x := e.uecfg1x &&& ~~~alloc }

/-! ## Descriptors -/

/-- The HID report descriptor of `Descriptors.c`. -/
def sixaxisReport : List U8 :=
  [
    0x05, 0x01, 0x09, 0x04, 0xa1, 0x01, 0xa1, 0x02, 0x85, 0x01, 0x75, 0x08, 0x95, 0x01, 0x15, 0x00,
    0x26, 0xff, 0x00, 0x81, 0x03, 0x75, 0x01, 0x95, 0x13, 0x15, 0x00, 0x25, 0x01, 0x35, 0x00, 0x45,
    0x01, 0x05, 0x09, 0x19, 0x01, 0x29, 0x13, 0x81, 0x02, 0x75, 0x01, 0x95, 0x0d, 0x06, 0x00, 0xff,
    0x81, 0x03, 0x15, 0x00, 0x26, 0xff, 0x00, 0x05, 0x01, 0x09, 0x01, 0xa1, 0x00, 0x75, 0x08, 0x95,
    0x04, 0x35, 0x00, 0x46, 0xff, 0x00, 0x09, 0x30, 0x09, 0x31, 0x09, 0x32, 0x09, 0x35, 0x81, 0x02,
    0xc0, 0x05, 0x01, 0x75, 0x08, 0x95, 0x27, 0x09, 0x01, 0x81, 0x02, 0x75, 0x08, 0x95, 0x30, 0x09,
    0x01, 0x91, 0x02, 0x75, 0x08, 0x95, 0x30, 0x09, 0x01, 0xb1, 0x02, 0xc0, 0xa1, 0x02, 0x85, 0x02,
    0x75, 0x08, 0x95, 0x30, 0x09, 0x01, 0xb1, 0x02, 0xc0, 0xa1, 0x02, 0x85, 0xee, 0x75, 0x08, 0x95,
    0x30, 0x09, 0x01, 0xb1, 0x02, 0xc0, 0xa1, 0x02, 0x85, 0xef, 0x75, 0x08, 0x95, 0x30, 0x09, 0x01,
    0xb1, 0x02, 0xc0, 0xc0]

/-- The parts of `ConfigurationDescriptor`. -/
def configHeader : List U8 := [9, 0x02, 41, 0, 1, 1, 0, 0x80, 250]
def interfaceDescriptor : List U8 := [9, 0x04, 0x00, 0x00, 2, 0x03, 0x00, 0x00, 0]
def sixaxisHID : List U8 :=
  [9, 0x21] ++ wordBytes 0x0111 ++ [0x00, 1, 0x22] ++ wordBytes (.ofNat 16 sixaxisReport.length)
def sixaxisOutEndpoint : List U8 := [7, 0x05, 0x02, 0x03] ++ wordBytes 64 ++ [0x01]
def sixaxisInEndpoint : List U8 := [7, 0x05, 0x81, 0x03] ++ wordBytes 64 ++ [0x01]

def configurationDescriptor : List U8 :=
  configHeader ++ interfaceDescriptor ++ sixaxisHID ++ sixaxisOutEndpoint ++ sixaxisInEndpoint

/-- The strings, at the length that their headers give: the manufacturer's has its
terminating zero. -/
def languageString : List U8 := [4, 0x03] ++ wordBytes 0x0409
def manufacturerString : List U8 :=
  [12, 0x03] ++ (List.replicate 4 (wordBytes 0x58)).flatten ++ wordBytes 0
def productString : List U8 := [54, 0x03] ++ (List.replicate 26 (wordBytes 0x59)).flatten

/-- `CALLBACK_USB_GetDescriptor`; a size of `NO_DESCRIPTOR` is `none`. -/
def callbackGetDescriptor (d : Device) (wValue : U16) : Option (List U8) :=
  let descriptorType : U8 := (wValue >>> 8).setWidth 8
  let descriptorNumber : U8 := (wValue &&& 0xFF).setWidth 8
  if descriptorType = 0x01#8 then some (deviceDescriptor d)
  else if descriptorType = 0x02#8 then some configurationDescriptor
  else if descriptorType = 0x03#8 then
    if descriptorNumber = 0x00#8 then some languageString
    else if descriptorNumber = 0x01#8 then some manufacturerString
    else if descriptorNumber = 0x02#8 then some productString
    else none
  else if descriptorType = 0x21#8 then some sixaxisHID
  else if descriptorType = 0x22#8 then some sixaxisReport
  else none

/-! ## The device and its interrupt -/

/-- The interrupt enable bits of `USBCON` and `UDIEN`. -/
structure Enabled where
  vbus : Bool
  suspend : Bool
  wakeup : Bool
  eorsti : Bool
  sofi : Bool
  deriving DecidableEq, Repr

/-- What the tests of `USB_GEN_vect` read: the five flags, and the level of VBUS
behind the first of them. Behind a bus reset `stallrq` has the bits that the
hardware leaves in the endpoints. -/
structure GenFlags where
  vbusti : Bool
  vbus : Bool
  suspi : Bool
  wakeupi : Bool
  eorsti : Bool
  sofi : Bool
  stallrq : U8
  deriving DecidableEq, Repr

/-- The variables of the USB library and of the emulator, and the registers that
requests and interrupts write. -/
structure UsbDevice where
  hid : Hid
  usbDeviceState : DeviceState
  usbConfigurationNumber : U8
  usbRemoteWakeupEnabled : Bool
  usbCurrentlySelfPowered : Bool
  udaddr : U8
  enabled : Enabled
  endpoints : Fin 8 → Endpoint

namespace UsbDevice

/-- `EVENT_USB_Device_Connect` without the LEDs, which the board does not have. -/
def connect (s : UsbDevice) : UsbDevice :=
  { s with hid.device.usingReportProtocol := true }

/-- The test of `USB_INT_VBUS`. -/
def vbusInterrupt (s : UsbDevice) (f : GenFlags) : UsbDevice :=
  if f.vbusti && s.enabled.vbus then
    if f.vbus then { s with usbDeviceState := .powered }.connect
    else { s with usbDeviceState := .unattached }
  else s

/-- The test of `USB_INT_SUSPEND`. -/
def suspendInterrupt (s : UsbDevice) (f : GenFlags) : UsbDevice :=
  if f.suspi && s.enabled.suspend then
    { s with
      enabled := { s.enabled with suspend := false, wakeup := true }
      usbDeviceState := .suspended }
  else s

/-- The state behind a wake-up and behind a `SET_CONFIGURATION`. -/
def stateOf (usbConfigurationNumber : U8) : DeviceState :=
  if usbConfigurationNumber ≠ 0#8 then .configured else .addressed

/-- The test of `USB_INT_WAKEUP`. -/
def wakeupInterrupt (s : UsbDevice) (f : GenFlags) : UsbDevice :=
  if f.wakeupi && s.enabled.wakeup then
    { s with
      enabled := { s.enabled with wakeup := false, suspend := true }
      usbDeviceState := stateOf s.usbConfigurationNumber }
  else s

/-- The halt bit that the hardware leaves in an endpoint. Endpoint 0 loses its own
with the next SETUP packet, before any request can read it. -/
def haltLeft (stallrq : U8) (n : Fin 8) : Bool := n ≠ endpointControlep && stallrq.getLsbD n.val

/-- `Endpoint_ClearEndpoints` -/
def clearEndpoints (endpoints : Fin 8 → Endpoint) (stallrq : U8) : Fin 8 → Endpoint := fun n =>
  let e := { endpoints n with stallrq := haltLeft stallrq n }
  if n.val < endpointTotalEndpoints then e.clear else e

/-- The test of `USB_INT_EORSTI`. -/
def resetInterrupt (s : UsbDevice) (f : GenFlags) : UsbDevice :=
  if f.eorsti && s.enabled.eorsti then
    let endpoints := clearEndpoints s.endpoints f.stallrq
    { s with
      usbDeviceState := .default
      usbConfigurationNumber := 0#8
      enabled := { s.enabled with suspend := false, wakeup := true }
      endpoints := Function.update endpoints endpointControlep
        ((endpoints endpointControlep).configure epTypeControl endpointDirOut) }
  else s

/-- The test of `USB_INT_SOFI`. -/
def sofInterrupt (s : UsbDevice) (f : GenFlags) : UsbDevice :=
  if f.sofi && s.enabled.sofi then { s with hid := startOfFrame s.hid } else s

/-- `USB_GEN_vect` -/
def genVect (s : UsbDevice) (f : GenFlags) : UsbDevice :=
  ((((s.vbusInterrupt f).suspendInterrupt f).wakeupInterrupt f).resetInterrupt f).sofInterrupt f

def interrupts (s : UsbDevice) (flags : List GenFlags) : UsbDevice := flags.foldl genVect s

/-- `USB_Init`, behind the start of the emulator. -/
def start (eeprom : Eeprom) : UsbDevice where
  hid := hidStart (powerUp eeprom)
  usbDeviceState := .unattached
  usbConfigurationNumber := 0#8
  usbRemoteWakeupEnabled := false
  usbCurrentlySelfPowered := false
  udaddr := 0#8
  enabled := { vbus := true, suspend := true, wakeup := false, eorsti := true, sofi := false }
  endpoints := fun _ => { epen := false, stallrq := false, uecfg0x := 0#8, uecfg1x := 0#8 }

end UsbDevice

/-- A loop that waits for endpoint 0: the interrupts before each of its rounds
that finds the endpoint busy, and those before the round that finds it ready. -/
structure Wait where
  busy : List (List GenFlags)
  last : List GenFlags
  deriving DecidableEq, Repr

/-- The rounds of a loop, with the last one. -/
def Wait.rounds (w : Wait) : List (List GenFlags) := w.busy ++ [w.last]

/-- A request and what happens while it is served: the waits of its handler, of
which most requests have one, and whether another SETUP packet is there when the
request is left. -/
structure Exchange where
  setup : SetupPacket
  first : Wait
  second : Wait
  overtaken : Bool
  deriving DecidableEq, Repr

/-- What the device does, in order. A class request is handled when its branch has
read and written the variables of the emulator. -/
inductive Shown
  | interrupt (flags : GenFlags)
  | accepted (setup : SetupPacket)
  | sent (data : InData)
  | handled (request : ControlRequest)
  | stallrq (endpoint : Fin 8) (value : Bool)
  | udaddr (value : U8)
  | configurationChanged
  | stalled
  | psButton (value : U8)
  | report (report : Report)
  deriving DecidableEq, Repr

/-- Where a run of the device ends: the source says nothing of it behind a fault, and a
wait for an OUT packet that the host does not send has no end. -/
inductive Ending
  | fault (fault : Fault)
  | waiting
  deriving DecidableEq, Repr

/-! ## The standard requests -/

namespace UsbDevice

/-- The interrupts taken in a wait, and whether the endpoint is ready behind it.
A round that finds the endpoint busy and the device unattached is the last. -/
def waitFor (s : UsbDevice) (last : List GenFlags) : List (List GenFlags) → List GenFlags × Bool
  | [] => (last, true)
  | flags :: busy =>
      let s := s.interrupts flags
      if s.usbDeviceState = .unattached then (flags, false)
      else (flags ++ (waitFor s last busy).1, (waitFor s last busy).2)

def taken (s : UsbDevice) (w : Wait) : List GenFlags := (s.waitFor w.last w.busy).1

def ready (s : UsbDevice) (w : Wait) : Bool := (s.waitFor w.last w.busy).2

def waited (s : UsbDevice) (w : Wait) : UsbDevice := s.interrupts (s.taken w)

/-- The interrupts taken in a wait that finds no endpoint ready, up to the end of the
round that leaves the device unattached. -/
def untilUnattached (s : UsbDevice) : List (List GenFlags) → Option (List GenFlags)
  | [] => none
  | flags :: rounds =>
      if (s.interrupts flags).usbDeviceState = .unattached then some flags
      else ((s.interrupts flags).untilUnattached rounds).map (flags ++ ·)

/-- `USB_Device_SetAddress` -/
def setAddress (s : UsbDevice) (x : Exchange) : UsbDevice × List Shown :=
  let deviceAddress : U8 := (x.setup.wValue &&& 0x7F).setWidth 8
  let afterStatus := s.waited x.first
  let s' := afterStatus.waited x.second
  let shown := .accepted x.setup :: (s.taken x.first ++ afterStatus.taken x.second).map .interrupt
  if afterStatus.ready x.second then
    ({ s' with
        usbDeviceState := if deviceAddress ≠ 0#8 then .addressed else s'.usbDeviceState
        udaddr := 1#8 <<< 7 ||| deviceAddress },
      shown ++ [.udaddr (1#8 <<< 7 ||| deviceAddress)])
  else (s', shown)

/-- `EVENT_USB_Device_ConfigurationChanged` without the LEDs. -/
def configurationChanged (s : UsbDevice) : UsbDevice :=
  let endpoints := Function.update s.endpoints sixaxisInEpnum
    ((s.endpoints sixaxisInEpnum).configure epTypeInterrupt endpointDirIn)
  { s with
    endpoints := Function.update endpoints sixaxisOutEpnum
      ((endpoints sixaxisOutEpnum).configure epTypeInterrupt endpointDirOut)
    enabled := { s.enabled with sofi := true } }

/-- `USB_Device_SetConfiguration` -/
def setConfiguration (s : UsbDevice) (x : Exchange) : UsbDevice × List Shown :=
  if fixedNumConfigurations < (x.setup.wValue.setWidth 8 : U8) then (s, [])
  else
    let s := { s with usbConfigurationNumber := x.setup.wValue.setWidth 8 }
    let s' := s.waited x.first
    ({ s' with usbDeviceState := stateOf s'.usbConfigurationNumber }.configurationChanged,
      .accepted x.setup :: (s.taken x.first).map .interrupt ++ [.configurationChanged])

/-- A request is accepted, and what the handler does then is shown before the
interrupts of its one wait. -/
def acknowledge (s : UsbDevice) (x : Exchange) (done : List Shown) : UsbDevice × List Shown :=
  (s.waited x.first, .accepted x.setup :: done ++ (s.taken x.first).map .interrupt)

/-- A request is accepted, with a data stage to the host. -/
def reply (s : UsbDevice) (x : Exchange) (data : InData) : UsbDevice × List Shown :=
  s.acknowledge x [.sent data]

/-- `USB_Device_GetConfiguration` -/
def getConfiguration (s : UsbDevice) (x : Exchange) : UsbDevice × List Shown :=
  s.reply x [some s.usbConfigurationNumber]

/-- `USB_Device_GetDescriptor` -/
def getDescriptor (s : UsbDevice) (x : Exchange) : UsbDevice × List Shown :=
  match callbackGetDescriptor s.hid.device x.setup.wValue with
  | none => (s, [])
  | some descriptor =>
      s.reply x (writeControlStream (descriptor.map some) (.ofNat 16 descriptor.length)
        x.setup.wLength)

/-- The two bytes of `Endpoint_Write_Word_LE(CurrentStatus)`. -/
def statusData (currentStatus : U8) : InData := [some currentStatus, some 0#8]

/-- `USB_Device_GetStatus` -/
def getStatus (s : UsbDevice) (x : Exchange) : UsbDevice × List Shown :=
  if x.setup.bmRequestType = reqdirDevicetohost ||| reqtypeStandard ||| reqrecDevice then
    let currentStatus := if s.usbCurrentlySelfPowered then featureSelfpoweredEnabled else 0#8
    s.reply x (statusData
      (if s.usbRemoteWakeupEnabled then currentStatus ||| featureRemoteWakeupEnabled
        else currentStatus))
  else if x.setup.bmRequestType = reqdirDevicetohost ||| reqtypeStandard ||| reqrecEndpoint then
    s.reply x (statusData
      (if (s.endpoints (uenum ((x.setup.wIndex &&& 0xFF).setWidth 8))).stallrq then 1#8 else 0#8))
  else (s, [])

/-- `USB_Device_ClearSetFeature` -/
def clearSetFeature (s : UsbDevice) (x : Exchange) : UsbDevice × List Shown :=
  let set : Bool := x.setup.bRequest = reqSetFeature
  if x.setup.bmRequestType &&& controlReqtypeRecipient = reqrecDevice then
    if (x.setup.wValue.setWidth 8 : U8) = featureRemoteWakeup then
      { s with usbRemoteWakeupEnabled := set }.acknowledge x []
    else (s, [])
  else if x.setup.bmRequestType &&& controlReqtypeRecipient = reqrecEndpoint then
    if (x.setup.wValue.setWidth 8 : U8) = featureEndpointHalt then
      let endpointIndex := uenum (x.setup.wIndex.setWidth 8 &&& 0x07#8)
      if endpointIndex = endpointControlep then (s, [])
      else if (s.endpoints endpointIndex).epen then
        { s with
          endpoints := Function.update s.endpoints endpointIndex
            { s.endpoints endpointIndex with stallrq := set } }.acknowledge x
          [.stallrq endpointIndex set]
      else s.acknowledge x []
    else s.acknowledge x []
  else (s, [])

/-! ## The class requests and the tasks -/

/-- The `bmRequestType` that a branch of `EVENT_USB_Device_UnhandledControlRequest`
accepts. -/
def classRequestType (bRequest : U8) : Option U8 :=
  if bRequest = reqGetReport then some classToHost
  else if bRequest = reqSetReport then some classToDevice
  else if bRequest = reqGetProtocol then some classToHost
  else if bRequest = reqSetProtocol then some classToDevice
  else if bRequest = reqSetIdle then some classToDevice
  else if bRequest = reqGetIdle then some classToHost
  else none

/-- A branch accepts the request. -/
def IsClassRequest (r : ControlRequest) : Prop :=
  classRequestType r.bRequest = some r.bmRequestType

instance : DecidablePred IsClassRequest := fun _ => inferInstanceAs (Decidable (_ = _))

/-- The device with the variables that a class request has left. -/
def withDevice (s : UsbDevice) (device : Device) : UsbDevice := { s with hid.device := device }

/-- `EVENT_USB_Device_UnhandledControlRequest`. A SetReport waits for its data
stage first, and does nothing when the device is unattached meanwhile. Without a
data stage nothing else ends its wait. -/
def unhandled (s : UsbDevice) (x : Exchange) : Except Ending (UsbDevice × List Shown) :=
  if ¬IsClassRequest x.setup.toControlRequest then .ok (s, [])
  else if x.setup.bRequest = reqSetReport then
    if x.setup.data = [] then
      match s.untilUnattached x.first.rounds with
      | some flags => .ok (s.interrupts flags, .accepted x.setup :: flags.map .interrupt)
      | none => .error .waiting
    else
      let s' := s.waited x.first
      let shown := .accepted x.setup :: (s.taken x.first).map .interrupt
      if s.ready x.first then
        ((unhandledControlRequest (s'.waited x.second).hid.device
            x.setup.toControlRequest).mapError .fault).map fun handled =>
          ((s'.waited x.second).withDevice handled.1,
            shown ++ (s'.taken x.second).map .interrupt ++ [.handled x.setup.toControlRequest])
      else .ok (s', shown)
  else
    ((unhandledControlRequest s.hid.device x.setup.toControlRequest).mapError .fault).map
      fun handled =>
        (s.withDevice handled.1).acknowledge x
          (handled.2.map .sent ++ [.handled x.setup.toControlRequest])

/-- The cases of the switch in `USB_Device_ProcessControlRequest`. -/
inductive RequestCase
  | getStatus
  | clearSetFeature
  | setAddress
  | getDescriptor
  | getConfiguration
  | setConfiguration
  | unhandled
  deriving DecidableEq, Repr

/-- The case of the switch whose tests the request passes. -/
def requestCase (r : SetupPacket) : RequestCase :=
  if r.bRequest = reqGetStatus ∧
      (r.bmRequestType = reqdirDevicetohost ||| reqtypeStandard ||| reqrecDevice ∨
        r.bmRequestType = reqdirDevicetohost ||| reqtypeStandard ||| reqrecEndpoint) then
    .getStatus
  else if (r.bRequest = reqClearFeature ∨ r.bRequest = reqSetFeature) ∧
      (r.bmRequestType = reqdirHosttodevice ||| reqtypeStandard ||| reqrecDevice ∨
        r.bmRequestType = reqdirHosttodevice ||| reqtypeStandard ||| reqrecEndpoint) then
    .clearSetFeature
  else if r.bRequest = reqSetAddress ∧
      r.bmRequestType = reqdirHosttodevice ||| reqtypeStandard ||| reqrecDevice then
    .setAddress
  else if r.bRequest = reqGetDescriptor ∧
      (r.bmRequestType = reqdirDevicetohost ||| reqtypeStandard ||| reqrecDevice ∨
        r.bmRequestType = reqdirDevicetohost ||| reqtypeStandard ||| reqrecInterface) then
    .getDescriptor
  else if r.bRequest = reqGetConfiguration ∧
      r.bmRequestType = reqdirDevicetohost ||| reqtypeStandard ||| reqrecDevice then
    .getConfiguration
  else if r.bRequest = reqSetConfiguration ∧
      r.bmRequestType = reqdirHosttodevice ||| reqtypeStandard ||| reqrecDevice then
    .setConfiguration
  else .unhandled

/-- The switch with its handlers; a handler that returns early shows nothing. -/
def dispatch (s : UsbDevice) (x : Exchange) : Except Ending (UsbDevice × List Shown) :=
  match requestCase x.setup with
  | .getStatus => .ok (s.getStatus x)
  | .clearSetFeature => .ok (s.clearSetFeature x)
  | .setAddress => .ok (s.setAddress x)
  | .getDescriptor => .ok (s.getDescriptor x)
  | .getConfiguration => .ok (s.getConfiguration x)
  | .setConfiguration => .ok (s.setConfiguration x)
  | .unhandled => s.unhandled x

/-- The end of `USB_Device_ProcessControlRequest`: a SETUP packet that is there is
stalled, be it this one or the next. -/
def stallRest (x : Exchange) (shown : List Shown) : List Shown :=
  if shown = [] ∨ x.overtaken = true then shown ++ [.stalled] else shown

/-- `USB_Device_ProcessControlRequest` -/
def processControlRequest (s : UsbDevice) (x : Exchange) : Except Ending (UsbDevice × List Shown) :=
  (s.dispatch x).map fun served => (served.1, stallRest x served.2)

/-- `USB_DeviceTask`, with the SETUP packet that it finds. -/
def deviceTask (s : UsbDevice) : Option Exchange → Except Ending (UsbDevice × List Shown)
  | none => .ok (s, [])
  | some x => if s.usbDeviceState ≠ .unattached then s.processControlRequest x else .ok (s, [])

/-- `HID_Task` -/
def hidPoll (s : UsbDevice) (isReadWriteAllowed : Bool) : UsbDevice × List Shown :=
  let polled := hidTask s.hid s.usbDeviceState isReadWriteAllowed
  ({ s with hid := polled.1 }, polled.2.map .report)

end UsbDevice

/-- What happens between two statements of `main`'s loops: an interrupt, a call of
one of the tasks, or one of the writes to the PS3 button. -/
inductive Occurrence
  | interrupt (flags : GenFlags)
  | hidTask (isReadWriteAllowed : Bool)
  | usbTask (pending : Option Exchange)
  | psButton (value : U8)
  deriving DecidableEq, Repr

def UsbDevice.occur (s : UsbDevice) : Occurrence → Except Ending (UsbDevice × List Shown)
  | .interrupt flags => .ok (s.genVect flags, [.interrupt flags])
  | .hidTask isReadWriteAllowed => .ok (s.hidPoll isReadWriteAllowed)
  | .usbTask pending => s.deviceTask pending
  | .psButton value =>
      .ok (s.withDevice (s.hid.device.writePsButton value), [.psButton value])

/-- The device as a machine, up to where it stops. -/
def usbDevice : Machine (Except Ending UsbDevice) Occurrence Shown where
  step s o :=
    match s with
    | .error ending => (.error ending, [])
    | .ok s =>
        match s.occur o with
        | .ok (s, shown) => (.ok s, shown)
        | .error ending => (.error ending, [])

section Run
variable {s s' : UsbDevice} {o : Occurrence} {shown : List Shown}

end Run

end DiyPs3Controller.SixpairEmu
