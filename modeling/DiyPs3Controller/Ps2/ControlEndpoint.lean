import DiyPs3Controller.Foundations.LastWrites
import DiyPs3Controller.Ps2.GetDescriptor

/-!
# Endpoint 0 of the joystick

`USB_COM_vect` with everything that it sends and writes, between bus resets and
the calls of the main program. The handler is left in the middle only by the waits for
the host, and neither another interrupt nor the main program runs meanwhile.
What it answers is then a matter of what was asked and written before.
-/

namespace DiyPs3Controller.ControlEndpoint

open UsbJoystick UsbSend Packets GetDescriptor

/-! Requests of `usb_joystick.h`, and bit numbers of the at90usb1286. -/

def hidGetReport : U8 := 1#8
def hidGetProtocol : U8 := 3#8
def epen : Nat := 0
def rstdt : Nat := 3
def stallrqc : Nat := 4
def stallrq : Nat := 5
def adden : Nat := 7

/-- What is answered behind `usb_wait_in_ready`; a status with the endpoint it is of. -/
inductive Reply
  | configuration
  | status (endpoint : Option U16)
  | report
  | protocol
  deriving DecidableEq, Repr

/-- Where the handler waits, or that it does not run. -/
inductive Place
  | outside
  | replying (reply : Reply)
  | addressing (wValue : U16)
  | describing (request : SetupPacket) (handler : Handler)
  deriving DecidableEq, Repr

/-- `halted` has the bit `STALLRQ` of `UECONX` for each endpoint. -/
structure Device where
  usb : UsbVars
  joy : Joystick
  halted : BitVec 3 → Bool
  place : Place

/-- What happens at endpoint 0 and in the registers of the endpoints. Behind a bus reset
`stallrq` has the bits that the hardware leaves in the endpoints. -/
inductive Event
  | reset (stallrq : U8)
  | request (request : SetupPacket)
  | called (call : JoyCall)
  | packet (bytes : List U8)
  | aborted
  | ueconx (endpoint value : U8)
  | uecfg (endpoint cfg0 cfg1 : U8)
  | ueienx (endpoint value : U8)
  | uerst (value : U8)
  | udaddr (value : U8)
  deriving DecidableEq, Repr

/-- `(1<<STALLRQ)|(1<<EPEN)` -/
def stallValue : U8 := 1#8 <<< stallrq ||| 1#8 <<< epen

def stall : Event := .ueconx 0#8 stallValue

/-- The endpoint that `UENUM` selects: the register has three bits. -/
def selected (uenum : U8) : BitVec 3 := uenum.setWidth 3

/-- The halt bits behind an event. `STALLRQ` is set by writing a one, and cleared by
writing a one to `STALLRQC`; writing a zero has no effect. A SETUP packet clears it
for endpoint 0. -/
def writeHalts (halted : BitVec 3 → Bool) : Event → BitVec 3 → Bool
  | .reset left => fun n => left.getLsbD n.toNat
  | .request _ => Function.update halted 0#3 false
  | .ueconx endpoint value =>
      if value.getLsbD stallrq then Function.update halted (selected endpoint) true
      else if value.getLsbD stallrqc then Function.update halted (selected endpoint) false
      else halted
  | _ => halted

def Sent.event : Sent → Event
  | .stall => stall
  | .packet bytes => .packet bytes

/-- `endpoint_config_table` -/
def endpointConfigTable : List U8 := [0x00#8, 0x00#8, 0x01#8, 0xC1#8, 0x06#8, 0x00#8]

/-- The loop of `SET_CONFIGURATION`, with the endpoints left and the rest of the table. -/
def configureEndpoints : Nat → U8 → List U8 → List Event
  | n + 1, i, en :: cfg =>
      .ueconx i en ::
        if en = 0#8 then configureEndpoints n (i + 1#8) cfg
        else
          .uecfg i (cfg.getD 0 0#8) (cfg.getD 1 0#8) ::
            configureEndpoints n (i + 1#8) (cfg.drop 2)
  | _, _, _ => []

/-- The registers that `SET_CONFIGURATION` writes. -/
def configuring : List Event :=
  configureEndpoints 4 1#8 endpointConfigTable ++ [.uerst 0x1E#8, .uerst 0x00#8]

/-- The registers that `USB_GEN_vect` writes behind a bus reset. -/
def resetting : List Event :=
  [.ueconx 0#8 0x01#8, .uecfg 0#8 0x00#8 0x22#8, .ueienx 0#8 (1#8 <<< rxstpi)]

/-- The endpoint of a halt request. -/
def haltEndpoint (request : SetupPacket) : U8 := request.wIndex.setWidth 8 &&& 0x7F#8

/-- `CLEAR_FEATURE` or `SET_FEATURE` for the halt of one of the endpoints 1 to 4. -/
def IsHalt (request : SetupPacket) : Prop :=
  (request.bRequest = clearFeature ∨ request.bRequest = setFeature) ∧
    request.bmRequestType = 0x02#8 ∧ request.wValue = 0#16 ∧
    1#8 ≤ haltEndpoint request ∧ haltEndpoint request ≤ maxEndpoint

instance : DecidablePred IsHalt := fun _ => inferInstanceAs (Decidable (_ ∧ _))

/-- The registers that a halt request writes. -/
def halting (request : SetupPacket) : List Event :=
  let i := haltEndpoint request
  if request.bRequest = setFeature then [.ueconx i stallValue]
  else
    [.ueconx i (1#8 <<< stallrqc ||| 1#8 <<< rstdt ||| 1#8 <<< epen), .uerst (1#8 <<< i.toNat),
      .uerst 0x00#8]

/-- `USB_COM_vect` behind the reading of a request, up to its first wait. -/
def serve (image : Image) (d : Device) (request : SetupPacket) : Device × List Event :=
  if request.bRequest = getDescriptor then
    ({ d with place := .describing request (begun image) }, [])
  else if request.bRequest = setAddress then
    ({ d with place := .addressing request.wValue }, [.packet []])
  else if request.bRequest = setConfiguration ∧ request.bmRequestType = 0x00#8 then
    ({ d with
        usb := { d.usb with uenum := 4#8, usbConfiguration := request.wValue.setWidth 8 } },
      .packet [] :: configuring)
  else if request.bRequest = getConfiguration ∧ request.bmRequestType = 0x80#8 then
    ({ d with place := .replying .configuration }, [])
  else if request.bRequest = getStatus then
    let endpoint := if request.bmRequestType = 0x82#8 then some request.wIndex else none
    ({ d with place := .replying (.status endpoint) }, [])
  else if IsHalt request then
    ({ d with usb := { d.usb with uenum := haltEndpoint request } }, .packet [] :: halting request)
  else if request.wIndex = joystickInterface ∧ request.bmRequestType = 0xA1#8 ∧
      request.bRequest = hidGetReport then
    ({ d with place := .replying .report }, [])
  else if request.wIndex = joystickInterface ∧ request.bmRequestType = 0xA1#8 ∧
      request.bRequest = hidGetProtocol then
    ({ d with place := .replying .protocol }, [])
  else if request.wIndex = joystickInterface ∧ request.bmRequestType = 0x21#8 ∧
      request.bRequest = hidSetProtocol then
    ({ d with usb := { d.usb with joystickProtocol := request.wValue.setWidth 8 } }, [.packet []])
  else (d, [stall])

/-- `USB_COM_vect` up to its first wait, with the value read from `UEINTX`. -/
def enter (image : Image) (d : Device) (ueintx : U8) (request : SetupPacket) :
    Device × List Event :=
  let d := { d with usb := { d.usb with uenum := 0#8 } }
  if ueintx.getLsbD rxstpi then
    ((serve image d request).1, .request request :: (serve image d request).2)
  else (d, [stall])

/-- The bytes of a reply. -/
def Reply.bytes (d : Device) : Reply → List U8
  | .configuration => [d.usb.usbConfiguration]
  | .status none => [0#8, 0#8]
  | .status (some wIndex) => [if d.halted (selected (wIndex.setWidth 8)) then 1#8 else 0#8, 0#8]
  | .report => usbSendCodes d.joy
  | .protocol => [d.usb.joystickProtocol]

/-- One reading of `UEINTX` in a wait. The transfer of a descriptor that is left without
a packet is left for the host. -/
def poll (image : Image) (d : Device) (ueintx : U8) : Device × List Event :=
  match d.place with
  | .outside => (d, [])
  | .replying reply =>
      if ueintx.getLsbD txini then
        ({ d with place := .outside }, [.packet (reply.bytes d)])
      else (d, [])
  | .addressing wValue =>
      if ueintx.getLsbD txini then
        ({ d with place := .outside }, [.udaddr (wValue.setWidth 8 ||| 1#8 <<< adden)])
      else (d, [])
  | .describing request h =>
      match (handler image request).step h ueintx with
      | (.returned, []) => ({ d with place := .outside }, [.aborted])
      | (.returned, sent) => ({ d with place := .outside }, sent.map Sent.event)
      | (later, sent) => ({ d with place := .describing request later }, sent.map Sent.event)

/-- A reading of the waiting handler, an interrupt, or a call of the main program. -/
inductive Input
  | poll (ueintx : U8)
  | usbGen (udint stallrq : U8)
  | usbCom (ueintx : U8) (request : SetupPacket)
  | call (call : JoyCall)
  deriving DecidableEq, Repr

/-- Only the handler itself goes on while it waits. -/
def react (image : Image) (d : Device) : Input → Device × List Event
  | .poll ueintx => poll image d ueintx
  | .usbGen udint stallrq =>
      if d.place = .outside then
        ({ d with usb := usbGenVect d.usb udint },
          if udint.getLsbD eorsti then .reset stallrq :: resetting else [])
      else (d, [])
  | .usbCom ueintx request =>
      if d.place = .outside then enter image d ueintx request else (d, [])
  | .call call =>
      if d.place = .outside then ({ d with joy := call.apply d.joy }, [.called call])
      else (d, [])

/-- The halt bits follow the events. -/
def settle (next : Device × List Event) : Device × List Event :=
  ({ next.1 with halted := next.2.foldl writeHalts next.1.halted }, next.2)

def deviceMachine (image : Image) : Machine Device Input Event where
  step d input := settle (react image d input)

/-- The device behind `usb_init`, with the joystick state that it finds. -/
def powered (uenum : U8) (joy : Joystick) : Device where
  usb := { uenum, usbConfiguration := 0#8, joystickProtocol := 1#8 }
  joy
  halted := fun _ => false
  place := .outside

/-! ## The dialogue with the host -/

/-- An event that writes the configuration. -/
def writesConfiguration : Event → Option U8
  | .reset _ => some 0#8
  | .request r =>
      if r.bRequest = setConfiguration ∧ r.bmRequestType = 0x00#8 then some (r.wValue.setWidth 8)
      else none
  | _ => none

/-- An event that writes the protocol. -/
def writesProtocol : Event → Option U8
  | .request r =>
      if r.wIndex = joystickInterface ∧ r.bmRequestType = 0x21#8 ∧ r.bRequest = hidSetProtocol then
        some (r.wValue.setWidth 8)
      else none
  | _ => none

/-- An event that halts an endpoint or lets it go on. -/
def writesHalted (n : BitVec 3) : Event → Option Bool
  | .reset left => some (left.getLsbD n.toNat)
  | .request r =>
      if IsHalt r ∧ selected (haltEndpoint r) = n then some (r.bRequest = setFeature) else none
  | _ => none

def calledOf : Event → Option JoyCall
  | .called call => some call
  | _ => none

/-- The configuration that the host has set since the last bus reset. -/
def configurationOf (history : List Event) : U8 := lastWrite writesConfiguration 0#8 history

/-- The protocol that the host has set last; a bus reset leaves it. -/
def protocolOf (history : List Event) : U8 := lastWrite writesProtocol 1#8 history

/-- What the host has last asked for an endpoint, or what a bus reset has left there. A
request finds endpoint 0 without a halt. -/
def haltedOf (history : List Event) (n : BitVec 3) : Bool :=
  if n = 0#3 then false else lastWrite (writesHalted n) false history

/-- What the calls of the main program have made of a joystick state. -/
def reportOf (joy : Joystick) (history : List Event) : Joystick :=
  joyMachine.state joy (history.filterMap calledOf)

/-- The first entry of the table that matches. -/
def Image.find (image : Image) (request : SetupPacket) : Option DescriptorListStruct :=
  image.table.find? fun entry =>
    decide (entry.wValue = request.wValue ∧ entry.wIndex = request.wIndex)

/-- A request that the device knows. -/
inductive Supported (image : Image) (r : SetupPacket) : Prop
  | descriptor (hrequest : r.bRequest = getDescriptor) (hfound : (Image.find image r).isSome = true)
  | address (h : r.bRequest = setAddress)
  | configure (h : r.bRequest = setConfiguration ∧ r.bmRequestType = 0x00#8)
  | configuration (h : r.bRequest = getConfiguration ∧ r.bmRequestType = 0x80#8)
  | status (h : r.bRequest = getStatus)
  | halt (h : IsHalt r)
  | report (h : r.wIndex = joystickInterface ∧ r.bmRequestType = 0xA1#8 ∧
      r.bRequest = hidGetReport)
  | protocol (h : r.wIndex = joystickInterface ∧ r.bmRequestType = 0xA1#8 ∧
      r.bRequest = hidGetProtocol)
  | setProtocol (h : r.wIndex = joystickInterface ∧ r.bmRequestType = 0x21#8 ∧
      r.bRequest = hidSetProtocol)

/-- The whole answer to a request that comes behind a history. -/
inductive Answer (image : Image) (joy : Joystick) (history : List Event) (r : SetupPacket) :
    List Event → Prop
  | descriptor (entry : DescriptorListStruct) (hrequest : r.bRequest = getDescriptor)
      (hfound : Image.find image r = some entry) :
      Answer image joy history r ((packets 32 (image.requested r entry)).map .packet)
  | descriptorAborted (entry : DescriptorListStruct) (k : Nat)
      (hrequest : r.bRequest = getDescriptor) (hfound : Image.find image r = some entry)
      (hk : k < (packets 32 (image.requested r entry)).length) :
      Answer image joy history r
        (((packets 32 (image.requested r entry)).take k).map .packet ++ [.aborted])
  | address (hrequest : r.bRequest = setAddress) :
      Answer image joy history r
        [.packet [], .udaddr (r.wValue.setWidth 8 ||| 1#8 <<< adden)]
  | configure (hrequest : r.bRequest = setConfiguration ∧ r.bmRequestType = 0x00#8) :
      Answer image joy history r (.packet [] :: configuring)
  | configuration (hrequest : r.bRequest = getConfiguration ∧ r.bmRequestType = 0x80#8) :
      Answer image joy history r [.packet [configurationOf history]]
  | status (hrequest : r.bRequest = getStatus) :
      Answer image joy history r
        [.packet [if r.bmRequestType = 0x82#8 ∧ haltedOf history (selected (r.wIndex.setWidth 8))
          then 1#8 else 0#8, 0#8]]
  | halt (hrequest : IsHalt r) : Answer image joy history r (.packet [] :: halting r)
  | report (hrequest : r.wIndex = joystickInterface ∧ r.bmRequestType = 0xA1#8 ∧
      r.bRequest = hidGetReport) :
      Answer image joy history r [.packet (usbSendCodes (reportOf joy history))]
  | protocol (hrequest : r.wIndex = joystickInterface ∧ r.bmRequestType = 0xA1#8 ∧
      r.bRequest = hidGetProtocol) :
      Answer image joy history r [.packet [protocolOf history]]
  | setProtocol (hrequest : r.wIndex = joystickInterface ∧ r.bmRequestType = 0x21#8 ∧
      r.bRequest = hidSetProtocol) :
      Answer image joy history r [.packet []]
  | refused (hunknown : ¬Supported image r) : Answer image joy history r [stall]

namespace Event

end Event

/-! ## Halt bits -/

/-- An event that leaves the halt bits of the endpoints 1 to 7 alone. -/
def Event.keepsHalts : Event → Bool
  | .reset _ => false
  | .ueconx endpoint value =>
      selected endpoint = 0#3 || !value.getLsbD stallrq && !value.getLsbD stallrqc
  | _ => true

theorem writeHalts_keeps {e : Event} (h : e.keepsHalts = true) (halted : BitVec 3 → Bool)
    {n : BitVec 3} (hn : n ≠ 0#3) : writeHalts halted e n = halted n := by
  cases e with
  | reset left => exact absurd h Bool.false_ne_true
  | request r => exact Function.update_of_ne hn _ _
  | ueconx endpoint value =>
      simp only [Event.keepsHalts, Bool.or_eq_true, decide_eq_true_iff, Bool.and_eq_true,
        Bool.not_eq_true'] at h
      rcases h with hzero | ⟨hset, hclear⟩
      · simp only [writeHalts, hzero]
        split_ifs <;> first | exact Function.update_of_ne hn _ _ | rfl
      · simp only [writeHalts, hset, hclear, Bool.false_eq_true, if_false]
  | _ => rfl

/-- Such events leave the bits alone one after the other. -/
theorem foldl_writeHalts {events : List Event} (h : ∀ e ∈ events, e.keepsHalts = true)
    (halted : BitVec 3 → Bool) {n : BitVec 3} (hn : n ≠ 0#3) :
    events.foldl writeHalts halted n = halted n := by
  induction events generalizing halted with
  | nil => rfl
  | cons e rest ih =>
      obtain ⟨hfirst, hrest⟩ := List.forall_mem_cons.mp h
      rw [List.foldl_cons, ih hrest, writeHalts_keeps hfirst halted hn]

/-- The variables of the device are what the history says. -/
structure Recorded (joy : Joystick) (history : List Event) (d : Device) : Prop where
  configuration : d.usb.usbConfiguration = configurationOf history
  protocol : d.usb.joystickProtocol = protocolOf history
  report : d.joy = reportOf joy history
  halted : ∀ n, n ≠ 0#3 → d.halted n = haltedOf history n

section Record
variable {joy : Joystick} {history shown : List Event} {d d' : Device}

theorem haltedOf_append {n : BitVec 3} (hn : n ≠ 0#3) (xs ys : List Event) :
    haltedOf (xs ++ ys) n = lastWrite (writesHalted n) (haltedOf xs n) ys := by
  rw [haltedOf, haltedOf, if_neg hn, if_neg hn, lastWrite_append]

/-- What an event writes is recorded. -/
theorem Recorded.event (h : Recorded joy history d) (e : Event)
    (hconfiguration :
      d'.usb.usbConfiguration = (writesConfiguration e).getD d.usb.usbConfiguration)
    (hprotocol : d'.usb.joystickProtocol = (writesProtocol e).getD d.usb.joystickProtocol)
    (hjoy : d'.joy = joyMachine.state d.joy (calledOf e).toList)
    (hhalted : ∀ n, n ≠ 0#3 → d'.halted n = (writesHalted n e).getD (d.halted n)) :
    Recorded joy (history ++ [e]) d' := by
  refine ⟨?_, ?_, ?_, fun n hn => ?_⟩
  · rw [hconfiguration, h.configuration, configurationOf, configurationOf, lastWrite_concat]
  · rw [hprotocol, h.protocol, protocolOf, protocolOf, lastWrite_concat]
  · have hcalls : [e].filterMap calledOf = (calledOf e).toList := by
      cases hcalled : calledOf e <;> simp [hcalled]
    rw [hjoy, h.report, reportOf, reportOf, List.filterMap_append, hcalls, Machine.state_append]
  · rw [hhalted n hn, h.halted n hn, haltedOf_append hn, lastWrite_singleton]

end Record

/-! ## The transfer of a descriptor -/

section Find
variable {image : Image} {r : SetupPacket} {before behind : List DescriptorListStruct}
  {entry : DescriptorListStruct}

end Find

/-- The place of the handler in the branch of `GET_DESCRIPTOR`, and what it has sent. -/
inductive Describing (image : Image) (r : SetupPacket) : Handler → List Event → Prop
  | searching (passed behind : List DescriptorListStruct)
      (htable : image.table = passed ++ behind) (hpassed : ∀ other ∈ passed, ¬other.Matches r) :
      Describing image r (searchingAt image passed.length) []
  | sending (entry : DescriptorListStruct) (full : List (List U8)) (descAddr : U16) (len : U8)
      (hfound : Image.find image r = some entry)
      (hpackets : packets 32 (image.requested r entry) =
        full ++ packets 32 (pgmRead image.flash len.toNat descAddr)) :
      Describing image r (.sending descAddr len) (full.map .packet)

/-- An answer is under way, with what it has shown so far. -/
def Underway (image : Image) (joy : Joystick) (history : List Event) (r : SetupPacket)
    (d : Device) (soFar : List Event) : Prop :=
  match d.place with
  | .outside => Answer image joy history r soFar
  | .replying reply =>
      soFar = [] ∧ Answer image joy history r [.packet (reply.bytes d)]
  | .addressing wValue => soFar = [.packet []] ∧ r.bRequest = setAddress ∧ wValue = r.wValue
  | .describing request h => request = r ∧ r.bRequest = getDescriptor ∧ Describing image r h soFar

/-! One reading, in each of the places. -/

section Poll
variable {image : Image} {r : SetupPacket} (usb : UsbVars) (j : Joystick)
  (halts : BitVec 3 → Bool) {ueintx : U8}

variable {descAddr : U16} {len : U8}

end Poll

section Describe
variable {image : Image} {joy : Joystick} {history soFar : List Event} {r : SetupPacket}
  {d : Device}

/-- A descriptor that is not in the table is not supported. -/
theorem not_supported_of_find (hrequest : r.bRequest = getDescriptor)
    (hnone : Image.find image r = none) : ¬Supported image r := by
  have hother {bRequest : U8} (hne : getDescriptor ≠ bRequest) : r.bRequest ≠ bRequest := by
    rwa [hrequest]
  intro h
  cases h with
  | descriptor _ hfound =>
      rw [hnone] at hfound
      exact absurd hfound Bool.false_ne_true
  | address h => exact hother (by decide) h
  | configure h => exact hother (by decide) h.1
  | configuration h => exact hother (by decide) h.1
  | status h => exact hother (by decide) h
  | halt h => exact h.1.elim (hother (by decide)) (hother (by decide))
  | report h => exact hother (by decide) h.2.2
  | protocol h => exact hother (by decide) h.2.2
  | setProtocol h => exact hother (by decide) h.2.2

/-- What is under way comes to an answer. -/
theorem Underway.completes (h : Underway image joy history r d soFar) :
    ∃ rest, Answer image joy history r (soFar ++ rest) := by
  obtain ⟨usb, j, halts, place⟩ := d
  cases place with
  | outside => exact ⟨[], by rwa [List.append_nil]⟩
  | replying reply =>
      obtain ⟨rfl, hanswer⟩ := h
      exact ⟨_, hanswer⟩
  | addressing wValue =>
      obtain ⟨rfl, hrequest, rfl⟩ := h
      exact ⟨_, .address hrequest⟩
  | describing request handler =>
      obtain ⟨rfl, hrequest, hdescribing⟩ := h
      cases hdescribing with
      | searching passed behind htable hpassed =>
          cases hfind : Image.find image request with
          | none => exact ⟨_, .refused (not_supported_of_find hrequest hfind)⟩
          | some entry => exact ⟨_, .descriptor entry hrequest hfind⟩
      | sending entry full descAddr len hfound hpackets =>
          have hanswer : Answer image joy history request _ :=
            .descriptor entry hrequest hfound
          rw [hpackets, List.map_append] at hanswer
          exact ⟨_, hanswer⟩

end Describe

/-! ## A new request -/

/-- A request that is answered behind a wait. -/
def RepliesTo (r : SetupPacket) : Reply → Prop
  | .configuration => r.bRequest = getConfiguration ∧ r.bmRequestType = 0x80#8
  | .status endpoint =>
      r.bRequest = getStatus ∧ endpoint = if r.bmRequestType = 0x82#8 then some r.wIndex else none
  | .report =>
      r.wIndex = joystickInterface ∧ r.bmRequestType = 0xA1#8 ∧ r.bRequest = hidGetReport
  | .protocol =>
      r.wIndex = joystickInterface ∧ r.bmRequestType = 0xA1#8 ∧ r.bRequest = hidGetProtocol

/-- What the handler does up to its first wait. -/
inductive Serves (image : Image) (d : Device) (r : SetupPacket) : Device × List Event → Prop
  | describes (h : r.bRequest = getDescriptor) :
      Serves image d r ({ d with place := .describing r (begun image) }, [])
  | addresses (h : r.bRequest = setAddress) :
      Serves image d r ({ d with place := .addressing r.wValue }, [.packet []])
  | configures (h : r.bRequest = setConfiguration ∧ r.bmRequestType = 0x00#8) :
      Serves image d r
        ({ d with usb := { d.usb with uenum := 4#8, usbConfiguration := r.wValue.setWidth 8 } },
          .packet [] :: configuring)
  | replies (reply : Reply) (h : RepliesTo r reply) :
      Serves image d r ({ d with place := .replying reply }, [])
  | halts (h : IsHalt r) :
      Serves image d r
        ({ d with usb := { d.usb with uenum := haltEndpoint r } }, .packet [] :: halting r)
  | setsProtocol (h : r.wIndex = joystickInterface ∧ r.bmRequestType = 0x21#8 ∧
      r.bRequest = hidSetProtocol) :
      Serves image d r
        ({ d with usb := { d.usb with joystickProtocol := r.wValue.setWidth 8 } }, [.packet []])
  | refuses (h : ¬Supported image r) : Serves image d r (d, [stall])

section Enter
variable {image : Image} {joy : Joystick} {history : List Event} {d : Device} {r : SetupPacket}
  {next : Device × List Event}

/-- A request that writes neither of the two variables. -/
def WritesNothing (r : SetupPacket) : Prop :=
  r.bRequest ≠ setConfiguration ∧ r.bRequest ≠ hidSetProtocol

theorem WritesNothing.configuration (h : WritesNothing r) :
    writesConfiguration (.request r) = none :=
  if_neg fun hset => h.1 hset.1

theorem WritesNothing.protocol (h : WritesNothing r) : writesProtocol (.request r) = none :=
  if_neg fun hset => h.2 hset.2.2

theorem writesNothing_of_eq {bRequest : U8} (h : r.bRequest = bRequest)
    (hother : bRequest ≠ setConfiguration ∧ bRequest ≠ hidSetProtocol) : WritesNothing r := by
  subst h
  exact hother

theorem RepliesTo.writesNothing {reply : Reply} (h : RepliesTo r reply) : WritesNothing r := by
  cases reply with
  | configuration => exact writesNothing_of_eq h.1 (by decide)
  | status endpoint => exact writesNothing_of_eq h.1 (by decide)
  | report => exact writesNothing_of_eq h.2.2 (by decide)
  | protocol => exact writesNothing_of_eq h.2.2 (by decide)

theorem IsHalt.writesNothing (h : IsHalt r) : WritesNothing r := by
  rcases h.1 with hclear | hset
  · exact writesNothing_of_eq hclear (by decide)
  · exact writesNothing_of_eq hset (by decide)

/-- What a request writes. -/
theorem Serves.writes (h : Serves image d r next) :
    next.1.usb.usbConfiguration =
        (writesConfiguration (.request r)).getD d.usb.usbConfiguration ∧
      next.1.usb.joystickProtocol = (writesProtocol (.request r)).getD d.usb.joystickProtocol ∧
      next.1.joy = d.joy := by
  have hnothing (hr : WritesNothing r) :
      d.usb.usbConfiguration = (writesConfiguration (.request r)).getD d.usb.usbConfiguration ∧
        d.usb.joystickProtocol = (writesProtocol (.request r)).getD d.usb.joystickProtocol ∧
        d.joy = d.joy := by
    rw [hr.configuration, hr.protocol]
    exact ⟨rfl, rfl, rfl⟩
  cases h with
  | describes h => exact hnothing (writesNothing_of_eq h (by decide))
  | addresses h => exact hnothing (writesNothing_of_eq h (by decide))
  | replies reply h => exact hnothing h.writesNothing
  | halts h => exact hnothing h.writesNothing
  | configures h =>
      have hother : ¬(r.wIndex = joystickInterface ∧ r.bmRequestType = 0x21#8 ∧
          r.bRequest = hidSetProtocol) := by
        rw [h.1]
        exact fun hset => absurd hset.2.2 (by decide)
      rw [writesConfiguration, if_pos h, writesProtocol, if_neg hother]
      exact ⟨rfl, rfl, rfl⟩
  | setsProtocol h =>
      have hother : ¬(r.bRequest = setConfiguration ∧ r.bmRequestType = 0x00#8) := by
        rw [h.2.2]
        exact fun hset => absurd hset.1 (by decide)
      rw [writesConfiguration, if_neg hother, writesProtocol, if_pos h]
      exact ⟨rfl, rfl, rfl⟩
  | refuses h =>
      have hconfiguration : ¬(r.bRequest = setConfiguration ∧ r.bmRequestType = 0x00#8) :=
        fun hset => h (.configure hset)
      have hprotocol : ¬(r.wIndex = joystickInterface ∧ r.bmRequestType = 0x21#8 ∧
          r.bRequest = hidSetProtocol) := fun hset => h (.setProtocol hset)
      rw [writesConfiguration, if_neg hconfiguration, writesProtocol, if_neg hprotocol]
      exact ⟨rfl, rfl, rfl⟩

/-- A reply is the one that the history calls for. -/
theorem Recorded.answer (hrec : Recorded joy history d) (hzero : d.halted 0#3 = false)
    {reply : Reply} (h : RepliesTo r reply) :
    Answer image joy history r [.packet (reply.bytes d)] := by
  cases reply with
  | configuration =>
      rw [Reply.bytes, hrec.configuration]
      exact .configuration h
  | status endpoint =>
      obtain ⟨hrequest, rfl⟩ := h
      have hstatus : Answer image joy history r _ := .status hrequest
      by_cases htype : r.bmRequestType = 0x82#8
      · have hhalted (n : BitVec 3) : d.halted n = haltedOf history n := by
          by_cases hn : n = 0#3
          · rw [hn, hzero, haltedOf, if_pos rfl]
          · exact hrec.halted n hn
        rw [if_pos htype, Reply.bytes, hhalted]
        simpa only [htype, true_and] using hstatus
      · rw [if_neg htype, Reply.bytes]
        simpa only [htype, false_and, if_false] using hstatus
  | report =>
      rw [Reply.bytes, hrec.report]
      exact .report h
  | protocol =>
      rw [Reply.bytes, hrec.protocol]
      exact .protocol h

/-- The answer is under way as soon as the request is read. -/
theorem Serves.underway (h : Serves image d r next) (hrec : Recorded joy history d)
    (houtside : d.place = .outside) :
    Underway image joy history r (settle (next.1, .request r :: next.2)).1 next.2 := by
  obtain ⟨usb, j, halts, place⟩ := d
  obtain rfl : place = .outside := houtside
  cases h with
  | describes h =>
      refine ⟨rfl, h, ?_⟩
      rw [begun_eq]
      exact .searching [] image.table rfl (List.forall_mem_nil _)
  | addresses h => exact ⟨rfl, h, rfl⟩
  | configures h => exact .configure h
  | replies reply h =>
      have hread : Recorded joy history
          ⟨usb, j, writeHalts halts (.request r), .replying reply⟩ :=
        ⟨hrec.configuration, hrec.protocol, hrec.report, fun n hn =>
          (Function.update_of_ne hn _ _).trans (hrec.halted n hn)⟩
      have hzero : writeHalts halts (.request r) 0#3 = false := by
        rw [writeHalts, Function.update_self]
      exact ⟨rfl, hread.answer hzero h⟩
  | halts h => exact .halt h
  | setsProtocol h => exact .setProtocol h
  | refuses h => exact .refused h

theorem not_halt_of_eq {bRequest : U8} (h : r.bRequest = bRequest)
    (hother : bRequest ≠ clearFeature ∧ bRequest ≠ setFeature) : ¬IsHalt r := by
  subst h
  exact fun hhalt => hhalt.1.elim hother.1 hother.2

theorem not_halt_of_type {bmRequestType : U8} (h : r.bmRequestType = bmRequestType)
    (hother : bmRequestType ≠ 0x02#8) : ¬IsHalt r := by
  subst h
  exact fun hhalt => hother hhalt.2.1

theorem RepliesTo.not_halt {reply : Reply} (h : RepliesTo r reply) : ¬IsHalt r := by
  cases reply with
  | configuration => exact not_halt_of_eq h.1 (by decide)
  | status endpoint => exact not_halt_of_eq h.1 (by decide)
  | report => exact not_halt_of_type h.2.1 (by decide)
  | protocol => exact not_halt_of_type h.2.1 (by decide)

/-- A halt request sets or clears the bit of its endpoint and no other. -/
theorem halting_writes (r : SetupPacket) (halted : BitVec 3 → Bool) (n : BitVec 3) :
    (halting r).foldl writeHalts halted n =
      if selected (haltEndpoint r) = n then decide (r.bRequest = setFeature) else halted n := by
  have hset : (stallValue.getLsbD stallrq) = true := by decide
  have hkept : (1#8 <<< stallrqc ||| 1#8 <<< rstdt ||| 1#8 <<< epen).getLsbD stallrq = false := by
    decide
  have hclear : (1#8 <<< stallrqc ||| 1#8 <<< rstdt ||| 1#8 <<< epen).getLsbD stallrqc = true := by
    decide
  by_cases hrequest : r.bRequest = setFeature
  · simp only [halting, List.foldl_cons, List.foldl_nil, writeHalts, hset, if_true,
      Function.update_apply, @eq_comm _ n, hrequest, decide_true]
  · simp only [halting, List.foldl_cons, List.foldl_nil, writeHalts, hkept, hclear,
      Bool.false_eq_true, if_false, if_true, Function.update_apply, @eq_comm _ n, hrequest,
      decide_false]

/-- What a request writes into the halt bits. -/
theorem Serves.halted (h : Serves image d r next) {n : BitVec 3} (hn : n ≠ 0#3) :
    (Event.request r :: next.2).foldl writeHalts next.1.halted n =
      (writesHalted n (.request r)).getD (d.halted n) := by
  have hkeeps {events : List Event} (hevents : ∀ e ∈ events, e.keepsHalts = true)
      (hother : ¬IsHalt r) :
      (Event.request r :: events).foldl writeHalts d.halted n =
        (writesHalted n (.request r)).getD (d.halted n) := by
    rw [writesHalted, if_neg fun hhalt => hother hhalt.1, foldl_writeHalts _ _ hn]
    · rfl
    · exact List.forall_mem_cons.mpr ⟨rfl, hevents⟩
  cases h with
  | describes h => exact hkeeps (List.forall_mem_nil _) (not_halt_of_eq h (by decide))
  | addresses h => exact hkeeps (List.forall_mem_singleton.mpr rfl) (not_halt_of_eq h (by decide))
  | configures h => exact hkeeps (List.forall_mem_cons.mpr ⟨rfl, by decide⟩) (not_halt_of_eq h.1 (by decide))
  | replies reply h => exact hkeeps (List.forall_mem_nil _) h.not_halt
  | halts h =>
      rw [List.foldl_cons, List.foldl_cons, halting_writes, writeHalts, writesHalted]
      by_cases hselected : selected (haltEndpoint r) = n
      · rw [if_pos hselected, if_pos ⟨h, hselected⟩, Option.getD_some]
      · rw [if_neg hselected, if_neg fun hboth => hselected hboth.2, Option.getD_none]
        exact Function.update_of_ne hn _ _
  | setsProtocol h => exact hkeeps (List.forall_mem_singleton.mpr rfl) (not_halt_of_type h.2.1 (by decide))
  | refuses h => exact hkeeps (List.forall_mem_singleton.mpr rfl) fun hhalt => h (.halt hhalt)

/-- Of the variables that outlast it, the handler makes what `usbComVect` says. -/
theorem Serves.usb (h : Serves image d r next) (huenum : d.usb.uenum = 0#8) {ueintx : U8}
    (hrxstpi : ueintx.getLsbD rxstpi = true) : next.1.usb = usbComVect d.usb ueintx r := by
  have hsame : ({ d.usb with uenum := 0#8 } : UsbVars) = d.usb := by
    rw [← huenum]
  simp only [usbComVect, hrxstpi, if_true, hsame]
  cases h with
  | describes h => rw [if_pos h]
  | addresses h => simp only [h, if_true, ite_self]
  | configures h => simp [h, getDescriptor, setAddress, setConfiguration]
  | replies reply h =>
      cases reply with
      | configuration =>
          simp [h.1, h.2, getDescriptor, setAddress, setConfiguration, getConfiguration]
      | status endpoint =>
          simp [h.1, getDescriptor, setAddress, setConfiguration, getConfiguration, getStatus]
      | report =>
          simp [h.2.1, h.2.2, getDescriptor, setAddress, setConfiguration, getConfiguration,
            getStatus, hidGetReport]
      | protocol =>
          simp [h.2.1, h.2.2, getDescriptor, setAddress, setConfiguration, getConfiguration,
            getStatus, hidGetProtocol]
  | halts h =>
      have hhalt := h
      simp only [IsHalt, haltEndpoint] at hhalt
      rw [if_neg, if_neg, if_neg, if_neg, if_neg, if_pos hhalt]
      · rfl
      all_goals rcases h.1 with hr | hr
      all_goals simp [hr, clearFeature, setFeature, getDescriptor, setAddress, setConfiguration,
        getConfiguration, getStatus]
  | setsProtocol h =>
      simp [h, getDescriptor, setAddress, setConfiguration, getConfiguration, getStatus,
        clearFeature, setFeature, hidSetProtocol, huenum]
  | refuses h =>
      have hset : ¬(r.bRequest = setConfiguration ∧ r.bmRequestType = 0x00#8) :=
        fun hset => h (.configure hset)
      have hhalt : ¬IsHalt r := fun hhalt => h (.halt hhalt)
      have hprotocol : ¬(r.wIndex = joystickInterface ∧ r.bmRequestType = 0x21#8 ∧
          r.bRequest = hidSetProtocol) := fun hset => h (.setProtocol hset)
      simp only [IsHalt, haltEndpoint] at hhalt
      simp only [if_neg hset, if_neg hhalt, if_neg hprotocol, ite_self]

end Enter

/-! ## Runs -/

section Run
variable {image : Image} {joy : Joystick} {shown history soFar : List Event} {d : Device}
  {r : SetupPacket}

end Run

/-! ## The way out of the handler -/

/-- How often the host must be ready before the handler is left, at most. -/
def Place.left (image : Image) : Place → Nat
  | .outside => 0
  | .replying _ | .addressing _ | .describing _ .returned => 1
  | .describing _ (.searching i _) => image.table.length - i.toNat + 10
  | .describing _ (.sending _ len) => len.toNat / 32 + 1

section Ready
variable {image : Image} {joy : Joystick} {shown : List Event} {d : Device}

end Ready

end DiyPs3Controller.ControlEndpoint
