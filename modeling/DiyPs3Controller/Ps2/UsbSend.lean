import DiyPs3Controller.Ps2.UsbJoystick

/-!
# A report on its way to the endpoint

`usb_joystick_send` statement by statement, with the two USB interrupts between
its statements whenever `SREG` enables them. The handlers select other
endpoints and may change the configuration; the function selects its own
endpoint again each time it has masked them.
-/

namespace DiyPs3Controller.UsbSend

open UsbJoystick

/-- `JOYSTICK_ENDPOINT` -/
def joystickEndpoint : U8 := 3#8

/-- `JOYSTICK_INTERFACE` -/
def joystickInterface : U16 := 0#16

/-- `MAX_ENDPOINT` -/
def maxEndpoint : U8 := 4#8

/-! Bit numbers of the at90usb1286. -/

def rwal : Nat := 5
def rxstpi : Nat := 3
def eorsti : Nat := 3
def globalInterruptEnable : Nat := 7

/-! Requests of `usb_joystick.h`. -/

def getStatus : U8 := 0#8
def clearFeature : U8 := 1#8
def setFeature : U8 := 3#8
def setAddress : U8 := 5#8
def getDescriptor : U8 := 6#8
def getConfiguration : U8 := 8#8
def setConfiguration : U8 := 9#8
def hidSetProtocol : U8 := 11#8

/-- The selected endpoint and the variables that the interrupt handlers write. -/
structure UsbVars where
  uenum : U8
  usbConfiguration : U8
  joystickProtocol : U8
  deriving DecidableEq, Repr

/-- The eight bytes of a request. -/
structure SetupPacket where
  bmRequestType : U8
  bRequest : U8
  wValue : U16
  wIndex : U16
  wLength : U16
  deriving DecidableEq, Repr

/-- `USB_GEN_vect`, with the value read from `UDINT`. -/
def usbGenVect (u : UsbVars) (udint : U8) : UsbVars :=
  if udint.getLsbD eorsti then { u with uenum := 0#8, usbConfiguration := 0#8 } else u

/-- `USB_COM_vect`, as far as it outlasts the handler, with the value read from
`UEINTX` and the request. The loop of `SET_CONFIGURATION` leaves the last of
the endpoints 1 to 4 selected, and `GET_STATUS` returns to endpoint 0. -/
def usbComVect (u : UsbVars) (ueintx : U8) (request : SetupPacket) : UsbVars :=
  let u := { u with uenum := 0#8 }
  if ueintx.getLsbD rxstpi then
    if request.bRequest = getDescriptor then u
    else if request.bRequest = setAddress then u
    else if request.bRequest = setConfiguration ∧ request.bmRequestType = 0x00#8 then
      { u with uenum := 4#8, usbConfiguration := request.wValue.setWidth 8 }
    else if request.bRequest = getConfiguration ∧ request.bmRequestType = 0x80#8 then u
    else if request.bRequest = getStatus then u
    else if (request.bRequest = clearFeature ∨ request.bRequest = setFeature) ∧
        request.bmRequestType = 0x02#8 ∧ request.wValue = 0#16 ∧
        1#8 ≤ request.wIndex.setWidth 8 &&& 0x7F#8 ∧
        request.wIndex.setWidth 8 &&& 0x7F#8 ≤ maxEndpoint then
      { u with uenum := request.wIndex.setWidth 8 &&& 0x7F#8 }
    else if request.wIndex = joystickInterface ∧ request.bmRequestType = 0x21#8 ∧
        request.bRequest = hidSetProtocol then
      { u with joystickProtocol := request.wValue.setWidth 8 }
    else u
  else u

/-- One of the two interrupts, with what its handler reads. -/
inductive Interrupt
  | usbGen (udint : U8)
  | usbCom (ueintx : U8) (request : SetupPacket)
  deriving DecidableEq, Repr

def Interrupt.handle (u : UsbVars) : Interrupt → UsbVars
  | .usbGen udint => usbGenVect u udint
  | .usbCom ueintx request => usbComVect u ueintx request

/-- The statements of `usb_joystick_send`, each named by what it does next. -/
inductive Point
  | testConfiguration
  | saveSreg
  | disable
  | selectEndpoint
  | startTimeout
  | readReady
  | restoreSreg
  | retestConfiguration
  | testTimeout
  | saveSregAgain
  | disableAgain
  | selectEndpointAgain
  | sendCode (k : Fin 6)
  | releaseBank
  | restoreSregLast
  | leave
  | returned (result : Int)
  deriving DecidableEq, Repr

/-- The call is over. -/
def Point.isReturned : Point → Bool
  | .returned _ => true
  | _ => false

/-- A call of `usb_joystick_send` on its way: registers, variables and locals. -/
structure Call where
  sreg : U8
  usb : UsbVars
  joy : Joystick
  intrState : U8
  timeout : U8
  point : Point
  deriving DecidableEq, Repr

/-- Accesses to the endpoint registers, each with the endpoint selected then,
and the interrupts in between. -/
inductive Access
  | readUeintx (uenum : U8)
  | writeUedatx (uenum data : U8)
  | writeUeintx (uenum data : U8)
  | interrupted
  deriving DecidableEq, Repr

/-- The next statement, with the values that `UEINTX` and `UDFNUML` read. -/
def Call.next (c : Call) (ueintx udfnuml : U8) : Call × List Access :=
  match c.point with
  | .testConfiguration =>
      ({ c with point := if c.usb.usbConfiguration = 0#8 then .returned (-1) else .saveSreg }, [])
  | .saveSreg => ({ c with intrState := c.sreg, point := .disable }, [])
  | .disable =>
      ({ c with sreg := c.sreg &&& ~~~(1#8 <<< globalInterruptEnable), point := .selectEndpoint },
        [])
  | .selectEndpoint =>
      ({ c with usb := { c.usb with uenum := joystickEndpoint }, point := .startTimeout }, [])
  | .startTimeout => ({ c with timeout := udfnuml + 50#8, point := .readReady }, [])
  | .readReady =>
      ({ c with point := if ueintx.getLsbD rwal then .sendCode 0 else .restoreSreg },
        [.readUeintx c.usb.uenum])
  | .restoreSreg => ({ c with sreg := c.intrState, point := .retestConfiguration }, [])
  | .retestConfiguration =>
      ({ c with point := if c.usb.usbConfiguration = 0#8 then .returned (-1) else .testTimeout },
        [])
  | .testTimeout =>
      ({ c with point := if udfnuml = c.timeout then .returned (-1) else .saveSregAgain }, [])
  | .saveSregAgain => ({ c with intrState := c.sreg, point := .disableAgain }, [])
  | .disableAgain =>
      ({ c with
          sreg := c.sreg &&& ~~~(1#8 <<< globalInterruptEnable)
          point := .selectEndpointAgain }, [])
  | .selectEndpointAgain =>
      ({ c with usb := { c.usb with uenum := joystickEndpoint }, point := .readReady }, [])
  | .sendCode k =>
      ({ c with point := if h : k.val + 1 < 6 then .sendCode ⟨k.val + 1, h⟩ else .releaseBank },
        [.writeUedatx c.usb.uenum ((usbSendCodes c.joy).getD k.val 0#8)])
  | .releaseBank =>
      ({ c with point := .restoreSregLast }, [.writeUeintx c.usb.uenum 0x3A#8])
  | .restoreSregLast => ({ c with sreg := c.intrState, point := .leave }, [])
  | .leave => ({ c with point := .returned 0 }, [])
  | .returned _ => (c, [])

/-- One statement, or one interrupt. -/
inductive SendInput
  | statement (ueintx udfnuml : U8)
  | interrupt (interrupt : Interrupt)
  deriving DecidableEq, Repr

/-- The call with the interrupts that are raised on the way. An interrupt is
taken when `SREG` enables it and the call has not returned; its handler
restores `SREG`. -/
def sendMachine : Machine Call SendInput Access where
  step c
    | .statement ueintx udfnuml => c.next ueintx udfnuml
    | .interrupt interrupt =>
        if c.sreg.getLsbD globalInterruptEnable && !c.point.isReturned then
          ({ c with usb := interrupt.handle c.usb }, [.interrupted])
        else (c, [])

namespace Point

/-- Between `cli` and the restoring of `SREG`. -/
def masked : Point → Bool
  | .selectEndpoint | .startTimeout | .readReady | .restoreSreg | .selectEndpointAgain
  | .sendCode _ | .releaseBank | .restoreSregLast => true
  | _ => false

/-- `intr_state` holds a copy of `SREG`. -/
def saved : Point → Bool
  | .disable | .disableAgain => true
  | point => point.masked

/-- The function has selected its endpoint and not let an interrupt in since. -/
def selected : Point → Bool
  | .startTimeout | .readReady | .sendCode _ | .releaseBank => true
  | _ => false

/-- How many of the seven accesses of a report have been made. -/
def written : Point → Nat
  | .sendCode k => k
  | .releaseBank => 6
  | .restoreSregLast | .leave => 7
  | .returned result => if result = 0 then 7 else 0
  | _ => 0

end Point

/-- The registers at each point of a call that began with the status `entry`. -/
structure Disciplined (entry : U8) (c : Call) : Prop where
  sreg : c.point.masked = false → c.sreg = entry
  masked : c.point.masked = true → c.sreg.getLsbD globalInterruptEnable = false
  saved : c.point.saved = true → c.intrState = entry
  selected : c.point.selected = true → c.usb.uenum = joystickEndpoint
  result : ∀ result, c.point = .returned result → result = 0 ∨ result = -1

theorem Point.masked_of_selected {point : Point} (h : point.selected = true) :
    point.masked = true := by
  cases point <;> first | rfl | exact absurd h Bool.false_ne_true

theorem Point.saved_of_masked {point : Point} (h : point.masked = true) : point.saved = true := by
  cases point <;> first | rfl | exact absurd h Bool.false_ne_true

section Discipline
variable {entry : U8} {c : Call}

/-- A point with nothing saved and interrupts let in. -/
theorem Disciplined.of_open (hopen : c.point.saved = false) (hsreg : c.sreg = entry)
    (hresult : ∀ result, c.point = .returned result → result = 0 ∨ result = -1) :
    Disciplined entry c := by
  have hunmasked : c.point.masked ≠ true := by
    intro h
    rw [Point.saved_of_masked h] at hopen
    exact Bool.false_ne_true hopen.symm
  refine ⟨fun _ => hsreg, fun h => absurd h hunmasked, ?_, ?_, hresult⟩
  · exact fun h => absurd (hopen.symm.trans h) Bool.false_ne_true
  · exact fun h => absurd (Point.masked_of_selected h) hunmasked

/-- A point between `cli` and the restoring of `SREG`. -/
theorem Disciplined.of_masked (hin : c.point.masked = true)
    (hmasked : c.sreg.getLsbD globalInterruptEnable = false) (hsaved : c.intrState = entry)
    (hselected : c.point.selected = true → c.usb.uenum = joystickEndpoint) :
    Disciplined entry c := by
  refine ⟨fun h => ?_, fun _ => hmasked, fun _ => hsaved, hselected, ?_⟩
  · exact absurd (h.symm.trans hin) Bool.false_ne_true
  · intro result hresult
    rw [hresult] at hin
    exact absurd hin Bool.false_ne_true

/-- The point at which `SREG` has just been copied. -/
theorem Disciplined.of_copied (hpoint : c.point = .disable ∨ c.point = .disableAgain)
    (hsreg : c.sreg = entry) (hsaved : c.intrState = entry) : Disciplined entry c := by
  rcases hpoint with h | h
  · exact ⟨fun _ => hsreg, by simp [h, Point.masked], fun _ => hsaved, by simp [h, Point.selected],
      by simp [h]⟩
  · exact ⟨fun _ => hsreg, by simp [h, Point.masked], fun _ => hsaved, by simp [h, Point.selected],
      by simp [h]⟩

theorem cli_clears (sreg : U8) :
    (sreg &&& ~~~(1#8 <<< globalInterruptEnable)).getLsbD globalInterruptEnable = false := by
  simp [globalInterruptEnable]

/-- An interrupt that is taken finds no endpoint selected by the function. -/
theorem interrupt_disciplined (h : Disciplined entry c)
    (henabled : c.sreg.getLsbD globalInterruptEnable = true) (usb : UsbVars) :
    Disciplined entry { c with usb := usb } := by
  have hunmasked : c.point.masked ≠ true := by
    intro hm
    exact Bool.false_ne_true ((h.masked hm).symm.trans henabled)
  refine ⟨h.sreg, h.masked, h.saved, ?_, h.result⟩
  exact fun hsel => absurd (Point.masked_of_selected hsel) hunmasked

/-- Every statement keeps the discipline. -/
theorem next_disciplined (h : Disciplined entry c) (ueintx udfnuml : U8) :
    Disciplined entry (c.next ueintx udfnuml).1 := by
  obtain ⟨hsreg, hmasked, hsaved, hselected, hresult⟩ := h
  obtain ⟨sreg, usb, joy, intrState, timeout, point⟩ := c
  cases point with
  | testConfiguration | retestConfiguration | testTimeout =>
      simp only [Call.next]
      split
      · exact .of_open rfl (hsreg rfl) fun _ h => Or.inr (Point.returned.inj h).symm
      · exact .of_open rfl (hsreg rfl) fun _ h => Point.noConfusion h
  | saveSreg => exact .of_copied (Or.inl rfl) (hsreg rfl) (hsreg rfl)
  | saveSregAgain => exact .of_copied (Or.inr rfl) (hsreg rfl) (hsreg rfl)
  | disable | disableAgain =>
      exact .of_masked rfl (cli_clears sreg) (hsaved rfl) fun h => absurd h Bool.false_ne_true
  | selectEndpoint | selectEndpointAgain =>
      exact .of_masked rfl (hmasked rfl) (hsaved rfl) fun _ => rfl
  | startTimeout => exact .of_masked rfl (hmasked rfl) (hsaved rfl) fun _ => hselected rfl
  | readReady =>
      simp only [Call.next]
      split
      · exact .of_masked rfl (hmasked rfl) (hsaved rfl) fun _ => hselected rfl
      · exact .of_masked rfl (hmasked rfl) (hsaved rfl) fun _ => hselected rfl
  | sendCode k =>
      simp only [Call.next]
      split
      · exact .of_masked rfl (hmasked rfl) (hsaved rfl) fun _ => hselected rfl
      · exact .of_masked rfl (hmasked rfl) (hsaved rfl) fun _ => hselected rfl
  | releaseBank => exact .of_masked rfl (hmasked rfl) (hsaved rfl) fun _ => hselected rfl
  | restoreSreg | restoreSregLast =>
      exact .of_open rfl (hsaved rfl) fun _ h => Point.noConfusion h
  | leave => exact .of_open rfl (hsreg rfl) fun _ h => Or.inl (Point.returned.inj h).symm
  | returned result => exact .of_open rfl (hsreg rfl) hresult

end Discipline

/-- Every step keeps the discipline. -/
theorem step_disciplined (entry : U8) (c : Call) (input : SendInput) (h : Disciplined entry c) :
    Disciplined entry (sendMachine.step c input).1 := by
  cases input with
  | statement ueintx udfnuml => exact next_disciplined h ueintx udfnuml
  | interrupt interrupt =>
      simp only [sendMachine]
      split
      case isTrue htaken =>
        rw [Bool.and_eq_true] at htaken
        exact interrupt_disciplined h htaken.1 _
      case isFalse => exact h

namespace Access

/-- A write to the endpoint. -/
def isWrite : Access → Bool
  | .writeUedatx _ _ | .writeUeintx _ _ => true
  | .readUeintx _ | .interrupted => false

/-- An access made while this endpoint is selected. -/
def At (endpoint : U8) : Access → Prop
  | .readUeintx uenum | .writeUedatx uenum _ | .writeUeintx uenum _ => uenum = endpoint
  | .interrupted => True

end Access

/-- The six bytes of a report and the release of the bank. -/
def burst (joy : Joystick) : List Access :=
  (usbSendCodes joy).map (.writeUedatx joystickEndpoint) ++ [.writeUeintx joystickEndpoint 0x3A#8]

/-- Nothing but reads and interrupts. -/
def Quiet (shown : List Access) : Prop := ∀ a ∈ shown, a.isWrite = false

theorem quiet_nil : Quiet [] := List.forall_mem_nil _

theorem burst_length (joy : Joystick) : (burst joy).length = 7 := rfl

/-- What a step may show: nothing, something quiet before the report or after
it, or the next access of the report. -/
inductive ShowsNext (c : Call) : Call × List Access → Prop
  | nothing (after : Call) (h : after.point.written = c.point.written) : ShowsNext c (after, [])
  | quiet (after : Call) (a : Access) (hends : c.point.written = 0 ∨ c.point.written = 7)
      (h : after.point.written = c.point.written) (ha : a.isWrite = false) :
      ShowsNext c (after, [a])
  | write (after : Call) (a : Access) (h : after.point.written = c.point.written + 1)
      (ha : (burst c.joy)[c.point.written]? = some a) : ShowsNext c (after, [a])

theorem sendCode_access (c : Call) (k : Fin 6) (huenum : c.usb.uenum = joystickEndpoint) :
    (burst c.joy)[k.val]? =
      some (.writeUedatx c.usb.uenum ((usbSendCodes c.joy).getD k.val 0#8)) := by
  have hk : k.val < (usbSendCodes c.joy).length := k.isLt
  have hmap : k.val < ((usbSendCodes c.joy).map (Access.writeUedatx joystickEndpoint)).length := by
    rw [List.length_map]
    exact hk
  rw [huenum, burst, List.getElem?_append_left hmap, List.getElem?_map,
    List.getD_eq_getElem?_getD, List.getElem?_eq_getElem hk]
  rfl

theorem written_nextCode (k : Fin 6) :
    (if h : k.val + 1 < 6 then Point.sendCode ⟨k.val + 1, h⟩ else Point.releaseBank).written =
      k.val + 1 := by
  split
  · rfl
  · have hlast : (6 : Nat) = k.val + 1 := by omega
    exact hlast

/-- Where interrupts are let in the report has not begun or is complete. -/
theorem written_of_unmasked {point : Point} (h : point.masked = false)
    (hreturned : point.isReturned = false) : point.written = 0 ∨ point.written = 7 := by
  cases point <;> simp_all [Point.masked, Point.written, Point.isReturned]

/-- Every step shows what it may. -/
theorem step_shows {entry : U8} {c : Call} (input : SendInput) (h : Disciplined entry c) :
    ShowsNext c (sendMachine.step c input) := by
  obtain ⟨hsreg, hmasked, hsaved, hselected, hresult⟩ := h
  cases input with
  | interrupt interrupt =>
      simp only [sendMachine]
      split
      case isTrue htaken =>
        rw [Bool.and_eq_true, Bool.not_eq_true'] at htaken
        have hunmasked : c.point.masked = false := by
          cases hm : c.point.masked with
          | false => rfl
          | true => simp [hmasked hm] at htaken
        exact .quiet _ _ (written_of_unmasked hunmasked htaken.2) rfl rfl
      case isFalse => exact .nothing _ rfl
  | statement ueintx udfnuml =>
      obtain ⟨sreg, usb, joy, intrState, timeout, point⟩ := c
      cases point with
      | sendCode k =>
          exact .write _ _ (written_nextCode k) (sendCode_access _ k (hselected rfl))
      | releaseBank =>
          have huenum : usb.uenum = joystickEndpoint := hselected rfl
          refine .write _ _ rfl ?_
          rw [huenum]
          rfl
      | readReady =>
          refine .quiet _ _ (Or.inl rfl) ?_ rfl
          split <;> rfl
      | testConfiguration | retestConfiguration | testTimeout =>
          refine .nothing _ ?_
          split <;> rfl
      | _ => exact .nothing _ rfl

/-- Every access is made with the joystick's endpoint selected, and the joystick state stays. -/
theorem step_at {entry : U8} {c : Call} (input : SendInput) (h : Disciplined entry c) :
    (∀ a ∈ (sendMachine.step c input).2, a.At joystickEndpoint) ∧
      (sendMachine.step c input).1.joy = c.joy := by
  have hselected := h.selected
  cases input with
  | interrupt interrupt =>
      simp only [sendMachine]
      split
      · exact ⟨List.forall_mem_singleton.mpr trivial, rfl⟩
      · exact ⟨List.forall_mem_nil _, rfl⟩
  | statement ueintx udfnuml =>
      obtain ⟨sreg, usb, joy, intrState, timeout, point⟩ := c
      cases point with
      | readReady | sendCode k | releaseBank =>
          exact ⟨List.forall_mem_singleton.mpr (hselected rfl), rfl⟩
      | _ => exact ⟨List.forall_mem_nil _, rfl⟩

/-- What a call has shown so far: the accesses of the report made so far one
behind the other, with something quiet before them and, once the report is
complete, behind them. -/
structure Progress (entry : U8) (joy : Joystick) (shown : List Access) (c : Call) : Prop where
  disciplined : Disciplined entry c
  joy_eq : c.joy = joy
  at_endpoint : ∀ a ∈ shown, a.At joystickEndpoint
  split : ∃ before behind, shown = before ++ (burst joy).take c.point.written ++ behind ∧
    Quiet before ∧ Quiet behind ∧ (c.point.written ≠ 7 → behind = [])

theorem quiet_concat {shown : List Access} {a : Access} (h : Quiet shown) (ha : a.isWrite = false) :
    Quiet (shown ++ [a]) :=
  List.forall_mem_append.mpr ⟨h, List.forall_mem_singleton.mpr ha⟩

/-- Every step goes on with the report. -/
theorem step_progress {entry : U8} {joy : Joystick} (shown : List Access) (c : Call)
    (input : SendInput) (h : Progress entry joy shown c) :
    Progress entry joy (shown ++ (sendMachine.step c input).2) (sendMachine.step c input).1 := by
  obtain ⟨hdisciplined, hjoy, hat, before, behind, hshown, hbefore, hbehind, hend⟩ := h
  obtain ⟨hnextat, hnextjoy⟩ := step_at input hdisciplined
  have hnext := step_disciplined entry c input hdisciplined
  refine ⟨hnext, hnextjoy.trans hjoy, List.forall_mem_append.mpr ⟨hat, hnextat⟩, ?_⟩
  have hstep := step_shows input hdisciplined
  generalize sendMachine.step c input = next at hstep hnext hnextat hnextjoy ⊢
  cases hstep with
  | nothing after hwritten =>
      refine ⟨before, behind, ?_, hbefore, hbehind, ?_⟩
      · rw [List.append_nil, hwritten, hshown]
      · rwa [hwritten]
  | quiet after a hends hwritten ha =>
      rcases hends with hzero | hseven
      · refine ⟨before ++ [a], [], ?_, quiet_concat hbefore ha, quiet_nil, fun _ => rfl⟩
        rw [hwritten, hshown, hend (by omega), hzero]
        simp
      · refine ⟨before, behind ++ [a], ?_, hbefore, quiet_concat hbehind ha, ?_⟩
        · rw [hwritten, hshown, List.append_assoc _ behind]
        · exact fun hne => absurd (hwritten.trans hseven) hne
  | write after a hwritten ha =>
      have hlt : c.point.written < (burst c.joy).length := by
        by_contra hge
        rw [List.getElem?_eq_none (Nat.le_of_not_lt hge)] at ha
        cases ha
      rw [burst_length] at hlt
      refine ⟨before, [], ?_, hbefore, quiet_nil, fun _ => rfl⟩
      rw [hwritten, hshown, hend (by omega), List.take_add_one, ← hjoy, ha]
      simp

/-- The beginning of a call, in any state. -/
def begun (c : Call) : Call := { c with point := .testConfiguration }

theorem begun_progress (c : Call) : Progress c.sreg c.joy [] (begun c) where
  disciplined := ⟨fun _ => rfl, fun h => absurd h Bool.false_ne_true,
    fun h => absurd h Bool.false_ne_true, fun h => absurd h Bool.false_ne_true,
    fun _ h => Point.noConfusion h⟩
  joy_eq := rfl
  at_endpoint := List.forall_mem_nil _
  split := ⟨[], [], rfl, quiet_nil, quiet_nil, fun _ => rfl⟩

theorem call_progress (c : Call) (inputs : List SendInput) :
    Progress c.sreg c.joy (sendMachine.outputs (begun c) inputs)
      (sendMachine.state (begun c) inputs) :=
  Machine.trace_of_step (T := Progress c.sreg c.joy) step_progress (begun_progress c) inputs

theorem not_quiet_burst (joy : Joystick) (before behind : List Access) :
    ¬ Quiet (before ++ burst joy ++ behind) := by
  intro h
  have hrelease := h (.writeUeintx joystickEndpoint 0x3A#8) (by simp [burst])
  exact absurd hrelease (by decide)

/-- However the two interrupts are interleaved with a call of
`usb_joystick_send`: its endpoint is selected at every access that it makes;
it returns 0 exactly when it has written the six bytes of the report one behind
the other and then released the bank, and nothing else; when it returns -1 it
has written nothing; and `SREG` is on every return what it was on entry. -/
theorem reports_not_torn (c : Call) (inputs : List SendInput) :
    let shown := sendMachine.outputs (begun c) inputs
    let after := sendMachine.state (begun c) inputs
    (∀ a ∈ shown, a.At joystickEndpoint) ∧
      ∀ result, after.point = .returned result →
        (result = 0 ∨ result = -1) ∧
          (result = 0 ↔ ∃ before behind,
            shown = before ++ burst c.joy ++ behind ∧ Quiet before ∧ Quiet behind) ∧
          (result = -1 → Quiet shown) ∧ after.sreg = c.sreg := by
  intro shown after
  obtain ⟨hdisciplined, hjoy, hat, before, behind, hshown, hbefore, hbehind, hend⟩ :=
    call_progress c inputs
  refine ⟨hat, ?_⟩
  intro result hresult
  have hsreg : after.sreg = c.sreg := hdisciplined.sreg (by rw [hresult]; rfl)
  have hwritten : after.point.written = if result = 0 then 7 else 0 := by
    rw [hresult]
    rfl
  rcases hdisciplined.result result hresult with rfl | rfl
  · have hburst : shown = before ++ burst c.joy ++ behind := by
      rw [hwritten, if_pos rfl, ← burst_length c.joy, List.take_length] at hshown
      exact hshown
    refine ⟨Or.inl rfl, ⟨fun _ => ⟨before, behind, hburst, hbefore, hbehind⟩, fun _ => rfl⟩, ?_,
      hsreg⟩
    exact fun h => absurd h (by decide)
  · have hquiet : Quiet shown := by
      rw [hwritten, if_neg (by decide), List.take_zero, List.append_nil] at hshown
      have hnil : behind = [] := hend (by rw [hwritten]; decide)
      rw [hnil, List.append_nil] at hshown
      rwa [← hshown] at hbefore
    refine ⟨Or.inr rfl, ⟨fun h => absurd h (by decide), ?_⟩, fun _ => hquiet, hsreg⟩
    rintro ⟨before, behind, hburst, -, -⟩
    rw [hburst] at hquiet
    exact absurd hquiet (not_quiet_burst c.joy before behind)

/-- A call with the device configured and interrupts enabled. -/
def enabledCall : Call where
  sreg := 0x80#8
  usb := { uenum := 0#8, usbConfiguration := 1#8, joystickProtocol := 1#8 }
  joy := usbJoystickRaz
  intrState := 0#8
  timeout := 0#8
  point := .testConfiguration

/-- The endpoint is not ready at first, and then the host clears a halt of
endpoint 2, with a reset of the bus behind the report. -/
def interruptedOnce : List SendInput :=
  List.replicate 7 (.statement 0x00#8 10#8) ++
    [.interrupt (.usbCom 0x08#8
      { bmRequestType := 0x02#8, bRequest := clearFeature, wValue := 0#16, wIndex := 2#16,
        wLength := 0#16 })] ++
    List.replicate 14 (.statement 0x20#8 11#8) ++ [.interrupt (.usbGen 0x08#8)] ++
    [.statement 0x20#8 12#8]

theorem reports_not_torn_interruptedOnce :
    ((0 : Int) = 0 ↔ ∃ before behind,
        sendMachine.outputs (begun enabledCall) interruptedOnce =
          before ++ burst usbJoystickRaz ++ behind ∧ Quiet before ∧ Quiet behind) ∧
      (sendMachine.state (begun enabledCall) interruptedOnce).sreg = 0x80#8 := by
  obtain ⟨-, hresult, -, hsreg⟩ :=
    (reports_not_torn enabledCall interruptedOnce).2 0 (by decide +kernel)
  exact ⟨hresult, hsreg⟩

end DiyPs3Controller.UsbSend
