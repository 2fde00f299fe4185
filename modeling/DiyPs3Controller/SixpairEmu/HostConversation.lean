import DiyPs3Controller.SixpairEmu.ControlRegisters

/-!
# The conversation with the host

Each case of the switch of the library, with the interrupts of its waits: the
requests that the device knows are accepted with the reply that its history
gives, all others are stalled, and the record of the run goes on.
-/

namespace DiyPs3Controller.SixpairEmu

open UsbDevice

/-! ## The requests -/

/-- Several things that write nothing. -/
theorem Recorded.silents {eeprom : Eeprom} {history shown : List Shown} {s : UsbDevice}
    (h : Recorded eeprom history s) (hshown : ∀ e ∈ shown, e.Silent) :
    Recorded eeprom (history ++ shown) s := by
  induction shown generalizing history with
  | nil => rwa [List.append_nil]
  | cons e rest ih =>
      obtain ⟨he, hrest⟩ := List.forall_mem_cons.mp hshown
      rw [List.append_cons]
      exact ih (h.silent he) hrest

/-- What the switch makes of a request behind a history. -/
structure Serves (eeprom : Eeprom) (history : List Shown) (s : UsbDevice) (r : SetupPacket)
    (served : UsbDevice × List Shown) : Prop where
  recorded : Recorded eeprom (history ++ served.2) served.1
  refused : ¬Supported r → served = (s, [])
  accepted : Supported r → ∃ rest, served.2 = .accepted r :: rest ∧ .stalled ∉ rest ∧
    rest.filterMap sentData = (dataStage eeprom history r).toList

section Serve
variable {eeprom : Eeprom} {history shown : List Shown} {s s' : UsbDevice} {x : Exchange}

theorem Serves.of_refused (h : Recorded eeprom history s) (hrefused : ¬Supported x.setup) :
    Serves eeprom history s x.setup (s, []) where
  recorded := by rwa [List.append_nil]
  refused _ := rfl
  accepted hsupported := absurd hsupported hrefused

theorem sentData_interrupts (flags : List GenFlags) :
    (flags.map Shown.interrupt).filterMap sentData = [] := by
  rw [List.filterMap_map]
  exact List.filterMap_eq_nil_iff.mpr fun _ _ => rfl

theorem stalled_interrupts (flags : List GenFlags) :
    Shown.stalled ∉ flags.map Shown.interrupt := by
  intro hmem
  obtain ⟨f, -, hf⟩ := List.mem_map.mp hmem
  cases hf

/-- A request with one wait, at the end of its handler. -/
theorem Serves.of_acknowledge {done : List Shown} (hsupported : Supported x.setup)
    (h : Recorded eeprom (history ++ .accepted x.setup :: done) s') (hdone : .stalled ∉ done)
    (hsent : done.filterMap sentData = (dataStage eeprom history x.setup).toList) :
    Serves eeprom history s x.setup (s'.acknowledge x done) where
  recorded := by
    have hwaited := h.interrupts (s'.taken x.first)
    rwa [List.append_assoc] at hwaited
  refused hrefused := absurd hsupported hrefused
  accepted _ := by
    refine ⟨done ++ (s'.taken x.first).map .interrupt, rfl, ?_, ?_⟩
    · rw [List.mem_append, not_or]
      exact ⟨hdone, stalled_interrupts _⟩
    · rw [List.filterMap_append, sentData_interrupts, List.append_nil, hsent]

/-- The reply of the history is that of the device. -/
theorem Recorded.dataStage (h : Recorded eeprom history s) (r : SetupPacket) :
    ∃ d₀, SixpairEmu.dataStage eeprom history r = replyTo s.view d₀ r ∧
      d₀.forget = s.hid.device.forget := by
  have hdevice := h.device
  unfold SixpairEmu.dataStage
  cases hemulated : emulated eeprom history with
  | error fault => rw [hemulated] at hdevice; cases hdevice
  | ok d₀ =>
      rw [hemulated] at hdevice
      exact ⟨d₀, by rw [h.view], Except.ok.inj hdevice⟩

/-- An accepted request that writes no register. -/
theorem silent_accepted {r : SetupPacket} (hset : requestCase r ≠ .setConfiguration)
    (hfeature : ¬(requestCase r = .clearSetFeature ∧ OfDevice r)) :
    (Shown.accepted r).Silent := by
  refine ⟨rfl, fun v => ?_⟩
  rw [HostView.write, writesConfiguration, if_neg hset, writesRemoteWakeup, if_neg hfeature]
  rfl

theorem silent_sent (data : InData) : (Shown.sent data).Silent := ⟨rfl, fun _ => rfl⟩

/-- A request with a reply from the device. -/
theorem Serves.of_reply (h : Recorded eeprom history s) {data : InData}
    (hsupported : Supported x.setup) (hset : requestCase x.setup ≠ .setConfiguration)
    (hfeature : requestCase x.setup ≠ .clearSetFeature)
    (hdata : ∀ d₀ : Device, d₀.forget = s.hid.device.forget →
      replyTo s.view d₀ x.setup = some data) :
    Serves eeprom history s x.setup (s.reply x data) := by
  have hsilent := silent_accepted hset fun hboth => hfeature hboth.1
  refine .of_acknowledge hsupported ?_ (by simp) ?_
  · have hsent := (h.silent hsilent).silent (silent_sent data)
    rwa [List.append_assoc] at hsent
  · obtain ⟨d₀, hstage, hemulated⟩ := h.dataStage x.setup
    rw [hstage, hdata d₀ hemulated]
    rfl

/-! The cases of the switch. -/

theorem requestCase_getStatus {r : SetupPacket} (h : requestCase r = .getStatus) :
    r.bmRequestType = reqdirDevicetohost ||| reqtypeStandard ||| reqrecDevice ∨
      r.bmRequestType = reqdirDevicetohost ||| reqtypeStandard ||| reqrecEndpoint := by
  unfold requestCase at h
  split_ifs at h with htests
  exact htests.2

theorem requestCase_clearSetFeature {r : SetupPacket} (h : requestCase r = .clearSetFeature) :
    r.bmRequestType = reqdirHosttodevice ||| reqtypeStandard ||| reqrecDevice ∨
      r.bmRequestType = reqdirHosttodevice ||| reqtypeStandard ||| reqrecEndpoint := by
  unfold requestCase at h
  split_ifs at h with _ htests
  exact htests.2

theorem serves_getStatus (h : Recorded eeprom history s)
    (hcase : requestCase x.setup = .getStatus) :
    Serves eeprom history s x.setup (s.getStatus x) := by
  have hsupported : Supported x.setup := by rw [Supported, hcase]; trivial
  unfold UsbDevice.getStatus
  split
  next htype =>
    refine .of_reply h hsupported (by rw [hcase]; decide) (by rw [hcase]; decide) fun d₀ _ => ?_
    have hpowered : s.usbCurrentlySelfPowered = false := h.sound.busPowered
    have hwakeup : s.view.remoteWakeup = s.usbRemoteWakeupEnabled := rfl
    rw [replyTo, hcase, hpowered]
    dsimp only
    rw [if_pos htype, hwakeup]
    cases s.usbRemoteWakeupEnabled <;> rfl
  next htype =>
    have hendpoint := (requestCase_getStatus hcase).resolve_left htype
    rw [if_pos hendpoint]
    refine .of_reply h hsupported (by rw [hcase]; decide) (by rw [hcase]; decide) fun d₀ _ => ?_
    rw [replyTo, hcase]
    dsimp only
    rw [if_neg htype]
    rfl

theorem serves_getConfiguration (h : Recorded eeprom history s)
    (hcase : requestCase x.setup = .getConfiguration) :
    Serves eeprom history s x.setup (s.getConfiguration x) := by
  refine .of_reply h (by rw [Supported, hcase]; trivial) (by rw [hcase]; decide)
    (by rw [hcase]; decide) fun d₀ _ => ?_
  rw [replyTo, hcase]
  rfl

/-- There is a descriptor where the callback finds one. -/
theorem callbackGetDescriptor_isSome (d : Device) (wValue : U16) :
    (callbackGetDescriptor d wValue).isSome = true ↔ HasDescriptor wValue := by
  unfold callbackGetDescriptor HasDescriptor
  dsimp only
  split_ifs <;> simp_all

theorem serves_getDescriptor (h : Recorded eeprom history s)
    (hcase : requestCase x.setup = .getDescriptor) :
    Serves eeprom history s x.setup (s.getDescriptor x) := by
  have hfound := callbackGetDescriptor_isSome s.hid.device x.setup.wValue
  unfold UsbDevice.getDescriptor
  split
  next hnone =>
    refine .of_refused h ?_
    rw [Supported, hcase]
    intro hhas
    have hsome := hfound.mpr hhas
    rw [hnone] at hsome
    cases hsome
  next descriptor hsome =>
    refine .of_reply h ?_ (by rw [hcase]; decide) (by rw [hcase]; decide) fun d₀ hemulated => ?_
    · rw [Supported, hcase]
      exact hfound.mp (by rw [hsome]; rfl)
    · have hsame : callbackGetDescriptor d₀ x.setup.wValue =
          callbackGetDescriptor s.hid.device x.setup.wValue := by
        have hboth := congrArg (callbackGetDescriptor · x.setup.wValue) hemulated
        exact hboth
      rw [replyTo, hcase]
      dsimp only
      rw [hsame, hsome]
      rfl

/-- A request without a reply. -/
theorem dataStage_none (h : Recorded eeprom history s) {r : SetupPacket}
    (hcase : requestCase r = .clearSetFeature ∨ requestCase r = .setAddress ∨
      requestCase r = .setConfiguration) :
    dataStage eeprom history r = none := by
  obtain ⟨d₀, hstage, -⟩ := h.dataStage r
  rw [hstage, replyTo]
  rcases hcase with hcase | hcase | hcase <;> rw [hcase]

/-- A feature of the device. -/
theorem Recorded.feature (h : Recorded eeprom history s) {r : SetupPacket}
    (hcase : requestCase r = .clearSetFeature) (hdevice : OfDevice r) :
    Recorded eeprom (history ++ [.accepted r])
      { s with usbRemoteWakeupEnabled := r.bRequest = reqSetFeature } := by
  have hset : requestCase r ≠ .setConfiguration := by rw [hcase]; decide
  refine h.concat rfl ?_ ⟨rfl, fun hs => ⟨hs.vbus, hs.eorsti, hs.busPowered, hs.opened, hs.closed⟩⟩
  rw [HostView.write, writesConfiguration, if_neg hset, writesRemoteWakeup,
    if_pos ⟨hcase, hdevice⟩]
  rfl

/-- The halt bit of an endpoint. -/
theorem Recorded.halt (h : Recorded eeprom history s) (n : Fin 8) (value : Bool) :
    Recorded eeprom (history ++ [.stallrq n value])
      { s with
        endpoints := Function.update s.endpoints n { s.endpoints n with stallrq := value } } := by
  have hepen : ∀ m, (Function.update s.endpoints n
      { s.endpoints n with stallrq := value } m).epen = (s.endpoints m).epen := by
    intro m
    by_cases hm : m = n
    · subst hm
      rw [Function.update_self]
    · rw [Function.update_of_ne hm]
  have hstallrq : ∀ m, (Function.update s.endpoints n
      { s.endpoints n with stallrq := value } m).stallrq =
        (writesHalted m (.stallrq n value)).getD (s.endpoints m).stallrq := by
    intro m
    by_cases hm : n = m
    · subst hm
      rw [Function.update_self, writesHalted, if_pos rfl, Option.getD_some]
    · rw [Function.update_of_ne (Ne.symm hm), writesHalted, if_neg hm, Option.getD_none]
  refine h.concat rfl ?_ ⟨rfl, fun hs => ⟨hs.vbus, hs.eorsti, hs.busPowered, ?_, ?_⟩⟩
  · exact HostView.ext rfl rfl rfl rfl (hepen sixaxisInEpnum) (funext hstallrq)
  · rw [hepen, hepen, hs.opened]
  · intro m hcontrol hin hout
    rw [hepen, hs.closed m hcontrol hin hout]

theorem serves_clearSetFeature (h : Recorded eeprom history s)
    (hcase : requestCase x.setup = .clearSetFeature) :
    Serves eeprom history s x.setup (s.clearSetFeature x) := by
  have hstage := dataStage_none h (Or.inl hcase)
  have hset : requestCase x.setup ≠ .setConfiguration := by rw [hcase]; decide
  have hsupported : Supported x.setup ↔ KnownFeature x.setup := by rw [Supported, hcase]
  unfold UsbDevice.clearSetFeature
  dsimp only
  split
  next hdevice =>
    have hof : OfDevice x.setup := hdevice
    have hknown : KnownFeature x.setup ↔ lowValue x.setup = featureRemoteWakeup := by
      rw [KnownFeature, if_pos hof]
    split
    next hvalue =>
      refine .of_acknowledge (hsupported.mpr (hknown.mpr hvalue)) (h.feature hcase hof)
        (by simp) ?_
      rw [hstage]
      rfl
    next hvalue =>
      exact .of_refused h fun hs => hvalue (hknown.mp (hsupported.mp hs))
  next hdevice =>
    have hof : ¬OfDevice x.setup := hdevice
    have hsilent := silent_accepted hset fun hboth => hof hboth.2
    have hendpoint : x.setup.bmRequestType &&& controlReqtypeRecipient = reqrecEndpoint := by
      rcases requestCase_clearSetFeature hcase with htype | htype
      · exact absurd (by rw [htype]; rfl) hdevice
      · rw [htype]
        rfl
    have hknown : KnownFeature x.setup ↔ lowValue x.setup ≠ featureEndpointHalt ∨
        uenum (x.setup.wIndex.setWidth 8 &&& 0x07#8) ≠ endpointControlep := by
      rw [KnownFeature, if_neg hof]
    rw [if_pos hendpoint]
    split
    next hvalue =>
      split
      next hcontrol =>
        refine .of_refused h fun hs => ?_
        rcases hknown.mp (hsupported.mp hs) with hother | hother
        · exact hother hvalue
        · exact hother hcontrol
      next hcontrol =>
        have hsupported' := hsupported.mpr (hknown.mpr (Or.inr hcontrol))
        split
        next hepen =>
          refine .of_acknowledge hsupported' ?_ (by simp) (by rw [hstage]; rfl)
          have hhalt := (h.silent hsilent).halt
            (uenum (x.setup.wIndex.setWidth 8 &&& 0x07#8)) (x.setup.bRequest = reqSetFeature)
          rwa [List.append_assoc] at hhalt
        next hepen =>
          exact .of_acknowledge hsupported' (h.silent hsilent) (by simp) (by rw [hstage]; rfl)
    next hvalue =>
      exact .of_acknowledge (hsupported.mpr (hknown.mpr (Or.inl hvalue))) (h.silent hsilent)
        (by simp) (by rw [hstage]; rfl)

theorem serves_setAddress (h : Recorded eeprom history s)
    (hcase : requestCase x.setup = .setAddress) :
    Serves eeprom history s x.setup (s.setAddress x) := by
  have hsupported : Supported x.setup := by rw [Supported, hcase]; trivial
  have hsilent : (Shown.accepted x.setup).Silent :=
    silent_accepted (by rw [hcase]; decide) (by rw [hcase]; rintro ⟨hother, -⟩; cases hother)
  have hstage := dataStage_none h (Or.inr (Or.inl hcase))
  have hwaited := ((h.silent hsilent).interrupts (s.taken x.first)).interrupts
    ((s.waited x.first).taken x.second)
  rw [List.append_assoc, ← List.map_append, List.append_assoc] at hwaited
  unfold UsbDevice.setAddress
  dsimp only
  split
  next hready =>
    refine ⟨?_, fun hrefused => absurd hsupported hrefused, fun _ =>
      ⟨(s.taken x.first ++ (s.waited x.first).taken x.second).map .interrupt ++ [.udaddr _],
        rfl, by simp, ?_⟩⟩
    · dsimp only
      rw [← List.append_assoc]
      exact hwaited.concat rfl rfl (.of_endpoints rfl rfl rfl rfl rfl)
    · rw [List.filterMap_append, sentData_interrupts, hstage]
      rfl
  next hready =>
    refine ⟨hwaited, fun hrefused => absurd hsupported hrefused, fun _ =>
      ⟨_, rfl, stalled_interrupts _, ?_⟩⟩
    rw [sentData_interrupts, hstage]
    rfl

/-- The configuration that the host sets. -/
theorem Recorded.configuration (h : Recorded eeprom history s) {r : SetupPacket}
    (hcase : requestCase r = .setConfiguration) :
    Recorded eeprom (history ++ [.accepted r])
      { s with usbConfigurationNumber := lowValue r } := by
  have hfeature : ¬(requestCase r = .clearSetFeature ∧ OfDevice r) := by
    rintro ⟨hother, -⟩
    cases hcase.symm.trans hother
  refine h.concat rfl ?_ (.of_endpoints rfl rfl rfl rfl rfl)
  rw [HostView.write, writesConfiguration, if_pos hcase, writesRemoteWakeup, if_neg hfeature]
  rfl

/-- The state is not recorded. -/
theorem Recorded.withState (h : Recorded eeprom history s) (state : DeviceState) :
    Recorded eeprom history { s with usbDeviceState := state } :=
  ⟨h.view, h.device, h.sound.vbus, h.sound.eorsti, h.sound.busPowered, h.sound.opened,
    h.sound.closed⟩

/-- The event of a new configuration opens both data endpoints. -/
theorem Recorded.configurationChanged (h : Recorded eeprom history s) :
    Recorded eeprom (history ++ [.configurationChanged]) s.configurationChanged := by
  have hstallrq : ∀ n, (s.configurationChanged.endpoints n).stallrq = (s.endpoints n).stallrq := by
    intro n
    simp only [UsbDevice.configurationChanged, Function.update_apply]
    split_ifs with hout hin <;> simp_all [Endpoint.configure]
  have hin : (s.configurationChanged.endpoints sixaxisInEpnum).epen = true := rfl
  have hout : (s.configurationChanged.endpoints sixaxisOutEpnum).epen = true := rfl
  refine h.concat rfl ?_ ⟨rfl, fun hs => ⟨hs.vbus, hs.eorsti, hs.busPowered, ?_, ?_⟩⟩
  · exact HostView.ext rfl rfl rfl rfl hin (funext hstallrq)
  · rw [hin, hout]
  · intro n hcontrol hinne houtne
    rw [UsbDevice.configurationChanged]
    dsimp only
    rw [Function.update_of_ne houtne, Function.update_of_ne hinne,
      hs.closed n hcontrol hinne houtne]

theorem serves_setConfiguration (h : Recorded eeprom history s)
    (hcase : requestCase x.setup = .setConfiguration) :
    Serves eeprom history s x.setup (s.setConfiguration x) := by
  have hsupported : Supported x.setup ↔ lowValue x.setup ≤ fixedNumConfigurations := by
    rw [Supported, hcase]
  unfold UsbDevice.setConfiguration
  split
  next hvalue =>
    refine .of_refused h fun hs => ?_
    exact absurd (hsupported.mp hs) (BitVec.not_le.mpr hvalue)
  next hvalue =>
    have hs := hsupported.mpr (BitVec.not_lt.mp hvalue)
    dsimp only
    generalize hset : ({ s with usbConfigurationNumber := x.setup.wValue.setWidth 8 } : UsbDevice) =
      s₁
    have hconfigured : Recorded eeprom (history ++ [.accepted x.setup]) s₁ := by
      rw [← hset]
      exact h.configuration hcase
    have hwaited := hconfigured.interrupts (s₁.taken x.first)
    have hstate : Recorded eeprom
        (history ++ [.accepted x.setup] ++ (s₁.taken x.first).map .interrupt)
        { s₁.waited x.first with
          usbDeviceState := stateOf (s₁.waited x.first).usbConfigurationNumber } :=
      hwaited.withState _
    have hchanged := hstate.configurationChanged
    refine ⟨?_, fun hrefused => absurd hs hrefused, fun _ =>
      ⟨(s₁.taken x.first).map .interrupt ++ [.configurationChanged], rfl, by simp, ?_⟩⟩
    · rwa [List.append_assoc, List.append_assoc] at hchanged
    · rw [List.filterMap_append, sentData_interrupts,
        dataStage_none h (Or.inr (Or.inr hcase))]
      rfl

/-- A class request with the number of a SetReport is one. -/
theorem isSetReport_of_class {r : ControlRequest} (hclass : IsClassRequest r)
    (hrequest : r.bRequest = reqSetReport) : r.IsSetReport := by
  rw [IsClassRequest, hrequest] at hclass
  exact ⟨hrequest, (Option.some.inj hclass).symm⟩

/-- A class request, with the emulator's branch behind it. -/
theorem serves_unhandled (h : Recorded eeprom history s) (hcase : requestCase x.setup = .unhandled)
    {served : UsbDevice × List Shown} (hrun : s.unhandled x = .ok served) :
    Serves eeprom history s x.setup served := by
  have hsupported : Supported x.setup ↔ IsClassRequest x.setup.toControlRequest := by
    rw [Supported, hcase]
  have hsilent : (Shown.accepted x.setup).Silent :=
    silent_accepted (by rw [hcase]; decide) (by rw [hcase]; rintro ⟨hother, -⟩; cases hother)
  obtain ⟨d₀, hstage, hemulated⟩ := h.dataStage x.setup
  have hreply : dataStage eeprom history x.setup = classReply s.view d₀ x.setup := by
    rw [hstage, replyTo, hcase]
  unfold UsbDevice.unhandled at hrun
  split at hrun
  next hother =>
    obtain rfl := Except.ok.inj hrun
    exact .of_refused h fun hs => hother (hsupported.mp hs)
  next hclass =>
    have hs := hsupported.mpr (not_not.mp hclass)
    split at hrun
    next hset =>
      have htype := (isSetReport_of_class (not_not.mp hclass) hset).2
      have hnone : dataStage eeprom history x.setup = none := by
        rw [hreply, classReply, if_neg (by rw [htype]; decide)]
      have hleft (flags : List GenFlags) : Serves eeprom history s x.setup
          (s.interrupts flags, .accepted x.setup :: flags.map .interrupt) := by
        have hwaited := (h.silent hsilent).interrupts flags
        rw [List.append_assoc] at hwaited
        refine ⟨hwaited, fun hrefused => absurd hs hrefused, fun _ =>
          ⟨_, rfl, stalled_interrupts _, ?_⟩⟩
        rw [sentData_interrupts, hnone]
        rfl
      split at hrun
      next hempty =>
        cases hrounds : s.untilUnattached x.first.rounds with
        | none => rw [hrounds] at hrun; cases hrun
        | some flags =>
            rw [hrounds] at hrun
            obtain rfl := Except.ok.inj hrun
            exact hleft flags
      next hfull =>
        dsimp only at hrun
        split at hrun
        next hready =>
          have hdata := (hleft (s.taken x.first)).recorded.interrupts
            ((s.waited x.first).taken x.second)
          cases hhandled : unhandledControlRequest ((s.waited x.first).waited x.second).hid.device
              x.setup.toControlRequest with
          | error fault => rw [hhandled] at hrun; cases hrun
          | ok handled =>
              rw [hhandled] at hrun
              obtain rfl := Except.ok.inj hrun
              have hrecorded := hdata.handled hhandled
              refine ⟨?_, fun hrefused => absurd hs hrefused, fun _ =>
                ⟨(s.taken x.first).map .interrupt ++
                  ((s.waited x.first).taken x.second).map .interrupt ++
                    [.handled x.setup.toControlRequest], rfl, by simp, ?_⟩⟩
              · rw [List.append_assoc, List.append_assoc] at hrecorded
                dsimp only
                rwa [List.append_assoc]
              · rw [List.filterMap_append, List.filterMap_append, sentData_interrupts,
                  sentData_interrupts, hnone]
                rfl
        next hready =>
          obtain rfl := Except.ok.inj hrun
          exact hleft (s.taken x.first)
    next hset =>
      cases hhandled : unhandledControlRequest s.hid.device x.setup.toControlRequest with
      | error fault => rw [hhandled] at hrun; cases hrun
      | ok handled =>
          rw [hhandled] at hrun
          obtain rfl := Except.ok.inj hrun
          have hsent := unhandledControlRequest_sent hhandled (v := s.view) rfl rfl hemulated
          have hstaged : ∀ e ∈ handled.2.map Shown.sent, e.Silent := by
            intro e hmem
            obtain ⟨data, -, rfl⟩ := List.mem_map.mp hmem
            exact silent_sent data
          have hstages := ((h.silent hsilent).silents hstaged).handled hhandled
          refine .of_acknowledge hs ?_ (by simp) ?_
          · rw [List.append_assoc, List.append_assoc] at hstages
            exact hstages
          · rw [hreply, ← hsent, List.filterMap_append, List.filterMap_map]
            exact (List.append_nil _).trans List.filterMap_some

/-- Whatever the switch does with a request, the record knows it. -/
theorem dispatch_serves (h : Recorded eeprom history s) {served : UsbDevice × List Shown}
    (hrun : s.dispatch x = .ok served) : Serves eeprom history s x.setup served := by
  unfold UsbDevice.dispatch at hrun
  cases hcase : requestCase x.setup with
  | getStatus =>
      rw [hcase] at hrun
      obtain rfl := Except.ok.inj hrun
      exact serves_getStatus h hcase
  | clearSetFeature =>
      rw [hcase] at hrun
      obtain rfl := Except.ok.inj hrun
      exact serves_clearSetFeature h hcase
  | setAddress =>
      rw [hcase] at hrun
      obtain rfl := Except.ok.inj hrun
      exact serves_setAddress h hcase
  | getDescriptor =>
      rw [hcase] at hrun
      obtain rfl := Except.ok.inj hrun
      exact serves_getDescriptor h hcase
  | getConfiguration =>
      rw [hcase] at hrun
      obtain rfl := Except.ok.inj hrun
      exact serves_getConfiguration h hcase
  | setConfiguration =>
      rw [hcase] at hrun
      obtain rfl := Except.ok.inj hrun
      exact serves_setConfiguration h hcase
  | unhandled =>
      rw [hcase] at hrun
      exact serves_unhandled h hcase hrun

/-- The task serves a request of an attached device, and a SETUP packet that is still
there is stalled. -/
theorem deviceTask_eq (hattached : s.usbDeviceState ≠ .unattached) :
    s.deviceTask (some x) = (s.dispatch x).map fun served => (served.1, stallRest x served.2) :=
  if_pos hattached

theorem Recorded.stallRest (h : Recorded eeprom (history ++ shown) s) :
    Recorded eeprom (history ++ UsbDevice.stallRest x shown) s := by
  unfold UsbDevice.stallRest
  split_ifs
  · rw [← List.append_assoc]
    exact h.silent ⟨rfl, fun _ => rfl⟩
  · exact h

/-- A poll writes none of the variables that requests write. -/
theorem hidTask_device (h : Hid) (usbDeviceState : DeviceState) (isReadWriteAllowed : Bool) :
    (hidTask h usbDeviceState isReadWriteAllowed).1.device = h.device := by
  unfold hidTask sendNextReport
  dsimp only
  split_ifs <;> rfl

/-- Every occurrence is recorded. -/
theorem Recorded.occur (h : Recorded eeprom history s) {o : Occurrence}
    (hrun : s.occur o = .ok (s', shown)) : Recorded eeprom (history ++ shown) s' := by
  cases o with
  | interrupt flags =>
      obtain ⟨rfl, rfl⟩ := Prod.mk.inj (Except.ok.inj hrun)
      exact h.interrupts [flags]
  | hidTask isReadWriteAllowed =>
      obtain ⟨rfl, rfl⟩ := Prod.mk.inj (Except.ok.inj hrun)
      have hdevice := hidTask_device s.hid s.usbDeviceState isReadWriteAllowed
      have hpolled : Recorded eeprom history (s.hidPoll isReadWriteAllowed).1 := by
        refine ⟨?_, ?_, h.sound.vbus, h.sound.eorsti, h.sound.busPowered, h.sound.opened,
          h.sound.closed⟩
        · rw [← h.view]
          simp only [UsbDevice.view, UsbDevice.hidPoll, hdevice]
        · rw [h.device]
          exact congrArg (fun d => Except.ok (Device.forget d)) hdevice.symm
      refine hpolled.silents fun e he => ?_
      obtain ⟨report, -, rfl⟩ := List.mem_map.mp he
      exact ⟨rfl, fun _ => rfl⟩
  | usbTask pending =>
      have hidle : Recorded eeprom (history ++ []) s := by rwa [List.append_nil]
      cases pending with
      | none =>
          obtain ⟨rfl, rfl⟩ := Prod.mk.inj (Except.ok.inj hrun)
          exact hidle
      | some x =>
          by_cases hattached : s.usbDeviceState = .unattached
          · have hskipped : s.deviceTask (some x) = .ok (s, []) := if_neg (not_not.mpr hattached)
            obtain ⟨rfl, rfl⟩ := Prod.mk.inj (Except.ok.inj (hskipped.symm.trans hrun))
            exact hidle
          · have hserved := (deviceTask_eq (x := x) hattached).symm.trans hrun
            cases hdispatch : s.dispatch x with
            | error ending => rw [hdispatch] at hserved; cases hserved
            | ok served =>
                rw [hdispatch] at hserved
                obtain ⟨rfl, rfl⟩ := Prod.mk.inj (Except.ok.inj hserved)
                exact (dispatch_serves h hdispatch).recorded.stallRest
  | psButton value =>
      obtain ⟨rfl, rfl⟩ := Prod.mk.inj (Except.ok.inj hrun)
      exact h.psButton value

end Serve

/-- The endpoint of a feature request. -/
def featureEndpoint (r : SetupPacket) : Fin 8 := uenum (r.wIndex.setWidth 8 &&& 0x07#8)

/-- A request for the halt of an endpoint that can be halted. -/
def IsHalt (r : SetupPacket) : Prop :=
  requestCase r = .clearSetFeature ∧ ¬OfDevice r ∧ lowValue r = featureEndpointHalt ∧
    featureEndpoint r ≠ endpointControlep

section Conversation
variable {eeprom : Eeprom} {history : List Shown} {s : UsbDevice} {x : Exchange}

/-- Of the endpoints but endpoint 0 the open ones are the data endpoints. -/
theorem UsbDevice.Sound.epen (h : s.Sound) {n : Fin 8} (hn : n ≠ endpointControlep) :
    (s.endpoints n).epen = true ↔
      s.view.opened = true ∧ (n = sixaxisInEpnum ∨ n = sixaxisOutEpnum) := by
  have hopened : s.view.opened = (s.endpoints sixaxisInEpnum).epen := rfl
  by_cases hin : n = sixaxisInEpnum
  · rw [hin, hopened]
    simp
  · by_cases hout : n = sixaxisOutEpnum
    · rw [hout, h.opened, hopened]
      simp
    · rw [h.closed n hn hin hout]
      simp [hin, hout]

end Conversation

def quiet : GenFlags where
  vbusti := false
  vbus := false
  suspi := false
  wakeupi := false
  eorsti := false
  sofi := false
  stallrq := 0#8

def standardSetup (bmRequestType bRequest : U8) (wValue wLength : U16)
    (h : (if bmRequestType.msb then 0 else wLength.toNat) = 0) : SetupPacket :=
  { bmRequestType, bRequest, wValue, wLength, data := [], data_length := h.symm, wIndex := 0#16 }

/-- An exchange without other interrupts than those before the end of its first wait. -/
def exchange (setup : SetupPacket) (flags : List GenFlags) : Exchange where
  setup
  first := { busy := [], last := flags }
  second := { busy := [], last := [] }
  overtaken := false

def configure (flags : List GenFlags) : Occurrence :=
  .usbTask (some (exchange (standardSetup 0x00 reqSetConfiguration 1 0 rfl) flags))

end DiyPs3Controller.SixpairEmu
