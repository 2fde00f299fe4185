import DiyPs3Controller.Ps2.PacketStream
import DiyPs3Controller.Ps2.PointingDevice

/-!
# The driver and the device on one line

The mouse driver and a device that takes its commands, with the bytes on their
way to the driver between them. A device with a wheel is brought into stream
mode once, and from then on each of its packets is dispatched once. A device
without one is given up.
-/

namespace DiyPs3Controller.StartupProtocol

open MouseDriver StartupSequence StartupTranscript PacketStream PointingDevice Framing

/-- The driver, the device and the bytes that the driver has not read yet. -/
structure Link where
  mouse : Mouse
  device : Device
  inFlight : List U8
  deriving DecidableEq

/-- The driver reads a byte, the device has moved, or a reset call is made. -/
inductive LinkInput
  | deliver
  | report (header x y z : U8)
  | mouseReset
  | setResolution (resolution : U8)
  | setFrequency (frequency : U8)
  | setScaling (scale : U8)
  deriving DecidableEq, Repr

/-- A call of the driver, or a packet that the device has sent. -/
inductive LinkEvent
  | driver (call : MsCall)
  | reported (packet : List U8)
  deriving DecidableEq, Repr

variable (refusal : U8 → List U8)

/-- The device reads and answers what the driver has sent. -/
def react (s : Link) (after : Mouse × List MsCall) : Link × List LinkEvent :=
  let sent := after.2.filterMap sent?
  ({ mouse := after.1
     device := (deviceMachine refusal).state s.device sent
     inFlight := s.inFlight ++ (deviceMachine refusal).outputs s.device sent },
    after.2.map .driver)

/-- The driver and the device; a device that does not report sends no packets. -/
def linkMachine : Machine Link LinkInput LinkEvent where
  step s
    | .deliver =>
        match s.inFlight with
        | [] => (s, [])
        | b :: rest => react refusal { s with inFlight := rest } (eventFilter s.mouse b)
    | .report header x y z =>
        if s.device.reporting then
          let packet := s.device.report header x y z
          ({ s with inFlight := s.inFlight ++ packet }, [.reported packet])
        else (s, [])
    | .mouseReset => react refusal s (msMouseReset s.mouse)
    | .setResolution resolution => react refusal s (msSetResolution s.mouse resolution)
    | .setFrequency frequency => react refusal s (msSetFrequency s.mouse frequency)
    | .setScaling scale => react refusal s (msSetScaling s.mouse scale)

/-- After power-on the device has tested itself and says what it is. -/
def powerOn (wheel : Bool) : Link where
  mouse := msInit
  device := Device.fresh wheel
  inFlight := [0xAA#8, 0x00#8]

/-- A reset is made when nothing is on its way, and sets a rate that the device takes. -/
def Orderly (s : Link) : LinkInput → Prop
  | .deliver => True
  | .report _ _ _ _ => True
  | .mouseReset => s.inFlight = []
  | .setResolution _ => s.inFlight = []
  | .setFrequency frequency => s.inFlight = [] ∧ frequency ∈ validRates
  | .setScaling _ => s.inFlight = []

instance (s : Link) : DecidablePred (Orderly s)
  | .deliver => inferInstanceAs (Decidable True)
  | .report _ _ _ _ => inferInstanceAs (Decidable True)
  | .mouseReset => inferInstanceAs (Decidable (_ = _))
  | .setResolution _ => inferInstanceAs (Decidable (_ = _))
  | .setFrequency _ => inferInstanceAs (Decidable (_ ∧ _))
  | .setScaling _ => inferInstanceAs (Decidable (_ = _))

/-- The packet that the device has sent. -/
def packet? : LinkEvent → Option (List U8)
  | .driver _ => none
  | .reported packet => some packet

/-- The call that the driver has made. -/
def call? : LinkEvent → Option MsCall
  | .driver call => some call
  | .reported _ => none

/-- The packets that the device has sent. -/
def reportedPackets (events : List LinkEvent) : List (List U8) := events.filterMap packet?

/-- The packets that the driver has dispatched. -/
def receivedPackets (events : List LinkEvent) : List (List U8) :=
  dispatchedPackets (events.filterMap call?)

section Events
variable (xs ys : List LinkEvent) (calls : List MsCall) (packet : List U8)

@[simp] theorem reportedPackets_append :
    reportedPackets (xs ++ ys) = reportedPackets xs ++ reportedPackets ys :=
  List.filterMap_append

@[simp] theorem receivedPackets_append :
    receivedPackets (xs ++ ys) = receivedPackets xs ++ receivedPackets ys := by
  simp [receivedPackets, dispatchedPackets]

@[simp] theorem reportedPackets_driver : reportedPackets (calls.map .driver) = [] := by
  simp [reportedPackets, packet?, List.filterMap_map, Function.comp_def]

@[simp] theorem receivedPackets_driver :
    receivedPackets (calls.map .driver) = dispatchedPackets calls := by
  simp [receivedPackets, call?, List.filterMap_map, Function.comp_def]

@[simp] theorem reportedPackets_reported : reportedPackets [.reported packet] = [packet] := rfl

@[simp] theorem receivedPackets_reported : receivedPackets [.reported packet] = [] := rfl

@[simp] theorem dispatchedPackets_sendByte (bytes : List U8) :
    dispatchedPackets (bytes.map .sendByte) = [] := by
  simp [dispatchedPackets, dispatched?, List.filterMap_map, Function.comp_def]

@[simp] theorem filterMap_sent?_sendByte (bytes : List U8) :
    (bytes.map MsCall.sendByte).filterMap sent? = bytes := by
  simp [sent?, List.filterMap_map, Function.comp_def]

end Events

/-- Row `k` is next. The device has answered all that was sent, the driver has
read one byte for each row, and behind the unread answers there are only
packets; `packets` are those that have not been dispatched yet. -/
structure AtRow (w : Bool) (shown : List LinkEvent) (s : Link) (k : Nat)
    (packets : List (List U8)) : Prop where
  le_rows : k ≤ rows
  filter : s.mouse.filter =
    { state := BitVec.ofNat 8 (2 * k), retry := s.mouse.filter.retry, size := 52#8,
      table := msStateTable }
  rate : s.mouse.config.frequency ∈ validRates
  device : s.device = deviceAt refusal w s.mouse.config k
  line : ∃ rest, s.inFlight = lineAt refusal w s.mouse.config k ++ rest ∧
    gathered s.mouse ++ rest = packets.flatten
  length : s.mouse.packet.bytes.length = 4
  size_lt : s.mouse.packet.size < 4#8
  silent : k < 25 → packets = []
  boundary : k < rows → s.mouse.packet.size = 0#8
  reported : reportedPackets shown = receivedPackets shown ++ packets
  wellFormed : ∀ packet ∈ packets, WellFormed packet

variable {refusal} {w : Bool} {shown : List LinkEvent} {s : Link} {k : Nat}
  {packets : List (List U8)}

section Row
variable (h : AtRow refusal w shown s k packets)
include h

theorem AtRow.state : s.mouse.filter.state = BitVec.ofNat 8 (2 * k) := by
  rw [h.filter]

theorem AtRow.inside (hk : k < rows) : s.mouse.filter.state < s.mouse.filter.size := by
  rw [h.filter]
  exact row_lt hk

/-- Inside the table no part of a packet has been read. -/
theorem AtRow.gathered_nil (hk : k < rows) : gathered s.mouse = [] := by
  rw [gathered, h.boundary hk]
  rfl

theorem AtRow.past : Past s.mouse ↔ k = rows := by
  have hle := h.le_rows
  rw [Past, h.filter]
  simp only [rows] at hle ⊢
  bv_omega

theorem AtRow.streaming (hk : k = rows) : Streaming s.mouse :=
  ⟨h.past.mpr hk, h.length, h.size_lt⟩

/-- In a row of the table whose byte is on its way, that byte is next, and it is
the last one if the row has an answer to send. -/
theorem AtRow.served (hk : k < rows) (hw : w = true ∨ k ≠ 19) :
    ∃ b tail rest, lineAt refusal w s.mouse.config k = b :: tail ∧
      s.inFlight = b :: (tail ++ rest) ∧ rest = packets.flatten ∧ Matches s.mouse b ∧
      (msStateTable.getD (2 * k + 1) 0#8 ≠ 0x00#8 → tail = [] ∧ rest = []) := by
  obtain ⟨rest, hline, hpending⟩ := h.line
  rw [h.gathered_nil hk, List.nil_append] at hpending
  have hserved := serves_row k hk w hw
  rw [← lineAt_eq refusal h.rate] at hserved
  obtain ⟨hne, haccepts, htail⟩ := hserved
  obtain ⟨b, tail, hcons⟩ := List.exists_cons_of_ne_nil hne
  rw [hcons] at haccepts htail
  refine ⟨b, tail, rest, hcons, ?_, hpending, ⟨h.inside hk, ?_⟩, ?_⟩
  · rw [hline, hcons, List.cons_append]
  · rw [h.filter]
    simpa only [row_toNat hk, List.headD_cons] using haccepts
  · intro hanswer
    have hearly : k < 25 := by
      by_contra hlate
      obtain rfl : k = 25 := by
        simp only [rows] at hk
        omega
      exact hanswer (by decide)
    rw [h.silent hearly] at hpending
    exact ⟨htail hanswer, hpending⟩

end Row

theorem step_deliver {b : U8} {rest : List U8} (hline : s.inFlight = b :: rest) :
    (linkMachine refusal).step s .deliver =
      react refusal { s with inFlight := rest } (eventFilter s.mouse b) := by
  simp only [linkMachine, hline]

theorem step_deliver_nil (hline : s.inFlight = []) :
    (linkMachine refusal).step s .deliver = (s, []) := by
  simp only [linkMachine, hline]

/-- A row whose byte is right sends its answer and makes way for the next one. -/
theorem AtRow.matched (h : AtRow refusal w shown s k packets) (hk : k < rows)
    (hw : w = true ∨ k ≠ 19) :
    AtRow refusal w (shown ++ ((linkMachine refusal).step s .deliver).2)
        ((linkMachine refusal).step s .deliver).1 (k + 1) packets ∧
      ((linkMachine refusal).step s .deliver).1.mouse.filter.retry = s.mouse.filter.retry ∧
      ∃ sent : List U8, ((linkMachine refusal).step s .deliver).2 =
          (sent.map .sendByte).map .driver ∧ (sent ≠ [] → s.inFlight.length = 1) := by
  obtain ⟨b, tail, rest, hline, hflight, hrest, hm, halone⟩ := h.served hk hw
  have hfiltered := eventFilter_match hm
  have hbyte : s.mouse.filter.table.getD (s.mouse.filter.state.toNat + 1) 0#8 =
      msStateTable.getD (2 * k + 1) 0#8 := by
    rw [h.filter]
    simp only [row_toNat hk]
  rw [hbyte] at hfiltered
  generalize hanswer : msStateTable.getD (2 * k + 1) 0#8 = byte at hfiltered halone ⊢
  rw [step_deliver hflight, hfiltered]
  simp only [react, answer_calls, filterMap_sent?_sendByte]
  have hsent : (reply s.mouse.config byte).toList ≠ [] → tail = [] ∧ rest = [] := by
    intro hne
    apply halone
    rintro rfl
    exact hne rfl
  refine ⟨⟨hk, ?_, ?_, ?_, ⟨rest, ?_, ?_⟩, ?_, ?_, ?_, ?_, ?_, h.wellFormed⟩, trivial, _, rfl, ?_⟩
  · rw [h.filter, ← row_succ]
  · rw [answer_config]
    exact h.rate
  · rw [answer_config, deviceAt_succ refusal hk, hanswer, h.device]
  · rw [answer_config, lineAt_succ refusal hk hline, hanswer, h.device, List.append_assoc,
      List.append_assoc]
    by_cases hnone : (reply s.mouse.config byte).toList = []
    · rw [hnone]
      simp
    · rw [(hsent hnone).2]
      simp
  · rw [gathered, answer_packet, ← gathered, h.gathered_nil hk, List.nil_append]
    exact hrest
  · rw [answer_packet]
    exact h.length
  · rw [answer_packet]
    exact h.size_lt
  · intro hlt
    exact h.silent (by omega)
  · intro _
    rw [answer_packet]
    exact h.boundary hk
  · rw [reportedPackets_append, receivedPackets_append, reportedPackets_driver,
      receivedPackets_driver, dispatchedPackets_sendByte, List.append_nil, List.append_nil]
    exact h.reported
  · intro hne
    obtain ⟨rfl, rfl⟩ := hsent hne
    rw [hflight]
    rfl

/-- A device that is sent nothing answers nothing. -/
theorem react_quiet {after : Mouse × List MsCall} (hsent : after.2.filterMap sent? = []) :
    react refusal s after = ({ s with mouse := after.1 }, after.2.map .driver) := by
  simp only [react, hsent, Machine.state_nil, Machine.outputs_nil, List.append_nil]

/-- Past the table the retries are left alone or forgotten, and nothing fails. -/
theorem eventFilter_past_calls {m : Mouse} (hp : Past m) (b : U8) :
    (m.filter.retry = 0#8 → (eventFilter m b).1.filter.retry = 0#8) ∧
      .kbErrorStateLed ∉ (eventFilter m b).2 := by
  have hstep := eventFilter_step m b
  generalize eventFilter m b = next at hstep ⊢
  cases hstep with
  | accepted hm => exact absurd hm.1 hp
  | retried hs | gaveUp hs => exact absurd hs hp
  | skipped => exact ⟨id, List.not_mem_nil⟩
  | stored => exact ⟨fun _ => rfl, List.not_mem_nil⟩
  | dispatched => exact ⟨fun _ => rfl, by simp⟩

/-- Past the table a byte is read as the stream of packets wants it. -/
theorem AtRow.streamed (h : AtRow refusal w shown s rows packets) :
    ∃ later, AtRow refusal w (shown ++ ((linkMachine refusal).step s .deliver).2)
        ((linkMachine refusal).step s .deliver).1 rows later ∧
      (s.mouse.filter.retry = 0#8 →
        ((linkMachine refusal).step s .deliver).1.mouse.filter.retry = 0#8) ∧
      .driver .kbErrorStateLed ∉ ((linkMachine refusal).step s .deliver).2 ∧
      ∀ data, .driver (.sendByte data) ∉ ((linkMachine refusal).step s .deliver).2 := by
  obtain ⟨rest, hline, hpending⟩ := h.line
  rw [lineAt_rows refusal h.rate, List.nil_append] at hline
  have hstreaming := h.streaming rfl
  cases rest with
  | nil =>
      rw [step_deliver_nil hline]
      exact ⟨packets, by rwa [List.append_nil], id, List.not_mem_nil, fun _ => List.not_mem_nil⟩
  | cons b rest =>
      obtain ⟨hstate, hsize, htable, hconfig, hsent⟩ := eventFilter_past hstreaming.past b
      obtain ⟨hnext, hpart, hout⟩ := eventFilter_frames (b := b) hstreaming
      obtain ⟨later, hframes, hlater⟩ :=
        step_flatten h.wellFormed hstreaming.gathered_length_le hpending
      rw [step_deliver hline, react_quiet hsent]
      obtain ⟨hretry, herror⟩ := eventFilter_past_calls hstreaming.past b
      refine ⟨later, ⟨le_rfl, ?_, ?_, ?_, ⟨rest, ?_, ?_⟩, hnext.length, hnext.size_lt, ?_, ?_, ?_,
        ?_⟩, hretry, by simpa using herror, ?_⟩
      · calc
          (eventFilter s.mouse b).1.filter
              = { state := s.mouse.filter.state
                  retry := (eventFilter s.mouse b).1.filter.retry
                  size := s.mouse.filter.size
                  table := s.mouse.filter.table } := by rw [← hstate, ← hsize, ← htable]
            _ = _ := by rw [h.filter]
      · rw [hconfig]
        exact h.rate
      · rw [hconfig]
        exact h.device
      · rw [hconfig, lineAt_rows refusal h.rate, List.nil_append]
      · rw [← hpart]
        exact hlater
      · intro hlt
        exact absurd hlt (by decide)
      · intro hlt
        exact absurd hlt (lt_irrefl _)
      · rw [reportedPackets_append, receivedPackets_append, reportedPackets_driver,
          receivedPackets_driver, hout, List.append_nil, List.append_assoc]
        exact h.reported.trans (congrArg (receivedPackets shown ++ ·) hframes)
      · intro packet hpacket
        apply h.wellFormed
        rw [hframes]
        exact List.mem_append_right _ hpacket
      · intro data hdata
        obtain ⟨call, hcall, heq⟩ := List.mem_map.mp hdata
        obtain rfl := LinkEvent.driver.inj heq
        have hnone := List.filterMap_eq_nil_iff.mp hsent _ hcall
        exact absurd hnone (by simp [sent?])

theorem startsPacket_header (header : U8) : StartsPacket (header ||| 0x08#8) := by
  intro h
  have hbit := congrArg (fun b : U8 => b.getLsbD 3) h
  simp at hbit

/-- A device that has not been brought into stream mode keeps its movements to itself. -/
theorem AtRow.report_early (h : AtRow refusal w shown s k packets) (hk : k < 25)
    (header x y z : U8) :
    (linkMachine refusal).step s (.report header x y z) = (s, []) := by
  have hquiet : s.device.reporting = false := by
    rw [h.device]
    exact deviceAt_reporting refusal h.rate hk
  simp [linkMachine, hquiet]

/-- A packet of a device that reports goes behind everything else. -/
theorem AtRow.report_late (h : AtRow refusal true shown s k packets) (hk : 25 ≤ k)
    (header x y z : U8) :
    AtRow refusal true (shown ++ ((linkMachine refusal).step s (.report header x y z)).2)
      ((linkMachine refusal).step s (.report header x y z)).1 k
      (packets ++ [[header ||| 0x08#8, x, y, z]]) := by
  obtain ⟨rest, hline, hpending⟩ := h.line
  have hdevice : s.device = Device.configured true s.mouse.config := by
    rw [h.device]
    exact deviceAt_configured refusal h.rate hk h.le_rows
  have hstep : (linkMachine refusal).step s (.report header x y z) =
      ({ s with inFlight := s.inFlight ++ [header ||| 0x08#8, x, y, z] },
        [.reported [header ||| 0x08#8, x, y, z]]) := by
    simp [linkMachine, hdevice, Device.configured, Device.report]
  rw [hstep]
  refine ⟨h.le_rows, h.filter, h.rate, h.device,
    ⟨rest ++ [header ||| 0x08#8, x, y, z], ?_, ?_⟩, h.length, h.size_lt, ?_, h.boundary, ?_, ?_⟩
  · rw [hline, List.append_assoc]
  · rw [← List.append_assoc, hpending, List.flatten_append, List.flatten_singleton]
  · intro hlt
    exact absurd hlt (Nat.not_lt.mpr hk)
  · rw [reportedPackets_append, receivedPackets_append, reportedPackets_reported,
      receivedPackets_reported, List.append_nil, ← List.append_assoc, h.reported]
  · intro packet hpacket
    rcases List.mem_append.mp hpacket with hold | hnew
    · exact h.wellFormed packet hold
    · rw [List.mem_singleton.mp hnew]
      exact ⟨header ||| 0x08#8, [x, y, z], rfl, startsPacket_header header, rfl⟩

/-- A reset with nothing on its way starts the table over. -/
theorem restarted {state : U8} (hfilter : s.mouse.filter =
      { state := state, retry := s.mouse.filter.retry, size := 52#8, table := msStateTable })
    (hrate : s.mouse.config.frequency ∈ validRates) (hawaited : s.device.awaited = none)
    (hflight : s.inFlight = []) (hlength : s.mouse.packet.bytes.length = 4)
    (hsize : s.mouse.packet.size = 0#8)
    (hreported : reportedPackets shown = receivedPackets shown) :
    AtRow refusal s.device.wheel (shown ++ (react refusal s (resetState s.mouse)).2)
      (react refusal s (resetState s.mouse)).1 0 [] := by
  have hline : lineAt refusal s.device.wheel s.mouse.config 0 = [0xFA#8, 0xAA#8, 0x00#8] := rfl
  have hgathered : gathered s.mouse = [] := by
    rw [gathered, hsize]
    rfl
  have hsent : (resetState s.mouse).2.filterMap sent? = [0xFF#8] := rfl
  have hevents : (react refusal s (resetState s.mouse)).2 =
      [MsCall.resetState, .sendByte 0xFF#8].map .driver := rfl
  have hpackets : dispatchedPackets [MsCall.resetState, .sendByte 0xFF#8] = [] := rfl
  have hafter : (react refusal s (resetState s.mouse)).1 =
      { mouse := (resetState s.mouse).1
        device := Device.fresh s.device.wheel
        inFlight := [0xFA#8, 0xAA#8, 0x00#8] } := by
    simp [react, hsent, deviceMachine, receive_reset hawaited, hflight]
  rw [hevents, hafter]
  refine ⟨Nat.zero_le _, ?_, hrate, rfl, ⟨[], ?_, ?_⟩, hlength, ?_, fun _ => rfl, fun _ => hsize,
    ?_, List.forall_mem_nil _⟩
  · exact congrArg (fun filter : FilterVars => { filter with state := 0#8 }) hfilter
  · exact hline.symm
  · exact congrArg (· ++ []) hgathered
  · simp only [resetState, sendByte, hsize]
    decide
  · rw [reportedPackets_append, receivedPackets_append, reportedPackets_driver,
      receivedPackets_driver, hreported, hpackets, List.append_nil, List.append_nil]

/-- With nothing on its way, no packet is left to dispatch. -/
theorem AtRow.idle (h : AtRow refusal w shown s k packets) (hw : w = true ∨ k ≠ 19)
    (hflight : s.inFlight = []) : k = rows ∧ packets = [] := by
  have hlast : k = rows := by
    by_contra hne
    obtain ⟨b, tail, rest, -, hnext, -⟩ := h.served (lt_of_le_of_ne h.le_rows hne) hw
    rw [hflight] at hnext
    exact absurd hnext.symm (List.cons_ne_nil _ _)
  refine ⟨hlast, ?_⟩
  obtain ⟨rest, hline, hpending⟩ := h.line
  rw [hflight] at hline
  obtain ⟨-, rfl⟩ := List.append_eq_nil_iff.mp hline.symm
  have hshort := (h.streaming hlast).gathered_length_le
  rw [← List.append_nil (gathered s.mouse), hpending] at hshort
  cases packets with
  | nil => rfl
  | cons packet others =>
      have hlength := (h.wellFormed packet List.mem_cons_self).length_eq
      rw [List.flatten_cons, List.length_append, hlength] at hshort
      omega

/-- The row that is next after an input. -/
def nextRow (k : Nat) : LinkInput → Nat
  | .deliver => min rows (k + 1)
  | .report _ _ _ _ => k
  | _ => 0

/-- The device reads what the driver sends only when it has nothing left to send. -/
def SendsAlone (refusal : U8 → List U8) (s : Link) (input : LinkInput) : Prop :=
  ∀ data, .driver (.sendByte data) ∈ ((linkMachine refusal).step s input).2 →
    s.inFlight.length ≤ 1

/-- A device with a wheel is where the table says, without a retry. -/
def OnCourse (refusal : U8 → List U8) (shown : List LinkEvent) (s : Link) (k : Nat) : Prop :=
  (∃ packets, AtRow refusal true shown s k packets) ∧ s.mouse.filter.retry = 0#8 ∧
    .driver .kbErrorStateLed ∉ shown

section Course
variable (h : OnCourse refusal shown s k)
include h

theorem onCourse_deliver :
    OnCourse refusal (shown ++ ((linkMachine refusal).step s .deliver).2)
        ((linkMachine refusal).step s .deliver).1 (min rows (k + 1)) ∧
      SendsAlone refusal s .deliver := by
  obtain ⟨⟨packets, hrow⟩, hretry, herror⟩ := h
  by_cases hk : k < rows
  · obtain ⟨hnext, hsame, sent, hevents, halone⟩ := hrow.matched hk (Or.inl rfl)
    rw [min_eq_right (Nat.succ_le_of_lt hk)]
    refine ⟨⟨⟨packets, hnext⟩, hsame.trans hretry, ?_⟩, ?_⟩
    · rw [hevents]
      simpa using herror
    · intro data hdata
      rw [hevents] at hdata
      apply le_of_eq
      apply halone
      rintro rfl
      exact absurd hdata List.not_mem_nil
  · obtain rfl : k = rows := le_antisymm hrow.le_rows (Nat.not_lt.mp hk)
    obtain ⟨later, hnext, hkept, hquiet, hsent⟩ := hrow.streamed
    rw [min_eq_left (Nat.le_succ rows)]
    refine ⟨⟨⟨later, hnext⟩, hkept hretry, ?_⟩, fun data hdata => absurd hdata (hsent data)⟩
    exact List.not_mem_append herror hquiet

theorem onCourse_report (header x y z : U8) :
    OnCourse refusal (shown ++ ((linkMachine refusal).step s (.report header x y z)).2)
      ((linkMachine refusal).step s (.report header x y z)).1 k := by
  obtain ⟨⟨packets, hrow⟩, hretry, herror⟩ := h
  by_cases hk : k < 25
  · rw [hrow.report_early hk, List.append_nil]
    exact ⟨⟨packets, hrow⟩, hretry, herror⟩
  · refine ⟨⟨_, hrow.report_late (Nat.not_lt.mp hk) header x y z⟩, ?_, ?_⟩
    · simp only [linkMachine]
      split_ifs <;> exact hretry
    · apply List.not_mem_append herror
      simp only [linkMachine]
      split_ifs <;> simp

/-- A reset call with nothing on its way, whatever it sets. -/
theorem onCourse_reset (m : Mouse) (hfilter : m.filter = s.mouse.filter)
    (hpacket : m.packet = s.mouse.packet) (hrate : m.config.frequency ∈ validRates)
    (hflight : s.inFlight = []) :
    OnCourse refusal (shown ++ (react refusal s (resetState m)).2)
      (react refusal s (resetState m)).1 0 := by
  obtain ⟨⟨packets, hrow⟩, hretry, herror⟩ := h
  obtain ⟨rfl, rfl⟩ := hrow.idle (Or.inl rfl) hflight
  have hdevice : s.device = Device.configured true s.mouse.config := by
    rw [hrow.device]
    exact deviceAt_configured refusal hrow.rate (by decide) le_rfl
  have hwheel : s.device.wheel = true := by rw [hdevice]; rfl
  have hempty : s.mouse.packet.size = 0#8 := by
    obtain ⟨rest, -, hpending⟩ := hrow.line
    exact (hrow.streaming rfl).gathered_eq_nil_iff.mp (List.append_eq_nil_iff.mp hpending).1
  have hnext := @restarted refusal shown { s with mouse := m } s.mouse.filter.state
    (by rw [hfilter, hrow.state]; exact hrow.filter) hrate (by rw [hdevice]; rfl) hflight
    (by rw [hpacket]; exact hrow.length) (by rw [hpacket]; exact hempty)
    (hrow.reported.trans (List.append_nil _))
  rw [hwheel] at hnext
  refine ⟨⟨[], hnext⟩, ?_, ?_⟩
  · calc
      (react refusal s (resetState m)).1.mouse.filter.retry = m.filter.retry := rfl
      _ = 0#8 := by rw [hfilter, hretry]
  · apply List.not_mem_append herror
    simp [react, resetState, sendByte]

/-- Every orderly input keeps the device on course. -/
theorem onCourse_step {input : LinkInput} (ho : Orderly s input) :
    OnCourse refusal (shown ++ ((linkMachine refusal).step s input).2)
        ((linkMachine refusal).step s input).1 (nextRow k input) ∧
      SendsAlone refusal s input := by
  have hquiet : s.inFlight = [] → SendsAlone refusal s input := by
    intro hflight data hdata
    rw [hflight]
    exact Nat.zero_le 1
  obtain ⟨packets, hrow⟩ := h.1
  cases input with
  | deliver => exact onCourse_deliver h
  | report header x y z =>
      refine ⟨onCourse_report h header x y z, ?_⟩
      intro data hdata
      simp only [linkMachine] at hdata
      split_ifs at hdata <;> simp at hdata
  | mouseReset =>
      exact ⟨onCourse_reset h (setMouseDefault s.mouse) rfl rfl
        (by simp [setMouseDefault, validRates]) ho, hquiet ho⟩
  | setResolution resolution => exact ⟨onCourse_reset h _ rfl rfl hrow.rate ho, hquiet ho⟩
  | setFrequency frequency => exact ⟨onCourse_reset h _ rfl rfl ho.2 ho.1, hquiet ho.1⟩
  | setScaling scale => exact ⟨onCourse_reset h _ rfl rfl hrow.rate ho, hquiet ho⟩

end Course

/-- A device that has just been switched on is on course. -/
theorem onCourse_powerOn : OnCourse refusal [] (powerOn true) 1 := by
  refine ⟨⟨[], ?_⟩, rfl, List.not_mem_nil⟩
  exact
    { le_rows := by decide
      filter := rfl
      rate := by decide
      device := rfl
      line := ⟨[], rfl, rfl⟩
      length := rfl
      size_lt := by decide
      silent := fun _ => rfl
      boundary := fun _ => rfl
      reported := rfl
      wellFormed := List.forall_mem_nil _ }

/-- An orderly run from power-on is on course, in the row that its inputs lead to. -/
theorem onCourse_run {inputs : List LinkInput}
    (ho : (linkMachine refusal).Along Orderly (powerOn true) inputs) :
    ∃ k, OnCourse refusal ((linkMachine refusal).outputs (powerOn true) inputs)
      ((linkMachine refusal).state (powerOn true) inputs) k := by
  have hrun := Machine.trace_of_along (M := linkMachine refusal) (P := Orderly)
    (T := fun shown s => ∃ k, OnCourse refusal shown s k)
    (fun shown s input ⟨k, h⟩ ho => ⟨_, (onCourse_step h ho).1⟩)
    (⟨1, onCourse_powerOn⟩ : ∃ k, OnCourse refusal [] (powerOn true) k) ho
  exact hrun

/-- No reset call. -/
def Passive : LinkInput → Prop
  | .deliver => True
  | .report _ _ _ _ => True
  | _ => False

theorem orderly_of_passive {input : LinkInput} (h : Passive input) (s : Link) :
    Orderly s input := by
  cases input <;> trivial

/-- Without resets, every byte that is read leads to the next row. -/
theorem passive_run {later : List LinkInput} (hpassive : ∀ input ∈ later, Passive input)
    (h : OnCourse refusal shown s k) :
    ∃ shown', OnCourse refusal shown' ((linkMachine refusal).state s later)
      (min rows (k + later.count .deliver)) := by
  induction later generalizing shown s k with
  | nil =>
      obtain ⟨packets, hrow⟩ := h.1
      rw [List.count_nil, Nat.add_zero, min_eq_right hrow.le_rows]
      exact ⟨shown, h⟩
  | cons input rest ih =>
      obtain ⟨hinput, hrest⟩ := List.forall_mem_cons.mp hpassive
      obtain ⟨shown', hlast⟩ := ih hrest (onCourse_step h (orderly_of_passive hinput s)).1
      have hcount : min rows (k + (input :: rest).count .deliver) =
          min rows (nextRow k input + rest.count .deliver) := by
        cases input with
        | deliver =>
            rw [List.count_cons_self, nextRow]
            omega
        | report header x y z => simp [nextRow]
        | _ => exact hinput.elim
      rw [hcount]
      exact ⟨shown', hlast⟩

/-- In every orderly run from power-on of a device with a wheel: the driver
sends only when the device has nothing left to send, it never fails and never
retries; it dispatches the packets of the device in the order they were sent,
each once, and all of them when nothing is on its way; past its table the device
reports, with the wheel on and the settings in force; and 26 bytes later it is
past its table, unless it is reset. -/
theorem startup_protocol (refusal : U8 → List U8) (inputs : List LinkInput)
    (ho : (linkMachine refusal).Along Orderly (powerOn true) inputs) :
    let s := (linkMachine refusal).state (powerOn true) inputs
    let shown := (linkMachine refusal).outputs (powerOn true) inputs
    (linkMachine refusal).Along (SendsAlone refusal) (powerOn true) inputs ∧
      .driver .kbErrorStateLed ∉ shown ∧ s.mouse.filter.retry = 0#8 ∧
      receivedPackets shown <+: reportedPackets shown ∧
      (s.inFlight = [] → receivedPackets shown = reportedPackets shown) ∧
      (Past s.mouse → s.device = Device.configured true s.mouse.config) ∧
      ∀ later, (∀ input ∈ later, Passive input) → 26 ≤ later.count .deliver →
        Past ((linkMachine refusal).state s later).mouse := by
  intro s shown
  obtain ⟨k, hcourse⟩ := onCourse_run ho
  obtain ⟨⟨packets, hrow⟩, hretry, herror⟩ := hcourse
  refine ⟨?_, herror, hretry, ?_, ?_, ?_, ?_⟩
  · exact Machine.along_of_along (I := fun s => ∃ shown k, OnCourse refusal shown s k)
      (fun s input ⟨shown, k, h⟩ ho =>
        ⟨⟨_, _, (onCourse_step h ho).1⟩, (onCourse_step h ho).2⟩)
      ⟨[], 1, onCourse_powerOn⟩ ho
  · exact ⟨packets, hrow.reported.symm⟩
  · intro hflight
    have hreported := hrow.reported
    rw [(hrow.idle (Or.inl rfl) hflight).2, List.append_nil] at hreported
    exact hreported.symm
  · intro hpast
    have hlast : k = rows := hrow.past.mp hpast
    rw [hrow.device]
    exact deviceAt_configured refusal hrow.rate (by rw [hlast]; decide) hrow.le_rows
  · intro later hpassive hmany
    obtain ⟨shown', ⟨packets', hrow'⟩, -⟩ := passive_run hpassive ⟨⟨packets, hrow⟩, hretry, herror⟩
    rw [min_eq_left (by simp only [rows]; omega)] at hrow'
    exact hrow'.past.mpr rfl

/-- A device that is started, moves, is given another rate and starts again. -/
def restartedRun : List LinkInput :=
  List.replicate 25 .deliver ++ [.report 0x01#8 5#8 6#8 1#8] ++ List.replicate 4 .deliver ++
    [.setFrequency 40#8] ++ List.replicate 26 .deliver ++ [.report 0x00#8 0#8 0#8 0#8]

theorem startup_protocol_restarted :
    Past ((linkMachine fun _ => []).state (powerOn true) restartedRun).mouse ∧
      ((linkMachine fun _ => []).state (powerOn true) restartedRun).device =
        Device.configured true
          ((linkMachine fun _ => []).state (powerOn true) restartedRun).mouse.config := by
  have h := startup_protocol (fun _ => []) restartedRun (by decide +kernel)
  have hpast : Past ((linkMachine fun _ => []).state (powerOn true) restartedRun).mouse := by
    decide +kernel
  exact ⟨hpast, h.2.2.2.2.2.1 hpast⟩

end DiyPs3Controller.StartupProtocol
