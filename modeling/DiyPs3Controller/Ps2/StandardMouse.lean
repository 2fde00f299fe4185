import DiyPs3Controller.Ps2.StartupProtocol

/-!
# A device without a wheel

It says in row 19 that it has none, and the driver starts over. After five more
attempts the driver gives up. In every attempt each byte that is read brings
this nearer.
-/

namespace DiyPs3Controller.StandardMouse

open MouseDriver StartupSequence PacketStream PointingDevice StartupProtocol

/-- The driver has given up, and the device has nothing more to say. -/
structure GivenUp (s : Link) : Prop where
  filter : s.mouse.filter = { state := 0xFF#8, retry := 0#8, size := 52#8, table := msStateTable }
  rate : s.mouse.config.frequency ∈ validRates
  wheel : s.device.wheel = false
  awaited : s.device.awaited = none
  reporting : s.device.reporting = false
  inFlight : s.inFlight = []
  length : s.mouse.packet.bytes.length = 4
  size : s.mouse.packet.size = 0#8

/-- The driver is in one of the rows up to that of the type of the device. -/
structure Trying (refusal : U8 → List U8) (shown : List LinkEvent) (s : Link) (k retries : Nat) :
    Prop where
  row : AtRow refusal false shown s k []
  le_type : k ≤ 19
  le_five : retries ≤ 5
  retry : s.mouse.filter.retry = BitVec.ofNat 8 retries

/-- The bytes to be read before the driver gives up. -/
def bytesLeft (k retries : Nat) : Nat := 20 - k + 20 * (5 - retries)

/-- Nothing has been reported or dispatched, and `n` more bytes are read before the end. -/
def Standing (refusal : U8 → List U8) (shown : List LinkEvent) (s : Link) (n : Nat) : Prop :=
  (reportedPackets shown = [] ∧ receivedPackets shown = []) ∧
    (n = 0 ∧ GivenUp s ∨ ∃ k retries, n = bytesLeft k retries ∧ Trying refusal shown s k retries)

variable {refusal : U8 → List U8} {shown : List LinkEvent} {s : Link} {k retries n : Nat}

/-- In row 19 the type of the device is the only byte on its way. -/
theorem line_type {c : Config} (hrate : c.frequency ∈ validRates) :
    lineAt refusal false c 19 = [0x00#8] := by
  rw [lineAt_eq refusal hrate]
  decide

/-- A device that has been asked for its type waits for a command. -/
theorem device_type (c : Config) :
    deviceAt refusal false c 19 = { Device.fresh false with rates := [80#8, 100#8, 200#8] } := by
  rw [deviceAt, sentBefore_take]
  rfl

section TypeRow
variable (h : Trying refusal shown s 19 retries)
include h

theorem Trying.inFlight : s.inFlight = [0x00#8] := by
  obtain ⟨rest, hline, hpending⟩ := h.row.line
  rw [h.row.gathered_nil (by decide), List.nil_append] at hpending
  rw [hline, line_type h.row.rate, hpending]
  rfl

/-- The driver waits for the type of a device with a wheel. -/
theorem Trying.not_matches : ¬ Matches s.mouse 0x00#8 := by
  intro hm
  have htable : s.mouse.filter.table = msStateTable := by rw [h.row.filter]
  have haccepts := hm.2
  rw [htable, h.row.state] at haccepts
  exact absurd haccepts (by decide)

/-- With five retries behind it the driver gives up. -/
theorem Trying.givesUp (hretries : retries = 5) :
    GivenUp ((linkMachine refusal).step s .deliver).1 ∧
      ((linkMachine refusal).step s .deliver).2 = [.driver .kbErrorStateLed] := by
  have hretry : ¬ s.mouse.filter.retry < 5#8 := by
    rw [h.retry, hretries]
    decide
  have hfilter := eventFilter_giveUp (h.row.inside (by decide)) h.not_matches hretry
  rw [step_deliver h.inFlight, hfilter, react_quiet rfl]
  refine ⟨⟨?_, h.row.rate, ?_, ?_, ?_, rfl, h.row.length, h.row.boundary (by decide)⟩, rfl⟩
  · rw [h.row.filter]
  · rw [h.row.device, device_type]
    rfl
  · rw [h.row.device, device_type]
    rfl
  · rw [h.row.device, device_type]
    rfl

/-- With fewer retries behind it the driver starts over. -/
theorem Trying.startsOver (hretries : retries < 5) :
    Trying refusal (shown ++ ((linkMachine refusal).step s .deliver).2)
      ((linkMachine refusal).step s .deliver).1 0 (retries + 1) ∧
      ((linkMachine refusal).step s .deliver).2 =
        [MsCall.resetState, .sendByte 0xFF#8].map .driver := by
  have hretry : s.mouse.filter.retry < 5#8 := by
    rw [h.retry]
    bv_omega
  have hfilter := eventFilter_retry (h.row.inside (by decide)) h.not_matches hretry
  have hboundary := h.row.boundary (by decide)
  have hwheel : s.device.wheel = false := by
    rw [h.row.device, device_type]
    rfl
  have hawaited : s.device.awaited = none := by
    rw [h.row.device, device_type]
    rfl
  have hnext := @restarted refusal shown
    { s with
      inFlight := []
      mouse := { s.mouse with
        filter := { s.mouse.filter with retry := s.mouse.filter.retry + 1#8 } } }
    s.mouse.filter.state
    (by rw [h.row.filter]) h.row.rate hawaited rfl h.row.length hboundary
    (h.row.reported.trans (List.append_nil _))
  rw [hwheel] at hnext
  rw [step_deliver h.inFlight, hfilter]
  refine ⟨⟨hnext, Nat.zero_le _, hretries, ?_⟩, rfl⟩
  calc
    s.mouse.filter.retry + 1#8 = BitVec.ofNat 8 retries + 1#8 := by rw [h.retry]
    _ = BitVec.ofNat 8 (retries + 1) := (BitVec.ofNat_add retries 1).symm

end TypeRow

/-- How often the driver has reported a failure. -/
def failures (events : List LinkEvent) : Nat := events.count (.driver .kbErrorStateLed)

/-- Calls of the driver report nothing, and most of them dispatch nothing. -/
theorem silent_calls {calls : List MsCall} (hcalls : dispatchedPackets calls = [])
    (h : reportedPackets shown = [] ∧ receivedPackets shown = []) :
    reportedPackets (shown ++ calls.map .driver) = [] ∧
      receivedPackets (shown ++ calls.map .driver) = [] := by
  rw [reportedPackets_append, receivedPackets_append, reportedPackets_driver,
    receivedPackets_driver, hcalls, h.1, h.2]
  exact ⟨rfl, rfl⟩

theorem failures_calls {calls : List MsCall} (hcalls : .kbErrorStateLed ∉ calls) :
    failures (calls.map .driver) = 0 := by
  apply List.count_eq_zero_of_not_mem
  simpa using hcalls

/-- Every byte that is read brings the end nearer, and the driver fails at the end. -/
theorem standing_deliver (h : Standing refusal shown s n) :
    Standing refusal (shown ++ ((linkMachine refusal).step s .deliver).2)
        ((linkMachine refusal).step s .deliver).1 (n - 1) ∧
      failures ((linkMachine refusal).step s .deliver).2 = if n = 1 then 1 else 0 := by
  obtain ⟨hsilent, ⟨rfl, hgiven⟩ | ⟨k, retries, rfl, htrying⟩⟩ := h
  · rw [step_deliver_nil hgiven.inFlight, List.append_nil]
    exact ⟨⟨hsilent, Or.inl ⟨rfl, hgiven⟩⟩, rfl⟩
  have hle := htrying.le_type
  have hfive := htrying.le_five
  by_cases hk : k < 19
  · obtain ⟨hnext, hsame, sent, hevents, -⟩ :=
      htrying.row.matched (lt_trans hk (by decide)) (Or.inr hk.ne)
    have hmore : bytesLeft k retries ≠ 1 := by
      simp only [bytesLeft]
      omega
    rw [if_neg hmore]
    refine ⟨⟨?_, Or.inr ⟨k + 1, retries, ?_, hnext, hk, hfive, hsame.trans htrying.retry⟩⟩, ?_⟩
    · rw [hevents]
      exact silent_calls (dispatchedPackets_sendByte sent) hsilent
    · simp only [bytesLeft]
      omega
    · rw [hevents]
      exact failures_calls (by simp)
  obtain rfl : k = 19 := by omega
  by_cases hr : retries < 5
  · obtain ⟨hnext, hevents⟩ := htrying.startsOver hr
    have hmore : bytesLeft 19 retries ≠ 1 := by
      simp only [bytesLeft]
      omega
    rw [if_neg hmore]
    refine ⟨⟨?_, Or.inr ⟨0, retries + 1, ?_, hnext⟩⟩, ?_⟩
    · rw [hevents]
      exact silent_calls rfl hsilent
    · simp only [bytesLeft]
      omega
    · rw [hevents]
      exact failures_calls (by decide)
  · obtain rfl : retries = 5 := by omega
    obtain ⟨hgiven, hevents⟩ := htrying.givesUp rfl
    refine ⟨⟨?_, Or.inl ⟨rfl, hgiven⟩⟩, ?_⟩
    · rw [hevents, reportedPackets_append, receivedPackets_append, hsilent.1, hsilent.2]
      exact ⟨rfl, rfl⟩
    · rw [hevents]
      rfl

theorem standing_report (h : Standing refusal shown s n) (header x y z : U8) :
    (linkMachine refusal).step s (.report header x y z) = (s, []) := by
  obtain ⟨-, ⟨-, hgiven⟩ | ⟨k, retries, -, htrying⟩⟩ := h
  · simp [linkMachine, hgiven.reporting]
  · exact htrying.row.report_early (lt_of_le_of_lt htrying.le_type (by decide)) header x y z

/-- A driver that still tries has something to read. -/
theorem Trying.inFlight_ne_nil (h : Trying refusal shown s k retries) : s.inFlight ≠ [] := by
  have hle := h.le_type
  by_cases hk : k = 19
  · subst hk
    rw [h.inFlight]
    exact List.cons_ne_nil _ _
  · intro hflight
    obtain ⟨hlast, -⟩ := h.row.idle (Or.inr hk) hflight
    rw [hlast] at hle
    exact absurd hle (by decide)

/-- Only a driver that has given up can be reset with nothing on its way. -/
theorem standing_reset (h : Standing refusal shown s n) (m : Mouse)
    (hfilter : m.filter = s.mouse.filter) (hpacket : m.packet = s.mouse.packet)
    (hrate : m.config.frequency ∈ validRates) (hflight : s.inFlight = []) :
    Standing refusal (shown ++ (react refusal s (resetState m)).2)
      (react refusal s (resetState m)).1 120 := by
  obtain ⟨hsilent, ⟨-, hgiven⟩ | ⟨k, retries, -, htrying⟩⟩ := h
  · have hnext := @restarted refusal shown { s with mouse := m } 0xFF#8
      (by rw [hfilter, hgiven.filter]) hrate hgiven.awaited hflight
      (by rw [hpacket]; exact hgiven.length) (by rw [hpacket]; exact hgiven.size)
      (hsilent.1.trans hsilent.2.symm)
    rw [hgiven.wheel] at hnext
    have hsilent' : reportedPackets (shown ++ (resetState m).2.map .driver) = [] ∧
        receivedPackets (shown ++ (resetState m).2.map .driver) = [] := silent_calls rfl hsilent
    refine ⟨hsilent', Or.inr ⟨0, 0, rfl, hnext, ?_, ?_, ?_⟩⟩
    · exact Nat.zero_le _
    · exact Nat.zero_le _
    · calc
        m.filter.retry = s.mouse.filter.retry := by rw [hfilter]
        _ = 0#8 := by rw [hgiven.filter]
  · exact absurd hflight htrying.inFlight_ne_nil

theorem standing_step (h : Standing refusal shown s n) {input : LinkInput}
    (ho : Orderly s input) :
    ∃ later, Standing refusal (shown ++ ((linkMachine refusal).step s input).2)
      ((linkMachine refusal).step s input).1 later := by
  have hrate : s.mouse.config.frequency ∈ validRates := by
    obtain ⟨-, ⟨-, hgiven⟩ | ⟨k, retries, -, htrying⟩⟩ := h
    · exact hgiven.rate
    · exact htrying.row.rate
  cases input with
  | deliver => exact ⟨n - 1, (standing_deliver h).1⟩
  | report header x y z =>
      rw [standing_report h, List.append_nil]
      exact ⟨n, h⟩
  | mouseReset =>
      exact ⟨120, standing_reset h (setMouseDefault s.mouse) rfl rfl
        (by simp [setMouseDefault, validRates]) ho⟩
  | setResolution resolution => exact ⟨120, standing_reset h _ rfl rfl hrate ho⟩
  | setFrequency frequency => exact ⟨120, standing_reset h _ rfl rfl ho.2 ho.1⟩
  | setScaling scale => exact ⟨120, standing_reset h _ rfl rfl hrate ho⟩

theorem standing_powerOn : Standing refusal [] (powerOn false) 119 := by
  refine ⟨⟨rfl, rfl⟩, Or.inr ⟨1, 0, rfl, ?_, by decide, by decide, rfl⟩⟩
  exact
    { le_rows := by decide
      filter := rfl
      rate := by decide
      device := rfl
      line := ⟨[], rfl, rfl⟩
      length := rfl
      size_lt := by decide
      silent := fun _ => rfl
      boundary := fun _ => rfl
      reported := rfl
      wellFormed := List.forall_mem_nil _ }

/-- Without resets, the bytes that are read count down to the one failure. -/
theorem countdown {later : List LinkInput} (hpassive : ∀ input ∈ later, Passive input)
    (h : Standing refusal shown s n) :
    Standing refusal (shown ++ (linkMachine refusal).outputs s later)
        ((linkMachine refusal).state s later) (n - later.count .deliver) ∧
      failures ((linkMachine refusal).outputs s later) =
        if 0 < n ∧ n ≤ later.count .deliver then 1 else 0 := by
  induction later generalizing shown s n with
  | nil =>
      have hnone : ¬ (0 < n ∧ n ≤ 0) := by omega
      rw [List.count_nil, if_neg hnone, Machine.outputs_nil, List.append_nil]
      exact ⟨h, rfl⟩
  | cons input rest ih =>
      obtain ⟨hinput, hrest⟩ := List.forall_mem_cons.mp hpassive
      cases input with
      | deliver =>
          obtain ⟨hnext, hnow⟩ := standing_deliver h
          obtain ⟨hlast, hlater⟩ := ih hrest hnext
          rw [List.append_assoc, Nat.sub_sub, Nat.add_comm 1] at hlast
          rw [List.count_cons_self, Machine.state_cons, Machine.outputs_cons]
          refine ⟨hlast, ?_⟩
          rw [failures, List.count_append, ← failures, ← failures, hnow, hlater]
          split_ifs <;> omega
      | report header x y z =>
          rw [Machine.state_cons, Machine.outputs_cons, standing_report h,
            List.count_cons_of_ne (by simp)]
          exact ih hrest h
      | _ => exact hinput.elim

/-- The driver stands at 255 exactly when it has given up. -/
theorem Standing.gaveUp (h : Standing refusal shown s n) :
    s.mouse.filter.state = 0xFF#8 ↔ n = 0 := by
  obtain ⟨-, ⟨rfl, hgiven⟩ | ⟨k, retries, rfl, htrying⟩⟩ := h
  · rw [hgiven.filter]
    exact iff_of_true rfl rfl
  · have hle := htrying.le_type
    rw [htrying.row.state]
    apply iff_of_false
    · bv_omega
    · simp only [bytesLeft]
      omega

theorem Standing.le (h : Standing refusal shown s n) : n ≤ 120 := by
  obtain ⟨-, ⟨rfl, -⟩ | ⟨k, retries, rfl, -⟩⟩ := h
  · exact Nat.zero_le _
  · simp only [bytesLeft]
    omega

/-- In every orderly run from power-on of a device without a wheel nothing is
reported or dispatched. From each state there are at most 120 bytes to be read
until the driver gives up, however they are spread over time: it has given up
exactly when they have been read, and it fails once, at the last of them. -/
theorem standard_mouse_refused (refusal : U8 → List U8) (inputs : List LinkInput)
    (ho : (linkMachine refusal).Along Orderly (powerOn false) inputs) :
    let s := (linkMachine refusal).state (powerOn false) inputs
    let shown := (linkMachine refusal).outputs (powerOn false) inputs
    reportedPackets shown = [] ∧ receivedPackets shown = [] ∧
      ∃ n ≤ 120, ∀ later, (∀ input ∈ later, Passive input) →
        (((linkMachine refusal).state s later).mouse.filter.state = 0xFF#8 ↔
          n ≤ later.count .deliver) ∧
        failures ((linkMachine refusal).outputs s later) =
          if 0 < n ∧ n ≤ later.count .deliver then 1 else 0 := by
  intro s shown
  have hrun := Machine.trace_of_along (M := linkMachine refusal) (P := Orderly)
    (T := fun shown s => ∃ n, Standing refusal shown s n)
    (fun shown s input ⟨n, h⟩ ho => standing_step h ho)
    (⟨119, standing_powerOn⟩ : ∃ n, Standing refusal [] (powerOn false) n) ho
  obtain ⟨n, h⟩ := hrun
  refine ⟨h.1.1, h.1.2, n, h.le, ?_⟩
  intro later hpassive
  obtain ⟨hlast, hfailures⟩ := countdown hpassive h
  refine ⟨?_, hfailures⟩
  rw [hlast.gaveUp]
  omega

/-- A device that is refused, set to another rate and refused again. -/
def refusedTwice : List LinkInput :=
  List.replicate 119 .deliver ++ [.setFrequency 40#8, .report 0x01#8 5#8 6#8 1#8] ++
    List.replicate 120 .deliver

theorem standard_mouse_refused_twice :
    reportedPackets ((linkMachine fun _ => []).outputs (powerOn false) refusedTwice) = [] ∧
      receivedPackets ((linkMachine fun _ => []).outputs (powerOn false) refusedTwice) = [] :=
  have h := standard_mouse_refused (fun _ => []) refusedTwice (by decide +kernel)
  ⟨h.1, h.2.1⟩

end DiyPs3Controller.StandardMouse
