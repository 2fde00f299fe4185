import DiyPs3Controller.Ps2.Reception

/-!
# Frames on a PS/2 line

A frame is eleven samples: a low start bit, eight data bits least significant
first, an odd parity bit and a high stop bit. The receiver is followed through
one frame at a time, whether it accepts the frame or rejects it, and then
through any list of samples with the samples read so far as its history.
-/

namespace DiyPs3Controller.Frames

open Avr BitLists RingBuffer Reception

/-- The parity level that makes the number of ones odd. -/
def oddParity (b : U8) : Bool := !oddOnes (toLsb b)

/-- The eleven levels of a valid frame. -/
def frame (b : U8) : List Bool := false :: (toLsb b ++ [oddParity b, true])

/-- Eleven pin readings that carry the frame of a byte on the data line. -/
def IsFrame (d : Nat) (b : U8) (pins : List U8) : Prop := pins.map (line d) = frame b

/-- The pin readings of a frame with all other lines low. -/
def framePins (d : Nat) (b : U8) : List U8 :=
  (frame b).map fun level => if level then 1#8 <<< d else 0#8

theorem framePins_isFrame {d : Nat} (hd : d < 8) (b : U8) : IsFrame d b (framePins d b) := by
  have hlevel : line d ∘ (fun level => if level then 1#8 <<< d else 0#8) = id := by
    funext level
    cases level <;> simp [line, hd]
  rw [IsFrame, framePins, List.map_map, hlevel, List.map_id]

instance (d : Nat) (b : U8) (pins : List U8) : Decidable (IsFrame d b pins) :=
  inferInstanceAs (Decidable (_ = _))

/-- The byte spelled by the data line of some pin readings. -/
def byteOf (d : Nat) (data : List U8) : U8 := ofLsb (data.map (line d))

/-- The parity comparison accepts the odd parity bit at every bit position. -/
theorem parityRejects_oddParity {d : Nat} (hd : d < 8) (b : U8) :
    parityRejects d b (oddParity b) = false := by
  cases h : oddOnes (toLsb b)
  · simpa [parityRejects, parityEvenBit, oddParity, h] using shiftLeft_ne_zero d hd
  · simp [parityRejects, parityEvenBit, oddParity, h]

/-- A frame splits into its start, data, parity and stop readings. -/
theorem IsFrame.split {d : Nat} {b : U8} {pins : List U8} (h : IsFrame d b pins) :
    ∃ start data parity stop, pins = start :: data ++ [parity] ++ [stop] ∧
      line d start = false ∧ data.length = 8 ∧ byteOf d data = b ∧
      line d parity = oddParity b ∧ line d stop = true := by
  obtain ⟨start, rest, rfl, hstart, hrest⟩ := List.map_eq_cons_iff.mp h
  obtain ⟨data, tail, rfl, hdata, htail⟩ := List.map_eq_append_iff.mp hrest
  obtain ⟨parity, stops, rfl, hparity, hstops⟩ := List.map_eq_cons_iff.mp htail
  obtain ⟨stop, none, rfl, hstop, hnone⟩ := List.map_eq_cons_iff.mp hstops
  obtain rfl := List.map_eq_nil_iff.mp hnone
  refine ⟨start, data, parity, stop, by simp, hstart, ?_, ?_, hparity, hstop⟩
  · simpa using congrArg List.length hdata
  · rw [byteOf, hdata, ofLsb_toLsb]

section Runs
variable {d : Nat} (hd : d < 8)
include hd

/-- Data samples fill the buffer from the position the counter names. -/
theorem data_run (data : List U8) (r : Receiver) (i : Nat) (hr : r.bitN.toNat = 2 + i)
    (hlen : i + data.length ≤ 8) :
    (lineMachine d).state r data =
        { r with
            buffer := r.buffer ||| (byteOf d data <<< i)
            bitN := r.bitN + BitVec.ofNat 8 data.length } ∧
      (lineMachine d).outputs r data = [] := by
  induction data generalizing r i with
  | nil => simp [byteOf, ofLsb]
  | cons pin rest ih =>
      simp only [List.length_cons] at hlen
      have hstep : clockInterrupt d r pin = _ := clock_data hd (by omega) (by omega)
      have hnext : (r.bitN + 1#8).toNat = 2 + (i + 1) := by bv_omega
      have hshift : r.bitN.toNat - 2 = i := by omega
      obtain ⟨hstate, hout⟩ := ih (clockInterrupt d r pin).1 (i + 1)
        (by rw [hstep]; exact hnext) (by omega)
      simp only [Machine.state_cons, Machine.outputs_cons]
      change (lineMachine d).state (clockInterrupt d r pin).1 rest = _ ∧
        (clockInterrupt d r pin).2 ++
          (lineMachine d).outputs (clockInterrupt d r pin).1 rest = _
      rw [hstate, hout, hstep]
      refine ⟨?_, rfl⟩
      have hcount : r.bitN + 1#8 + BitVec.ofNat 8 rest.length =
          r.bitN + BitVec.ofNat 8 (rest.length + 1) := by bv_omega
      simp only [byteOf, List.map_cons, List.length_cons, ofLsb_cons_shiftLeft, hshift,
        BitVec.or_assoc, hcount]

/-- A start bit and eight data bits leave the byte waiting for its parity bit. -/
theorem byte_run {r : Receiver} (hr : r.Idle) {start : U8} (hstart : line d start = false)
    {data : List U8} (hlen : data.length = 8) :
    (lineMachine d).state r (start :: data) =
        { r with buffer := byteOf d data, bitN := 10#8 } ∧
      (lineMachine d).outputs r (start :: data) = [] := by
  have hstep := clock_start hd hr.1 hstart
  obtain ⟨hstate, hout⟩ := data_run hd data { r with bitN := 2#8 } 0 rfl (by omega)
  simp only [Machine.state_cons, Machine.outputs_cons]
  change (lineMachine d).state (clockInterrupt d r start).1 data = _ ∧
    (clockInterrupt d r start).2 ++ (lineMachine d).outputs (clockInterrupt d r start).1 data = _
  rw [hstep, hstate, hout]
  simp [hr.2, hlen]

/-- A parity bit that passes leaves the byte waiting for its stop bit. -/
theorem parity_passed_run {r : Receiver} (hr : r.Idle) {start parity : U8}
    (hstart : line d start = false) {data : List U8} (hlen : data.length = 8)
    (hparity : parityRejects d (byteOf d data) (line d parity) = false) :
    (lineMachine d).state r (start :: data ++ [parity]) =
        { r with buffer := byteOf d data, bitN := 11#8 } ∧
      (lineMachine d).outputs r (start :: data ++ [parity]) = [] := by
  obtain ⟨hbyte, hquiet⟩ := byte_run hd hr hstart hlen
  have hp : clockInterrupt d { r with buffer := byteOf d data, bitN := 10#8 } parity = _ :=
    clock_parity_ok hd rfl hparity
  rw [Machine.state_append, Machine.outputs_append, hbyte, hquiet]
  simp [lineMachine, hp]

/-- A parity bit that passes and a high stop bit queue the byte. -/
theorem accepted_run {r : Receiver} (hr : r.Idle) {start parity stop : U8}
    (hstart : line d start = false) {data : List U8} (hlen : data.length = 8)
    (hparity : parityRejects d (byteOf d data) (line d parity) = false)
    (hstop : line d stop = true) :
    (lineMachine d).state r (start :: data ++ [parity] ++ [stop]) =
        { bitN := 1#8
          buffer := 0#8
          error := 0#8
          ringbuffer := r.ringbuffer.addElement (byteOf d data) } ∧
      (lineMachine d).outputs r (start :: data ++ [parity] ++ [stop]) =
        [.addElement (byteOf d data)] := by
  obtain ⟨hpassed, hquiet⟩ := parity_passed_run hd hr hstart hlen hparity
  have hs : clockInterrupt d { r with buffer := byteOf d data, bitN := 11#8 } stop = _ :=
    clock_stop_ok hd rfl hstop
  rw [Machine.state_append, Machine.outputs_append, hpassed, hquiet]
  simp [lineMachine, hs]

/-- A parity bit that fails ends the frame at once. -/
theorem parity_rejected_run {r : Receiver} (hr : r.Idle) {start parity : U8}
    (hstart : line d start = false) {data : List U8} (hlen : data.length = 8)
    (hparity : parityRejects d (byteOf d data) (line d parity) = true) :
    (lineMachine d).state r (start :: data ++ [parity]) =
        (askResend { r with buffer := byteOf d data, bitN := 10#8 }).1 ∧
      (lineMachine d).outputs r (start :: data ++ [parity]) =
        (askResend { r with buffer := byteOf d data, bitN := 10#8 }).2 := by
  obtain ⟨hbyte, hquiet⟩ := byte_run hd hr hstart hlen
  have hp : clockInterrupt d { r with buffer := byteOf d data, bitN := 10#8 } parity = _ :=
    clock_rejected ((checkFails_parity hd rfl).mpr hparity)
  rw [Machine.state_append, Machine.outputs_append, hbyte, hquiet]
  simp [lineMachine, hp]

/-- A low stop bit behind a parity bit that passes ends the frame. -/
theorem stop_rejected_run {r : Receiver} (hr : r.Idle) {start parity stop : U8}
    (hstart : line d start = false) {data : List U8} (hlen : data.length = 8)
    (hparity : parityRejects d (byteOf d data) (line d parity) = false)
    (hstop : line d stop = false) :
    (lineMachine d).state r (start :: data ++ [parity] ++ [stop]) =
        (askResend { r with buffer := byteOf d data, bitN := 11#8 }).1 ∧
      (lineMachine d).outputs r (start :: data ++ [parity] ++ [stop]) =
        (askResend { r with buffer := byteOf d data, bitN := 11#8 }).2 := by
  obtain ⟨hpassed, hquiet⟩ := parity_passed_run hd hr hstart hlen hparity
  have hs : clockInterrupt d { r with buffer := byteOf d data, bitN := 11#8 } stop = _ :=
    clock_rejected ((checkFails_stop hd rfl).mpr hstop)
  rw [Machine.state_append, Machine.outputs_append, hpassed, hquiet]
  simp [lineMachine, hs]

/-- A valid frame from idle queues exactly its byte and leaves the receiver idle. -/
theorem frame_run {r : Receiver} (hr : r.Idle) {b : U8} {pins : List U8} (h : IsFrame d b pins) :
    (lineMachine d).state r pins =
        { bitN := 1#8
          buffer := 0#8
          error := 0#8
          ringbuffer := r.ringbuffer.addElement b } ∧
      (lineMachine d).outputs r pins = [.addElement b] := by
  obtain ⟨start, data, parity, stop, rfl, hstart, hlen, rfl, hparity, hstop⟩ := h.split
  exact accepted_run hd hr hstart hlen (hparity ▸ parityRejects_oddParity hd _) hstop

end Runs

/-- Pin readings made of whole pieces: high samples, frames that pass the two
checks, and frames cut off by the sample that fails one of them. -/
inductive Slots (d : Nat) : List U8 → Prop
  | nil : Slots d []
  | high {pin rest} (h : line d pin = true) (tail : Slots d rest) : Slots d (pin :: rest)
  | accepted {start data parity stop rest} (hstart : line d start = false)
      (hlen : data.length = 8)
      (hparity : parityRejects d (byteOf d data) (line d parity) = false)
      (hstop : line d stop = true) (tail : Slots d rest) :
      Slots d (start :: data ++ [parity] ++ [stop] ++ rest)
  | parityRejected {start data parity rest} (hstart : line d start = false)
      (hlen : data.length = 8)
      (hparity : parityRejects d (byteOf d data) (line d parity) = true)
      (tail : Slots d rest) : Slots d (start :: data ++ [parity] ++ rest)
  | stopRejected {start data parity stop rest} (hstart : line d start = false)
      (hlen : data.length = 8)
      (hparity : parityRejects d (byteOf d data) (line d parity) = false)
      (hstop : line d stop = false) (tail : Slots d rest) :
      Slots d (start :: data ++ [parity] ++ [stop] ++ rest)

/-- A failing sample finds the error flag clear. -/
def FailsUnflagged (d : Nat) (r : Receiver) (pin : U8) : Prop :=
  CheckFails d r pin → r.error = 0#8

instance (d : Nat) (r : Receiver) (pin : U8) : Decidable (FailsUnflagged d r pin) :=
  inferInstanceAs (Decidable (_ → _))

/-- The first failing sample since the flag was cleared leaves the receiver idle. -/
theorem askResend_idle {r : Receiver} (h : r.error = 0#8) : (askResend r).1.Idle := by
  simp [askResend, h, clearIsr, Receiver.Idle]

/-- While no failing sample finds the error flag set, whole pieces end in idle. -/
theorem slots_idle {d : Nat} (hd : d < 8) {pins : List U8} (h : Slots d pins) {r : Receiver}
    (hr : r.Idle) (hgood : (lineMachine d).Along (FailsUnflagged d) r pins) :
    ((lineMachine d).state r pins).Idle := by
  induction h generalizing r with
  | nil => exact hr
  | @high pin rest hp tail ih =>
      have hstep : (lineMachine d).step r pin = (r, []) := clock_idle_high hd hr.1 hp
      have htail := hgood.2
      rw [hstep] at htail
      simpa only [Machine.state_cons, hstep] using ih hr htail
  | accepted hstart hlen hparity hstop tail ih =>
      rw [Machine.along_append] at hgood
      rw [Machine.state_append]
      have hrun := (accepted_run hd hr hstart hlen hparity hstop).1
      rw [hrun] at hgood ⊢
      exact ih ⟨rfl, rfl⟩ hgood.2
  | parityRejected hstart hlen hparity tail ih =>
      rw [Machine.along_append] at hgood
      have herror := ((Machine.along_append _ _ _).mp hgood.1).2.1
      rw [(byte_run hd hr hstart hlen).1] at herror
      have hrun := (parity_rejected_run hd hr hstart hlen hparity).1
      rw [hrun] at hgood
      rw [Machine.state_append, hrun]
      exact ih (askResend_idle (herror ((checkFails_parity hd rfl).mpr hparity))) hgood.2
  | stopRejected hstart hlen hparity hstop tail ih =>
      rw [Machine.along_append] at hgood
      have herror := ((Machine.along_append _ _ _).mp hgood.1).2.1
      rw [(parity_passed_run hd hr hstart hlen hparity).1] at herror
      have hrun := (stop_rejected_run hd hr hstart hlen hparity hstop).1
      rw [hrun] at hgood
      rw [Machine.state_append, hrun]
      exact ih (askResend_idle (herror ((checkFails_stop hd rfl).mpr hstop))) hgood.2

/-- Eight consecutive samples that spell a byte and follow a low sample. -/
def Spelled (d : Nat) (b : U8) (pins : List U8) : Prop :=
  ∃ before start data after, pins = before ++ (start :: data) ++ after ∧
    line d start = false ∧ data.length = 8 ∧ byteOf d data = b

/-- How the samples read so far fill the receiver variables. -/
inductive Progress (d : Nat) : List U8 → Receiver → Prop
  | idle {h r} (hr : r.Idle) : Progress d h r
  | collecting {before start data} {r : Receiver} (hstart : line d start = false)
      (hbit : r.bitN.toNat = 2 + data.length) (hlen : data.length < 8)
      (hbuffer : r.buffer = byteOf d data) : Progress d (before ++ (start :: data)) r
  | full {before start data after} {r : Receiver} (hstart : line d start = false)
      (hlen : data.length = 8) (hbit : r.bitN = 10#8 ∨ r.bitN = 11#8)
      (hbuffer : r.buffer = byteOf d data) : Progress d (before ++ (start :: data) ++ after) r

theorem byteOf_concat (d : Nat) (data : List U8) (pin : U8) :
    byteOf d (data ++ [pin]) =
      byteOf d data ||| ((BitVec.ofBool (line d pin)).setWidth 8 <<< data.length) := by
  induction data with
  | nil => simp [byteOf, ofLsb]
  | cons p rest ih =>
      simp only [byteOf, List.map_cons, List.map_append, List.map_nil, List.cons_append,
        List.length_cons] at ih ⊢
      rw [ofLsb, ih, ofLsb, BitVec.shiftLeft_or_distrib, ← BitVec.shiftLeft_add,
        BitVec.or_assoc]

/-- The receiver variables after the samples since the counter was last at 1. -/
inductive InFrame (d : Nat) : List U8 → Receiver → Prop
  | waiting {r} (hr : r.Idle) : InFrame d [] r
  | collecting {start data} {r : Receiver} (hstart : line d start = false)
      (hbit : r.bitN.toNat = 2 + data.length) (hlen : data.length < 8)
      (hbuffer : r.buffer = byteOf d data) : InFrame d (start :: data) r
  | full {start data after} {r : Receiver} (hstart : line d start = false)
      (hlen : data.length = 8) (hbit : r.bitN = 10#8 ∨ r.bitN = 11#8)
      (hbuffer : r.buffer = byteOf d data) : InFrame d (start :: (data ++ after)) r

/-- Beyond its samples a byte has no bit. -/
theorem byteOf_ahead (d : Nat) (data : List U8) {i : Nat} (hi : data.length ≤ i) :
    (byteOf d data).getLsbD i = false := by
  by_cases hlt : i < 8
  · rw [BitVec.getLsbD_eq_getElem hlt]
    simp [byteOf, hi]
  · exact BitVec.getLsbD_of_ge _ _ (Nat.le_of_not_lt hlt)

section Frame
variable {d : Nat} {pins : List U8} {r : Receiver}

theorem InFrame.counter (h : InFrame d pins r) : 1 ≤ r.bitN.toNat ∧ r.bitN.toNat ≤ 11 := by
  cases h with
  | waiting hr => simp [hr.1]
  | collecting hstart hbit hlen hbuffer => omega
  | full hstart hlen hbit hbuffer => rcases hbit with hbit | hbit <;> simp [hbit]

theorem InFrame.ahead (h : InFrame d pins r) {i : Nat} (hi : r.bitN.toNat ≤ i + 2) :
    r.buffer.getLsbD i = false := by
  cases h with
  | waiting hr => simp [hr.2]
  | @collecting start data r hstart hbit hlen hbuffer =>
      rw [hbuffer]
      exact byteOf_ahead d data (by omega)
  | @full start data after r hstart hlen hbit hbuffer =>
      have hten : 10 ≤ r.bitN.toNat := by rcases hbit with hbit | hbit <;> simp [hbit]
      exact BitVec.getLsbD_of_ge _ _ (by omega)

theorem InFrame.empty (h : InFrame d pins r) (htwo : r.bitN.toNat ≤ 2) : r.buffer = 0#8 := by
  apply BitVec.eq_of_getLsbD_eq
  intro i hi
  rw [h.ahead (by omega), BitVec.getLsbD_zero]

variable (hd : d < 8)
include hd

/-- One sample carries the frame on or brings the receiver back to idle. -/
theorem inFrame_step (h : InFrame d pins r) (pin : U8) :
    InFrame d (pins ++ [pin]) (clockInterrupt d r pin).1 ∨ (clockInterrupt d r pin).1.Idle := by
  cases h with
  | waiting hr =>
      cases hlevel : line d pin with
      | true => exact Or.inr (clock_idle_high hd hr.1 hlevel ▸ hr)
      | false =>
          rw [clock_start hd hr.1 hlevel]
          exact Or.inl (.collecting hlevel rfl (by simp) hr.2)
  | @collecting start data r hstart hbit hlen hbuffer =>
      rw [clock_data hd (by omega) (by omega), List.cons_append]
      have hshift : r.bitN.toNat - 2 = data.length := by omega
      have hbyte : r.buffer ||| ((BitVec.ofBool (line d pin)).setWidth 8 <<<
          (r.bitN.toNat - 2)) = byteOf d (data ++ [pin]) := by
        rw [byteOf_concat, hshift, hbuffer]
      have hcount : (data ++ [pin]).length = data.length + 1 := by simp
      have hnext : (r.bitN + 1#8).toNat = 2 + (data ++ [pin]).length := by bv_omega
      rcases Nat.lt_or_ge (data.length + 1) 8 with hmore | hdone
      · exact Or.inl (.collecting hstart hnext (by omega) hbyte)
      · have hfull : InFrame d (start :: ((data ++ [pin]) ++ []))
            { r with
              buffer := r.buffer ||| ((BitVec.ofBool (line d pin)).setWidth 8 <<<
                (r.bitN.toNat - 2))
              bitN := r.bitN + 1#8 } :=
          .full hstart (by omega) (Or.inl (by bv_omega)) hbyte
        rw [List.append_nil] at hfull
        exact Or.inl hfull
  | @full start data after r hstart hlen hbit hbuffer =>
      by_cases hfail : CheckFails d r pin
      · rw [clock_rejected hfail]
        by_cases herror : r.error = 0#8
        · exact Or.inr (askResend_idle herror)
        · have hfrozen : (askResend r).1 = { r with error := 1#8 } := by
            rw [askResend, if_neg herror]
          rw [hfrozen, List.cons_append, List.append_assoc]
          exact Or.inl (.full hstart hlen hbit hbuffer)
      · rcases hbit with hbit | hbit
        · rw [clock_parity_ok hd hbit (by simpa [checkFails_parity hd hbit] using hfail),
            List.cons_append, List.append_assoc]
          exact Or.inl (.full hstart hlen (Or.inr rfl) hbuffer)
        · rw [clock_stop_ok hd hbit (by simpa [checkFails_stop hd hbit] using hfail)]
          exact Or.inr ⟨rfl, rfl⟩

/-- A byte is queued only at the end of a frame, and it is the byte of that frame. -/
theorem inFrame_add (h : InFrame d pins r) {pin b : U8}
    (hadd : .addElement b ∈ (clockInterrupt d r pin).2) :
    ∃ start data after, pins = start :: (data ++ after) ∧ line d start = false ∧
      data.length = 8 ∧ byteOf d data = b := by
  cases h with
  | waiting hr =>
      cases hlevel : line d pin with
      | true => simp [clock_idle_high hd hr.1 hlevel] at hadd
      | false => simp [clock_start hd hr.1 hlevel] at hadd
  | collecting hstart hbit hlen hbuffer =>
      simp [clock_data hd (show 2 ≤ r.bitN.toNat by omega) (by omega)] at hadd
  | @full start data after r hstart hlen hbit hbuffer =>
      by_cases hfail : CheckFails d r pin
      · rw [clock_rejected hfail, askResend] at hadd
        split at hadd <;> simp at hadd
      · rcases hbit with hbit | hbit
        · rw [clock_parity_ok hd hbit (by simpa [checkFails_parity hd hbit] using hfail)] at hadd
          cases hadd
        · rw [clock_stop_ok hd hbit (by simpa [checkFails_stop hd hbit] using hfail)] at hadd
          obtain rfl : b = r.buffer := by simpa using hadd
          exact ⟨start, data, after, rfl, hstart, hlen, hbuffer.symm⟩

end Frame

/-- The history of a receiver ends with the samples of its current frame. -/
theorem progress_iff {d : Nat} {h : List U8} {r : Receiver} :
    Progress d h r ↔ ∃ before pins, h = before ++ pins ∧ InFrame d pins r := by
  constructor
  · intro hp
    cases hp with
    | idle hr => exact ⟨h, [], (List.append_nil h).symm, .waiting hr⟩
    | collecting hstart hbit hlen hbuffer =>
        exact ⟨_, _, rfl, .collecting hstart hbit hlen hbuffer⟩
    | full hstart hlen hbit hbuffer =>
        exact ⟨_, _, List.append_assoc _ _ _, .full hstart hlen hbit hbuffer⟩
  · rintro ⟨before, pins, rfl, hframe⟩
    cases hframe with
    | waiting hr => exact .idle hr
    | collecting hstart hbit hlen hbuffer => exact .collecting hstart hbit hlen hbuffer
    | full hstart hlen hbit hbuffer =>
        rw [← List.cons_append, ← List.append_assoc]
        exact .full hstart hlen hbit hbuffer

/-- A receiver that waits for a start bit has an empty buffer. -/
theorem idle_of_bitN {d : Nat} {h : List U8} {r : Receiver} (hp : Progress d h r)
    (hr : r.bitN = 1#8) : r.Idle := by
  obtain ⟨_, _, _, hframe⟩ := progress_iff.mp hp
  exact ⟨hr, hframe.empty (by simp [hr])⟩

section History
variable {d : Nat} (hd : d < 8)
include hd

/-- One sample carries the history on, in each phase of a frame. -/
theorem progress_step (h : List U8) (r : Receiver) (pin : U8) (hp : Progress d h r) :
    Progress d (h ++ [pin]) (clockInterrupt d r pin).1 := by
  obtain ⟨before, pins, rfl, hframe⟩ := progress_iff.mp hp
  rcases inFrame_step hd hframe pin with hnext | hidle
  · exact progress_iff.mpr ⟨before, pins ++ [pin], List.append_assoc _ _ _, hnext⟩
  · exact .idle hidle

/-- A queued byte is spelled by samples that the receiver has read. -/
theorem progress_add (h : List U8) (r : Receiver) (pin : U8) (hp : Progress d h r) :
    ∀ call ∈ (clockInterrupt d r pin).2, ∀ b, call = .addElement b → Spelled d b (h ++ [pin]) := by
  intro call hcall b hb
  subst hb
  obtain ⟨before, pins, rfl, hframe⟩ := progress_iff.mp hp
  obtain ⟨start, data, after, rfl, hstart, hlen, hbyte⟩ := inFrame_add hd hframe hcall
  exact ⟨before, start, data, after ++ [pin], by simp, hstart, hlen, hbyte⟩

/-- Every byte queued after the receiver was idle is spelled by later samples. -/
theorem queued_spelled {r : Receiver} (hr : r.Idle) (pins : List U8) {b : U8}
    (hb : .addElement b ∈ (lineMachine d).outputs r pins) : Spelled d b pins := by
  have hout := Machine.output_of_history (M := lineMachine d) (H := Progress d)
    (Q := fun h call => ∀ b, call = .addElement b → Spelled d b h)
    (progress_step hd) (progress_add hd)
    (fun h later call hq b hcall => by
      obtain ⟨before, start, data, after, rfl, hstart, hlen, hbyte⟩ := hq b hcall
      exact ⟨before, start, data, after ++ later, by simp, hstart, hlen, hbyte⟩)
    (h := []) (.idle hr) pins
  simpa using hout _ hb b rfl

end History

end DiyPs3Controller.Frames
