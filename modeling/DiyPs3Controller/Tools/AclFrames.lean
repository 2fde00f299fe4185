import DiyPs3Controller.SixpairEmu.Emulator
import DiyPs3Controller.Tools.SixProxy

/-!
# Frames of the proxy

The proxy reads and writes frames of the Bluetooth adapter: a type, the handle
of a connection with four bits of flags, a length, and the data. It keeps the
handle and the data alone. Every frame that it writes begins a packet, so that
a frame that continues one, or that is longer than its buffer, is not the same
on the other side.
-/

namespace DiyPs3Controller.SixProxy

open SixpairEmu (readWord wordBytes readWord_wordBytes wordBytes_injective)

/-! The constants and macros of the Bluetooth library. -/

def hciAcldataPkt : U8 := 0x02#8
def hciMaxEventSize : Nat := 260
def aclCont : U16 := 0x01#16
def aclStart : U16 := 0x02#16

/-- `acl_handle_pack` -/
def aclHandlePack (h f : U16) : U16 := (h &&& 0x0fff#16) ||| (f <<< 12)

/-- `acl_handle` -/
def aclHandle (h : U16) : U16 := h &&& 0x0fff#16

/-- A header and its data. -/
def frameBytes (flags handle : U16) (data : List U8) : List U8 :=
  hciAcldataPkt :: (wordBytes (aclHandlePack handle flags) ++
    wordBytes (BitVec.ofNat 16 data.length) ++ data)

/-- `send_acl_data`: the bytes of its one `writev`. -/
def sendAclData (handle : U16) (plen : U8) (data : List U8) : List U8 :=
  hciAcldataPkt :: (wordBytes (aclHandlePack handle aclStart) ++
    wordBytes (plen.setWidth 16) ++ data.take plen.toNat)

/-- `receive_acl_data`, with the frame that `read` finds; with less than a header
`memcpy` has a negative length. -/
def receiveAclData (frame : List U8) : Option AclPacket :=
  let buf := frame.take hciMaxEventSize
  if buf.length < 5 then none
  else
    let packedHandle := readWord #v[buf.getD 1 0#8, buf.getD 2 0#8]
    some { handle := aclHandle packedHandle, data := buf.drop 5 }

/-- The loop of `main` between its reads and its writes; nothing is said behind a
frame without a header. -/
def wireLoop : Machine (Option Proxy) (List U8 × Option Char) (List U8) where
  step s input :=
    match s with
    | none => (none, [])
    | some s =>
        ((receiveAclData input.1).map fun packet =>
            { s with packet, param := userInterface s.param input.2 },
          s.forward.map fun p => sendAclData p.handle (BitVec.ofNat 8 p.data.length) p.data)

/-! ## Frames -/

/-- A frame of the adapter. -/
structure AclFrame where
  flags : U16
  handle : U16
  data : List U8
  flags_lt : flags < 0x10#16
  handle_lt : handle < 0x1000#16
  data_lt : data.length < 65536

def AclFrame.bytes (f : AclFrame) : List U8 := frameBytes f.flags f.handle f.data

/-- The packet that the proxy makes of a frame. -/
def AclFrame.received (f : AclFrame) : AclPacket where
  handle := f.handle
  data := f.data.take 255

/-- The frame begins a packet, and the buffer holds it. -/
def AclFrame.Plain (f : AclFrame) : Prop := f.flags = aclStart ∧ f.data.length ≤ 255

section Header
variable {h f : U16}

theorem getLsbD_of_lt {w : U16} {k : Nat} (hw : w.toNat < Nat.pow 2 k) {i : Nat} (hi : k ≤ i) :
    w.getLsbD i = false := by
  rw [← BitVec.testBit_toNat]
  exact Nat.testBit_lt_two_pow (lt_of_lt_of_le hw (Nat.pow_le_pow_right (by decide) hi))

theorem getLsbD_handleMask (i : Nat) (hi : i < 16) : (0x0fff#16).getLsbD i = decide (i < 12) := by
  have hall : (List.range 16).all fun i => (0x0fff#16).getLsbD i == decide (i < 12) := by decide
  exact beq_iff_eq.mp (List.all_eq_true.mp hall i (List.mem_range.mpr hi))

theorem getLsbD_aclHandlePack {i : Nat} (hi : i < 16) :
    (aclHandlePack h f).getLsbD i = if i < 12 then h.getLsbD i else f.getLsbD (i - 12) := by
  rw [aclHandlePack, BitVec.getLsbD_or, BitVec.getLsbD_and, BitVec.getLsbD_shiftLeft,
    getLsbD_handleMask i hi]
  by_cases hlow : i < 12 <;> simp [hlow, hi]

/-- The handle comes out of the header again. -/
theorem aclHandle_pack (hh : h < 0x1000#16) : aclHandle (aclHandlePack h f) = h := by
  apply BitVec.eq_of_getLsbD_eq
  intro i hi
  rw [aclHandle, BitVec.getLsbD_and, getLsbD_aclHandlePack hi, getLsbD_handleMask i hi]
  by_cases hlow : i < 12
  · simp [hlow]
  · have hzero : h.getLsbD i = false := getLsbD_of_lt (k := 12) hh (not_lt.mp hlow)
    simp [hlow, hzero]

/-- The flags can be told from the header. -/
theorem flags_of_pack {f' : U16} (hf : f < 0x10#16) (hf' : f' < 0x10#16)
    (heq : aclHandlePack h f = aclHandlePack h f') : f = f' := by
  apply BitVec.eq_of_getLsbD_eq
  intro i hi
  by_cases hlow : i < 4
  · have hbit := congrArg (fun w : U16 => w.getLsbD (12 + i)) heq
    have hin : 12 + i < 16 := by omega
    have hhigh : ¬12 + i < 12 := by omega
    have hindex : 12 + i - 12 = i := by omega
    simpa only [getLsbD_aclHandlePack hin, if_neg hhigh, hindex] using hbit
  · rw [getLsbD_of_lt (k := 4) hf (not_lt.mp hlow), getLsbD_of_lt (k := 4) hf' (not_lt.mp hlow)]

end Header

/-- The proxy reads the handle and as much data as its buffer holds. -/
theorem receiveAclData_bytes (f : AclFrame) : receiveAclData f.bytes = some f.received := by
  have htake : f.bytes.take hciMaxEventSize =
      hciAcldataPkt :: (wordBytes (aclHandlePack f.handle f.flags) ++
        wordBytes (BitVec.ofNat 16 f.data.length) ++ f.data.take 255) := rfl
  have hlength : ¬(f.bytes.take hciMaxEventSize).length < 5 := by
    rw [htake]
    simp only [wordBytes, List.cons_append, List.nil_append, List.length_cons]
    omega
  have hhandle : readWord #v[(f.bytes.take hciMaxEventSize).getD 1 0#8,
      (f.bytes.take hciMaxEventSize).getD 2 0#8] = aclHandlePack f.handle f.flags := by
    rw [htake]
    exact readWord_wordBytes _
  unfold receiveAclData
  dsimp only
  rw [if_neg hlength, hhandle, aclHandle_pack f.handle_lt, htake]
  rfl

/-- What is written with data that the buffer can hold is a frame that begins a packet. -/
theorem sendAclData_eq (handle : U16) {data : List U8} (h : data.length ≤ 255) :
    sendAclData handle (BitVec.ofNat 8 data.length) data = frameBytes aclStart handle data := by
  have hlength : (BitVec.ofNat 8 data.length).toNat = data.length := by
    rw [BitVec.toNat_ofNat]
    omega
  have hword : (BitVec.ofNat 8 data.length).setWidth 16 = BitVec.ofNat 16 data.length := by
    apply BitVec.eq_of_toNat_eq
    rw [BitVec.toNat_setWidth, hlength, BitVec.toNat_ofNat]
  rw [sendAclData, frameBytes, hword, hlength, List.take_length]

/-- Frames of one connection differ in their flags or in their data. -/
theorem frameBytes_inj {f f' handle : U16} {data data' : List U8} (hf : f < 0x10#16)
    (hf' : f' < 0x10#16) :
    frameBytes f handle data = frameBytes f' handle data' ↔ f = f' ∧ data = data' := by
  constructor
  · intro heq
    have hword (v w : U16) : (wordBytes v).length = (wordBytes w).length := rfl
    have hheaders (v v' w w' : U16) :
        (wordBytes v ++ wordBytes w).length = (wordBytes v' ++ wordBytes w').length := rfl
    obtain ⟨hheader, hdata⟩ := List.append_inj (List.cons.inj heq).2 (hheaders _ _ _ _)
    obtain ⟨hhandle, -⟩ := List.append_inj hheader (hword _ _)
    exact ⟨flags_of_pack hf hf' (wordBytes_injective hhandle), hdata⟩
  · rintro ⟨rfl, rfl⟩
    rfl

theorem aclStart_lt : aclStart < 0x10#16 := by decide

/-! ## The relay -/

/-- A relay that keeps the flags and all data, with the variables of `main`. -/
structure Relay where
  param : Param
  hsix : U16
  hps3 : U16
  frame : AclFrame

namespace Relay

/-- The frame with the other handle, and with the correction on the way to the console. -/
def forward (r : Relay) : List (List U8) :=
  if r.frame.handle = r.hsix then
    [frameBytes r.frame.flags r.hps3 (corrected r.param r.frame.data)]
  else if r.frame.handle = r.hps3 then [frameBytes r.frame.flags r.hsix r.frame.data]
  else []

def start (first : AclFrame) (hps3 : U16) : Relay where
  param := mainParam
  hsix := first.handle
  hps3 := hps3
  frame := first

/-- The proxy at the same place. -/
def proxy (r : Relay) : Proxy where
  param := r.param
  hsix := r.hsix
  hps3 := r.hps3
  packet := r.frame.received

end Relay

def relay : Machine Relay (AclFrame × Option Char) (List U8) where
  step r input :=
    ({ r with frame := input.1, param := userInterface r.param input.2 }, r.forward)

/-- What `read` finds of a frame, and what the packet loop is given of it. -/
def wired (input : AclFrame × Option Char) : List U8 × Option Char := (input.1.bytes, input.2)
def turned (input : AclFrame × Option Char) : Turn := { packet := input.1.received, key := input.2 }

/-- How the proxy relays: it writes frames that begin packets, and those alone; they are the
packets of the loop; and they are those of the relay exactly when every frame that is forwarded
begins a packet and fits the buffer. -/
structure RelaysFrames (first : AclFrame) (hps3 : U16) (inputs : List (AclFrame × Option Char)) :
    Prop where
  written : ∀ reads, ∀ bytes ∈ wireLoop.outputs (some (connected first.received hps3)) reads,
    ∃ f : AclFrame, bytes = f.bytes ∧ f.Plain ∧ (f.handle = first.handle ∨ f.handle = hps3)
  packets : wireLoop.outputs (some (connected first.received hps3)) (inputs.map wired) =
    (mainLoop.outputs (connected first.received hps3) (inputs.map turned)).map
      fun p => frameBytes aclStart p.handle p.data
  faithful : wireLoop.outputs (some (connected first.received hps3)) (inputs.map wired) =
      relay.outputs (.start first hps3) inputs ↔
    ∀ f ∈ (first :: inputs.map Prod.fst).dropLast,
      f.handle = first.handle ∨ f.handle = hps3 → f.Plain

section Steps
variable {s : Proxy} {r : Relay}

theorem length_corrected (param : Param) (data : List U8) :
    (corrected param data).length = data.length := by
  unfold corrected
  split_ifs with h
  · rw [Vector.length_toList, h]
  · rfl

theorem receiveAclData_length {frame : List U8} {p : AclPacket}
    (h : receiveAclData frame = some p) : p.data.length ≤ 255 := by
  have hlength : (frame.take hciMaxEventSize).length ≤ 260 :=
    List.length_take_le hciMaxEventSize frame
  unfold receiveAclData at h
  dsimp only at h
  split_ifs at h
  obtain rfl := Option.some.inj h
  rw [List.length_drop]
  omega

/-- The calls of `send_acl_data` have data that the buffer holds, and go to one of the two. -/
theorem forward_fits (hfits : s.packet.data.length ≤ 255) {p : AclPacket} (hp : p ∈ s.forward) :
    p.data.length ≤ 255 ∧ (p.handle = s.hsix ∨ p.handle = s.hps3) := by
  have hbuf : s.buf.length ≤ 255 := by
    unfold Proxy.buf
    split_ifs
    · rwa [length_corrected]
    · exact hfits
  unfold Proxy.forward at hp
  rcases List.mem_append.mp hp with hp | hp
  · split_ifs at hp
    · rw [List.mem_singleton.mp hp]
      exact ⟨hbuf, Or.inr rfl⟩
    · cases hp
  · split_ifs at hp
    · rw [List.mem_singleton.mp hp]
      exact ⟨hbuf, Or.inl rfl⟩
    · cases hp

/-- What a turn writes are the packets that the loop forwards. -/
theorem written_eq (hfits : s.packet.data.length ≤ 255) :
    (s.forward.map fun p => sendAclData p.handle (BitVec.ofNat 8 p.data.length) p.data) =
      s.forward.map fun p => frameBytes aclStart p.handle p.data :=
  List.map_congr_left fun _ hp => sendAclData_eq _ (forward_fits hfits hp).1

theorem length_received (f : AclFrame) : f.received.data.length ≤ 255 :=
  List.length_take_le 255 f.data

/-- One frame arrives as it was sent if it begins a packet and fits, and only then. -/
theorem sent_eq_iff (f : AclFrame) (handle : U16) {g : List U8 → List U8}
    (hg : ∀ data, (g data).length = data.length) :
    frameBytes aclStart handle (g f.received.data) = frameBytes f.flags handle (g f.data) ↔
      f.Plain := by
  rw [frameBytes_inj aclStart_lt f.flags_lt, AclFrame.Plain]
  refine and_congr eq_comm ⟨fun heq => ?_, fun hfits => ?_⟩
  · have hlength := congrArg List.length heq
    rw [hg, hg] at hlength
    have hreceived := length_received f
    omega
  · rw [AclFrame.received, List.take_of_length_le hfits]

/-- A turn writes what the relay does when its frame is not forwarded, or begins a
packet and fits. -/
theorem turn_eq_iff (hne : r.hsix ≠ r.hps3) :
    (r.proxy.forward.map fun p => frameBytes aclStart p.handle p.data).length =
        r.forward.length ∧
      ((r.proxy.forward.map fun p => frameBytes aclStart p.handle p.data) = r.forward ↔
        (r.frame.handle = r.hsix ∨ r.frame.handle = r.hps3 → r.frame.Plain)) := by
  by_cases hsix : r.frame.handle = r.hsix
  · have hproxy : r.proxy.forward =
        [{ handle := r.hps3, data := corrected r.param r.frame.received.data }] :=
      forward_controller hne hsix
    have hsent := sent_eq_iff r.frame r.hps3 (length_corrected r.param)
    rw [hproxy, Relay.forward, if_pos hsix, List.map_singleton, List.singleton_inj, hsent,
      List.length_singleton, List.length_singleton]
    exact ⟨rfl, fun h _ => h, fun h => h (Or.inl hsix)⟩
  · by_cases hps3 : r.frame.handle = r.hps3
    · have hproxy : r.proxy.forward = [{ handle := r.hsix, data := r.frame.received.data }] :=
        forward_console hne hps3
      have hsent := sent_eq_iff r.frame r.hsix (g := fun data => data) fun _ => rfl
      rw [hproxy, Relay.forward, if_neg hsix, if_pos hps3, List.map_singleton,
        List.singleton_inj, hsent, List.length_singleton, List.length_singleton]
      exact ⟨rfl, fun h _ => h, fun h => h (Or.inr hps3)⟩
    · have hproxy : r.proxy.forward = [] := forward_other hsix hps3
      rw [hproxy, Relay.forward, if_neg hsix, if_neg hps3]
      refine ⟨rfl, iff_of_true rfl fun h => ?_⟩
      exact absurd h (not_or.mpr ⟨hsix, hps3⟩)

end Steps

section Runs
variable {first : AclFrame} {hps3 : U16} {inputs : List (AclFrame × Option Char)}

/-- A turn over a frame, in the loop of the proxy. -/
theorem wireLoop_wired (r : Relay) (input : AclFrame × Option Char) :
    wireLoop.step (some r.proxy) (wired input) =
      (some (relay.step r input).1.proxy,
        r.proxy.forward.map fun p => frameBytes aclStart p.handle p.data) := by
  have hread : receiveAclData (wired input).1 = some input.1.received :=
    receiveAclData_bytes input.1
  have hwritten := written_eq (s := r.proxy) (length_received r.frame)
  simp only [wireLoop, hread, hwritten, Option.map_some]
  rfl

/-- The loop over frames is the loop over packets, put in frames again. -/
theorem wireLoop_packets (r : Relay) (inputs : List (AclFrame × Option Char)) :
    wireLoop.outputs (some r.proxy) (inputs.map wired) =
      (mainLoop.outputs r.proxy (inputs.map turned)).map
        fun p => frameBytes aclStart p.handle p.data := by
  induction inputs generalizing r with
  | nil => rfl
  | cons input rest ih =>
      have hstep : (mainLoop.step r.proxy (turned input)).1 = (relay.step r input).1.proxy := rfl
      rw [List.map_cons, List.map_cons, Machine.outputs_cons, Machine.outputs_cons,
        wireLoop_wired, ih, hstep, List.map_append]
      rfl

/-- The frames that the loop has forwarded are all but the last one that it has read. -/
theorem relay_along {Q : AclFrame → Prop} (r : Relay) (inputs : List (AclFrame × Option Char)) :
    relay.Along (fun r _ => Q r.frame) r inputs ↔
      ∀ f ∈ (r.frame :: inputs.map Prod.fst).dropLast, Q f := by
  induction inputs generalizing r with
  | nil => simp [Machine.Along]
  | cons input rest ih =>
      rw [Machine.Along, ih, List.map_cons, List.dropLast_cons_cons, List.forall_mem_cons]
      rfl

theorem wireLoop_none (reads : List (List U8 × Option Char)) :
    wireLoop.outputs none reads = [] := by
  induction reads with
  | nil => rfl
  | cons input rest ih => exact ih

/-- The packet of the loop fits its buffer, and the two connections stay. -/
structure Connected (first : AclFrame) (hps3 : U16) (s : Proxy) : Prop where
  fits : s.packet.data.length ≤ 255
  hsix : s.hsix = first.handle
  hps3 : s.hps3 = hps3

/-- What is written is a frame that begins a packet for one of the connections. -/
theorem forward_written {s : Proxy} (hs : Connected first hps3 s) (hlt : hps3 < 0x1000#16)
    {p : AclPacket} (hp : p ∈ s.forward) :
    ∃ f : AclFrame, frameBytes aclStart p.handle p.data = f.bytes ∧ f.Plain ∧
      (f.handle = first.handle ∨ f.handle = hps3) := by
  obtain ⟨hlength, hhandle⟩ := forward_fits hs.fits hp
  rw [hs.hsix, hs.hps3] at hhandle
  have hhandle_lt : p.handle < 0x1000#16 := by
    rcases hhandle with hsix | hps3
    · exact hsix ▸ first.handle_lt
    · exact hps3 ▸ hlt
  exact ⟨⟨aclStart, p.handle, p.data, aclStart_lt, hhandle_lt, by omega⟩, rfl, ⟨rfl, hlength⟩,
    hhandle⟩

/-- Of any bytes that are read only frames are written. -/
theorem wireLoop_written (reads : List (List U8 × Option Char)) (hlt : hps3 < 0x1000#16)
    {s : Proxy} (hs : Connected first hps3 s) {bytes : List U8}
    (h : bytes ∈ wireLoop.outputs (some s) reads) :
    ∃ f : AclFrame, bytes = f.bytes ∧ f.Plain ∧ (f.handle = first.handle ∨ f.handle = hps3) := by
  induction reads generalizing s with
  | nil => cases h
  | cons input rest ih =>
      have hwrites : (wireLoop.step (some s) input).2 =
          s.forward.map fun p => frameBytes aclStart p.handle p.data := written_eq hs.fits
      rw [Machine.outputs_cons, hwrites] at h
      rcases List.mem_append.mp h with hnow | hlater
      · obtain ⟨p, hp, rfl⟩ := List.mem_map.mp hnow
        exact forward_written hs hlt hp
      · cases hread : receiveAclData input.1 with
        | none =>
            have hend : (wireLoop.step (some s) input).1 = none := by
              simp only [wireLoop, hread, Option.map_none]
            rw [hend, wireLoop_none] at hlater
            cases hlater
        | some packet =>
            have hnext : (wireLoop.step (some s) input).1 =
                some { s with packet, param := userInterface s.param input.2 } := by
              simp only [wireLoop, hread, Option.map_some]
            rw [hnext] at hlater
            have hstays : Connected first hps3
                { s with packet, param := userInterface s.param input.2 } :=
              ⟨receiveAclData_length hread, hs.hsix, hs.hps3⟩
            exact ih hstays hlater

end Runs

/-- So it is in every run between two connections, whatever frames come in, in whatever
order, and whatever keys are pressed. -/
theorem relays_frames (first : AclFrame) {hps3 : U16} (hlt : hps3 < 0x1000#16)
    (hne : first.handle ≠ hps3) (inputs : List (AclFrame × Option Char)) :
    RelaysFrames first hps3 inputs where
  written reads _ h := wireLoop_written reads hlt ⟨length_received first, rfl, rfl⟩ h
  packets := wireLoop_packets (.start first hps3) inputs
  faithful := by
    have hstep := Machine.outputs_eq_iff_along (M := wireLoop.comap wired) (N := relay)
      (R := fun s r => s = some r.proxy ∧ r.hsix = first.handle ∧ r.hps3 = hps3)
      (P := fun r _ => r.frame.handle = first.handle ∨ r.frame.handle = hps3 → r.frame.Plain)
      (fun s r input hs => by
        obtain ⟨rfl, hhsix, hhps3⟩ := hs
        have hturn := turn_eq_iff (r := r) (by rwa [hhsix, hhps3])
        rw [hhsix, hhps3] at hturn
        have hwired : (wireLoop.comap wired).step (some r.proxy) input = _ :=
          wireLoop_wired r input
        rw [hwired]
        exact ⟨⟨rfl, hhsix, hhps3⟩, hturn⟩)
      (s := some (connected first.received hps3)) (t := .start first hps3) ⟨rfl, rfl, rfl⟩ inputs
    rw [(Machine.comap_run wireLoop wired _ inputs).2] at hstep
    exact hstep.trans (relay_along
      (Q := fun f => f.handle = first.handle ∨ f.handle = hps3 → f.Plain)
      (.start first hps3) inputs)

/-! A packet in two frames: the proxy makes two packets of it. -/

def packetBegins : AclFrame :=
  ⟨aclStart, 0x0B#16, [0xA1#8, 0x01#8], by decide, by decide, by decide⟩

def packetContinues : AclFrame := ⟨aclCont, 0x0B#16, [0x00#8], by decide, by decide, by decide⟩

def packetInTwo : List (AclFrame × Option Char) :=
  [(packetContinues, none), (packetBegins, none)]

theorem relays_frames_in_two :
    RelaysFrames packetBegins 0x0C#16 packetInTwo ∧
      wireLoop.outputs (some (connected packetBegins.received 0x0C#16)) (packetInTwo.map wired) =
        [[0x02#8, 0x0C#8, 0x20#8, 0x02#8, 0x00#8, 0xA1#8, 0x01#8],
          [0x02#8, 0x0C#8, 0x20#8, 0x01#8, 0x00#8, 0x00#8]] ∧
      relay.outputs (.start packetBegins 0x0C#16) packetInTwo =
        [[0x02#8, 0x0C#8, 0x20#8, 0x02#8, 0x00#8, 0xA1#8, 0x01#8],
          [0x02#8, 0x0C#8, 0x10#8, 0x01#8, 0x00#8, 0x00#8]] :=
  ⟨relays_frames packetBegins (by decide) (by decide) packetInTwo, by decide, by decide⟩

end DiyPs3Controller.SixProxy
