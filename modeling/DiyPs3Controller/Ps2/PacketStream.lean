import DiyPs3Controller.Foundations.Framing
import DiyPs3Controller.Ps2.MouseSchedules

/-!
# Packets in the byte stream of the mouse

Past the startup table `EventFilter` is a framer: bit 3 tells which bytes may
start a packet, and a packet is such a byte with three more behind it. What the
framer finds is what the parse of the whole stream finds, however the stream is
spread over the calls of `MS_EventTask`. Behind a lost byte it finds the
packets again when the bytes left over all have bit 3 clear.
-/

namespace DiyPs3Controller.PacketStream

open RingBuffer UsbJoystick MouseDriver StartupSequence MouseSchedules Framing

/-- A byte that is not skipped at a packet boundary: its bit 3 is set. -/
def StartsPacket (b : U8) : Prop := b &&& 0x08#8 ≠ 0#8

instance : DecidablePred StartsPacket := fun _ => inferInstanceAs (Decidable (_ ≠ _))

/-- A header with bit 3 set and three movement bytes. -/
def WellFormed (packet : List U8) : Prop := IsFrame StartsPacket 3 packet

/-- The framer that `EventFilter` should be. -/
def packetFramer : Machine (List U8) U8 (List U8) := framer StartsPacket 3

/-- The bytes of a packet passed to `EventDispatcher`. -/
def dispatched? : MsCall → Option (List U8)
  | .eventDispatcher packet => some packet.bytes
  | _ => none

/-- The packets passed to `EventDispatcher`. -/
def dispatchedPackets (calls : List MsCall) : List (List U8) := calls.filterMap dispatched?

/-- The bytes gathered for the next packet. -/
def gathered (m : Mouse) : List U8 := m.packet.bytes.take m.packet.size.toNat

/-- The filter past its table, with its four byte packet not yet full. -/
structure Streaming (m : Mouse) : Prop where
  past : Past m
  length : m.packet.bytes.length = 4
  size_lt : m.packet.size < 4#8

/-- `EventFilter` on one byte after the other. -/
def streamMachine : Machine Mouse U8 MsCall where
  step := eventFilter

@[simp] theorem dispatchedPackets_joy (calls : List JoyCall) :
    dispatchedPackets (calls.map .joy) = [] := by
  simp [dispatchedPackets, List.filterMap_map, Function.comp_def, dispatched?]

theorem Streaming.gathered_length {m : Mouse} (h : Streaming m) :
    (gathered m).length = m.packet.size.toNat := by
  have hlt := h.size_lt
  rw [gathered, List.length_take_of_le]
  rw [h.length]
  bv_omega

theorem Streaming.gathered_length_le {m : Mouse} (h : Streaming m) :
    (gathered m).length ≤ 3 := by
  have hlt := h.size_lt
  rw [h.gathered_length]
  bv_omega

theorem Streaming.gathered_eq_nil_iff {m : Mouse} (h : Streaming m) :
    gathered m = [] ↔ m.packet.size = 0#8 := by
  rw [← List.length_eq_zero_iff, h.gathered_length]
  constructor
  · intro hzero
    exact BitVec.eq_of_toNat_eq hzero
  · intro hzero
    rw [hzero]
    rfl

section Step
variable {m : Mouse} {b : U8} (h : Streaming m)
include h

theorem gathered_or_starts (hk : ¬ Skipped m b) : gathered m ≠ [] ∨ StartsPacket b := by
  by_cases hstarts : StartsPacket b
  · exact Or.inr hstarts
  · left
    intro hnil
    exact hk ⟨h.gathered_eq_nil_iff.mp hnil, not_not.mp hstarts⟩

/-- Past the table `EventFilter` takes the step of the framer. -/
theorem eventFilter_frames :
    Streaming (eventFilter m b).1 ∧
      (packetFramer.step (gathered m) b).1 = gathered (eventFilter m b).1 ∧
      dispatchedPackets (eventFilter m b).2 = (packetFramer.step (gathered m) b).2 := by
  have hgrown : (grown m b).bytes.length = 4 := by simpa [grown] using h.length
  have htake := take_grown h.length h.size_lt b
  have hlt := h.size_lt
  have hstep := eventFilter_step m b
  generalize eventFilter m b = next at hstep ⊢
  cases hstep with
  | accepted hm => exact absurd hm.1 h.past
  | retried hs | gaveUp hs => exact absurd hs h.past
  | skipped hp hk =>
      have hnil : gathered m = [] := h.gathered_eq_nil_iff.mpr hk.1
      have hstart : ¬ StartsPacket b := not_not.mpr hk.2
      rw [packetFramer, hnil, step_skip hstart]
      exact ⟨h, rfl, rfl⟩
  | stored hp hk hsize =>
      have hne : (gathered m).length ≠ 3 := by
        rw [h.gathered_length]
        simp only [grown] at hsize
        bv_omega
      rw [packetFramer, step_gather (gathered_or_starts h hk) hne]
      refine ⟨⟨hp, hgrown, ?_⟩, htake.symm, rfl⟩
      simp only [grown] at hsize ⊢
      bv_omega
  | dispatched hp hk hsize =>
      have hfull : (gathered m).length = 3 := by
        rw [h.gathered_length]
        simp only [grown] at hsize
        bv_omega
      have hbytes : (grown m b).bytes = gathered m ++ [b] := by
        rw [hsize] at htake
        rwa [List.take_of_length_le (by rw [hgrown]; decide)] at htake
      rw [packetFramer, step_finish (gathered_or_starts h hk) hfull]
      refine ⟨⟨hp, hgrown, (by decide : 0#8 < 4#8)⟩, rfl, ?_⟩
      rw [← hbytes]
      exact congrArg (_ :: ·) (dispatchedPackets_joy _)

end Step

/-- A driver whose filter has gathered what the framer has gathered. -/
def Follows (m : Mouse) (part : List U8) : Prop := Streaming m ∧ gathered m = part

/-- Over whole streams `EventFilter` runs as the framer does. -/
theorem stream_frames {m : Mouse} (h : Streaming m) (bytes : List U8) :
    Streaming (streamMachine.state m bytes) ∧
      gathered (streamMachine.state m bytes) = packetFramer.state (gathered m) bytes ∧
      dispatchedPackets (streamMachine.outputs m bytes) =
        packetFramer.outputs (gathered m) bytes := by
  have hsim := Machine.simulation (M := streamMachine) (N := packetFramer) (f := dispatched?)
    (g := some) Follows
    (by
      rintro m part b ⟨hm, rfl⟩
      obtain ⟨hnext, hpart, hout⟩ := eventFilter_frames (b := b) hm
      rw [List.filterMap_some]
      exact ⟨⟨hnext, hpart.symm⟩, hout⟩)
    (⟨h, rfl⟩ : Follows m (gathered m)) bytes
  rw [List.filterMap_some] at hsim
  exact ⟨hsim.1.1, hsim.1.2, hsim.2⟩

theorem scancodes_run (m : Mouse) (bytes : List U8) :
    filterMachine.state m (scancodes bytes) = streamMachine.state m bytes ∧
      filterMachine.outputs m (scancodes bytes) = streamMachine.outputs m bytes := by
  induction bytes generalizing m with
  | nil => exact ⟨rfl, rfl⟩
  | cons b rest ih =>
      obtain ⟨hstate, hout⟩ := ih (eventFilter m b).1
      exact ⟨hstate, congrArg ((eventFilter m b).2 ++ ·) hout⟩

/-- Every dispatched packet can be seen. -/
theorem dispatchedPackets_observe (calls : List MsCall) :
    dispatchedPackets (observe calls) = dispatchedPackets calls := by
  rw [dispatchedPackets, observe, List.filterMap_filterMap]
  congr 1
  funext call
  cases call <;> rfl

theorem alike_streaming {s t : Mouse} (h : Alike s t) (ht : Streaming t) :
    Streaming s ∧ gathered s = gathered t := by
  refine ⟨⟨?_, h.length_left, h.size_lt⟩, ?_⟩
  · have hpast := ht.past
    rwa [Past, ← h.filter] at hpast
  · rw [gathered, h.bytes, h.size]
    rfl

/-- One `MS_EventTask` frames all the bytes that are queued. -/
theorem task_frames {m : Mouse} (h : Streaming m) :
    Streaming (msEventTask m).1 ∧
      gathered (msEventTask m).1 = packetFramer.state (gathered m) (queued m) ∧
      dispatchedPackets (msEventTask m).2 = packetFramer.outputs (gathered m) (queued m) ∧
      queued (msEventTask m).1 = [] := by
  have hself : Alike m m := ⟨rfl, rfl, rfl, rfl, h.size_lt, h.length, h.length⟩
  obtain ⟨halike, hobs, hempty, -⟩ := task_run hself
  obtain ⟨hstate, hout⟩ := scancodes_run m (queued m)
  rw [hstate] at halike
  rw [hout] at hobs
  obtain ⟨hnext, hgathered, hdispatched⟩ := stream_frames h (queued m)
  obtain ⟨hstreaming, hpart⟩ := alike_streaming halike hnext
  refine ⟨hstreaming, hpart.trans hgathered, ?_, hempty⟩
  rw [← dispatchedPackets_observe, hobs, dispatchedPackets_observe, hdispatched]

/-- The byte queued by an input. -/
def received? : Schedule → Option U8
  | .receive data => some data
  | .task => none

/-- A byte that is queued finds room. -/
def FindsRoom (m : Mouse) : Schedule → Prop
  | .receive _ => m.driver.ringbuffer.HasRoom
  | .task => True

instance (m : Mouse) (input : Schedule) : Decidable (FindsRoom m input) :=
  match input with
  | .receive _ => inferInstanceAs (Decidable m.driver.ringbuffer.HasRoom)
  | .task => inferInstanceAs (Decidable True)

/-- However the bytes are queued and taken, the framer reads them in order. -/
theorem schedule_reads {m : Mouse} (h : Streaming m) {inputs : List Schedule}
    (hroom : scheduleMachine.Along FindsRoom m inputs) :
    Streaming (scheduleMachine.state m inputs) ∧
      packetFramer.Reads queued gathered m (scheduleMachine.state m inputs)
        (inputs.filterMap received?) (dispatchedPackets (scheduleMachine.outputs m inputs)) := by
  refine Machine.buffered_run (P := FindsRoom) (f := dispatched?) ?_ h hroom
  intro m input hm hroom
  cases input with
  | receive data =>
      refine ⟨⟨hm.past, hm.length, hm.size_lt⟩, [], ?_, rfl, rfl⟩
      exact (Ring.contents_addElement hroom data).symm
  | task =>
      obtain ⟨hnext, hgathered, hdispatched, hempty⟩ := task_frames hm
      refine ⟨hnext, queued m, ?_, hgathered, hdispatched⟩
      rw [scheduleMachine_task, hempty]
      rfl

/-- From an empty packet the dispatched packets are those of the greedy parse,
each with bit 3 of its header set; well-formed packets are dispatched once
each, in order, and leave nothing pending; and it makes no difference how the
bytes are spread over calls of `MS_EventTask`. -/
theorem packets_greedy (m : Mouse) (hpast : Past m) (hlength : m.packet.bytes.length = 4)
    (hempty : m.packet.size = 0#8) :
    (∀ bytes, dispatchedPackets (streamMachine.outputs m bytes) =
          (greedy StartsPacket 3 bytes).1 ∧
        ∀ packet ∈ dispatchedPackets (streamMachine.outputs m bytes), WellFormed packet) ∧
      (∀ packets, (∀ packet ∈ packets, WellFormed packet) →
        dispatchedPackets (streamMachine.outputs m packets.flatten) = packets ∧
          (streamMachine.state m packets.flatten).packet.size = 0#8) ∧
      ∀ inputs, queued m = [] → scheduleMachine.Along FindsRoom m inputs →
        queued (scheduleMachine.state m inputs) = [] →
        dispatchedPackets (scheduleMachine.outputs m inputs) =
          dispatchedPackets (streamMachine.outputs m (inputs.filterMap received?)) := by
  have hm : Streaming m := ⟨hpast, hlength, by rw [hempty]; decide⟩
  have hnil : gathered m = [] := hm.gathered_eq_nil_iff.mpr hempty
  have hgreedy : ∀ bytes, dispatchedPackets (streamMachine.outputs m bytes) =
      (greedy StartsPacket 3 bytes).1 := by
    intro bytes
    rw [(stream_frames hm bytes).2.2, hnil]
    exact (greedy_run bytes).1
  refine ⟨?_, ?_, ?_⟩
  · intro bytes
    refine ⟨hgreedy bytes, ?_⟩
    rw [hgreedy bytes]
    exact greedy_frames bytes
  · intro packets hpackets
    obtain ⟨hnext, hgathered, hdispatched⟩ := stream_frames hm packets.flatten
    obtain ⟨hout, hstate⟩ := frames_run hpackets
    rw [hnil] at hgathered hdispatched
    exact ⟨hdispatched.trans hout, hnext.gathered_eq_nil_iff.mp (hgathered.trans hstate)⟩
  · intro inputs hqueue hroom hdrained
    obtain ⟨-, taken, hsplit, -, hout⟩ := schedule_reads hm hroom
    rw [hqueue, hdrained, List.nil_append, List.append_nil] at hsplit
    rw [hout, hsplit, (stream_frames hm taken).2.2]

/-- The driver when the mouse has answered the whole startup table. -/
def streamingStart : Mouse := streamMachine.state msInit (targets.drop 1)

/-- Two bytes behind a stray one, then the rest of the packet and another one. -/
def spread : List Schedule :=
  [.receive 0x00#8, .receive 0x28#8, .task, .receive 0x0B#8, .receive 0x02#8, .task,
    .receive 0x00#8, .receive 0x08#8, .task, .receive 0x00#8, .task, .receive 0x00#8,
    .receive 0x01#8, .task]

theorem packets_greedy_spread :
    dispatchedPackets (streamMachine.outputs streamingStart (spread.filterMap received?)) =
        (greedy StartsPacket 3 (spread.filterMap received?)).1 ∧
      dispatchedPackets (streamMachine.outputs streamingStart
        [[0x28#8, 0x0B#8, 0x02#8, 0x00#8], [0x08#8, 0x00#8, 0x00#8, 0x01#8]].flatten) =
          [[0x28#8, 0x0B#8, 0x02#8, 0x00#8], [0x08#8, 0x00#8, 0x00#8, 0x01#8]] ∧
      dispatchedPackets (scheduleMachine.outputs streamingStart spread) =
        dispatchedPackets (streamMachine.outputs streamingStart (spread.filterMap received?)) := by
  obtain ⟨hgreedy, hpackets, hspread⟩ :=
    packets_greedy streamingStart (by decide +kernel) (by decide +kernel) (by decide +kernel)
  refine ⟨(hgreedy _).1, (hpackets _ ?_).1, hspread spread ?_ ?_ ?_⟩
  · intro packet hpacket
    rcases List.mem_pair.mp hpacket with rfl | rfl
    · exact ⟨_, _, rfl, by decide, rfl⟩
    · exact ⟨_, _, rfl, by decide, rfl⟩
  · decide +kernel
  · decide +kernel
  · decide +kernel

/-- A packet whose bytes from the pending part's end on all have bit 3 clear. -/
def Realigns (pending packet : List U8) : Prop :=
  ∀ b ∈ packet.drop (4 - pending.length), ¬ StartsPacket b

/-- With fewer than four bytes pending, a packet realigns when its three
movement bytes all have bit 3 clear. -/
theorem realigns_of_tail {pending packet : List U8} (hpending : pending.length < 4)
    (htail : ∀ b ∈ packet.tail, ¬ StartsPacket b) : Realigns pending packet := by
  intro b hb
  have hdrop : packet.drop (4 - pending.length) = packet.tail.drop (3 - pending.length) := by
    rw [← List.drop_one, List.drop_drop]
    congr 1
    omega
  rw [hdrop] at hb
  exact htail b (List.mem_of_mem_drop hb)

/-- From any pending part, every packet leads to one dispatch and the pending
part does not grow. The boundary is that of the packets exactly when it was
from the start or one of the packets has realigned it, as the first packet does
whose movement bytes all have bit 3 clear; from then on every packet is
dispatched as itself. -/
theorem realignment {m : Mouse} (hm : Streaming m) (packets : List (List U8))
    (hpackets : ∀ packet ∈ packets, WellFormed packet) :
    (dispatchedPackets (streamMachine.outputs m packets.flatten)).length = packets.length ∧
      (gathered (streamMachine.state m packets.flatten)).length ≤ (gathered m).length ∧
      (gathered (streamMachine.state m packets.flatten) = [] ↔
        gathered m = [] ∨ ∃ before packet after, packets = before ++ packet :: after ∧
          Realigns (gathered (streamMachine.state m before.flatten)) packet) ∧
      ((∃ packet ∈ packets, ∀ b ∈ packet.tail, ¬ StartsPacket b) →
        gathered (streamMachine.state m packets.flatten) = []) ∧
      ∀ later, (∀ packet ∈ later, WellFormed packet) →
        gathered (streamMachine.state m packets.flatten) = [] →
        dispatchedPackets (streamMachine.outputs (streamMachine.state m packets.flatten)
          later.flatten) = later := by
  have hlength : ∀ before : List (List U8), (∀ packet ∈ before, WellFormed packet) →
      (gathered (streamMachine.state m before.flatten)).length ≤ (gathered m).length := by
    intro before hbefore
    rw [(stream_frames hm before.flatten).2.1]
    exact (misaligned_run hbefore hm.gathered_length_le).2
  have haligned : gathered (streamMachine.state m packets.flatten) = [] ↔
      gathered m = [] ∨ ∃ before packet after, packets = before ++ packet :: after ∧
        Realigns (gathered (streamMachine.state m before.flatten)) packet := by
    have hiff := aligned_iff hpackets hm.gathered_length_le
    rw [(stream_frames hm packets.flatten).2.1]
    simp only [(stream_frames hm _).2.1, Realigns]
    exact hiff
  refine ⟨?_, hlength packets hpackets, haligned, ?_, ?_⟩
  · rw [(stream_frames hm packets.flatten).2.2]
    exact (misaligned_run hpackets hm.gathered_length_le).1
  · rintro ⟨packet, hpacket, htail⟩
    obtain ⟨before, after, rfl⟩ := List.append_of_mem hpacket
    have hbefore := hlength before fun p hp => hpackets p (List.mem_append_left _ hp)
    have hstart := hm.gathered_length_le
    exact haligned.mpr (Or.inr ⟨before, packet, after, rfl, realigns_of_tail (by omega) htail⟩)
  · intro later hlater hnil
    rw [(stream_frames (stream_frames hm packets.flatten).1 later.flatten).2.2, hnil]
    exact (frames_run hlater).1

/-- A packet in which every byte could be a header. -/
def everyByteStarts : List U8 := [0x08#8, 0x09#8, 0x0A#8, 0x0B#8]

theorem everyByteStarts_wellFormed : WellFormed everyByteStarts :=
  ⟨0x08#8, [0x09#8, 0x0A#8, 0x0B#8], rfl, by decide, rfl⟩

/-- The driver in stream mode, with one byte of a packet whose others were lost. -/
def afterLoss : Mouse := streamMachine.state msInit (targets.drop 1 ++ [0x08#8])

theorem afterLoss_streaming : Streaming afterLoss :=
  ⟨by decide +kernel, by decide +kernel, by decide +kernel⟩

/-- A packet without movement, and the packet behind it. -/
def stillPacket : List U8 := [0x08#8, 0x00#8, 0x00#8, 0x00#8]

theorem realignment_stillPacket :
    gathered (streamMachine.state afterLoss [everyByteStarts, stillPacket].flatten) = [] ∧
      dispatchedPackets (streamMachine.outputs
        (streamMachine.state afterLoss [everyByteStarts, stillPacket].flatten)
        [everyByteStarts].flatten) = [everyByteStarts] := by
  have hpackets : ∀ packet ∈ [everyByteStarts, stillPacket], WellFormed packet := by
    intro packet hpacket
    rcases List.mem_pair.mp hpacket with rfl | rfl
    · exact everyByteStarts_wellFormed
    · exact ⟨0x08#8, [0x00#8, 0x00#8, 0x00#8], rfl, by decide, rfl⟩
  obtain ⟨-, -, -, hstill, hlater⟩ :=
    realignment afterLoss_streaming [everyByteStarts, stillPacket] hpackets
  have hnil := hstill ⟨stillPacket, by decide, by decide⟩
  refine ⟨hnil, hlater [everyByteStarts] ?_ hnil⟩
  intro packet hpacket
  rw [List.mem_singleton.mp hpacket]
  exact everyByteStarts_wellFormed

/-- However often the packet comes, one byte stays pending. -/
theorem everyByteStarts_run (n : Nat) {part : List U8} (h : part = [0x08#8] ∨ part = [0x0B#8]) :
    packetFramer.state part (List.replicate n everyByteStarts).flatten = [0x08#8] ∨
      packetFramer.state part (List.replicate n everyByteStarts).flatten = [0x0B#8] := by
  induction n generalizing part with
  | zero => exact h
  | succ n ih =>
      rw [List.replicate_succ, List.flatten_cons, Machine.state_append]
      apply ih
      rcases h with rfl | rfl
      · exact Or.inr (by decide)
      · exact Or.inr (by decide)

/-- After every number of packets there may still be one that is not dispatched as itself. -/
theorem realignment_unbounded :
    ¬ ∃ bound, ∀ m, Streaming m → gathered m ≠ [] →
      ∀ packets, (∀ packet ∈ packets, WellFormed packet) →
      ∀ before packet after, packets = before ++ packet :: after → bound ≤ before.length →
        dispatchedPackets
          (streamMachine.outputs (streamMachine.state m before.flatten) packet) = [packet] := by
  rintro ⟨bound, h⟩
  have hpackets : ∀ packet ∈ List.replicate bound everyByteStarts ++ everyByteStarts :: [],
      WellFormed packet := by
    intro packet hpacket
    rw [← List.replicate_succ'] at hpacket
    rw [List.eq_of_mem_replicate hpacket]
    exact everyByteStarts_wellFormed
  have hdispatched := h afterLoss afterLoss_streaming (by decide +kernel) _ hpackets
    (List.replicate bound everyByteStarts) everyByteStarts [] rfl (by simp)
  have hframes := stream_frames afterLoss_streaming (List.replicate bound everyByteStarts).flatten
  have hstart : gathered afterLoss = [0x08#8] := by decide +kernel
  rw [(stream_frames hframes.1 everyByteStarts).2.2, hframes.2.1, hstart] at hdispatched
  rcases everyByteStarts_run bound (Or.inl rfl) with hpart | hpart
  · rw [hpart] at hdispatched
    exact absurd hdispatched (by decide)
  · rw [hpart] at hdispatched
    exact absurd hdispatched (by decide)

end DiyPs3Controller.PacketStream
