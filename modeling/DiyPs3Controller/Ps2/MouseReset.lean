import DiyPs3Controller.Ps2.Frames
import DiyPs3Controller.Ps2.FilterRuns

/-!
# What a mouse reset forgets

`MS_MouseReset` sends the reset command and restarts the filter, but it leaves
the queued bytes, the packet begun and the retry count as they are. Drivers that
carry the same of the three over the reset behave alike after it. Each of the
three shows in some schedule, so a driver that carries none of them behaves like
another one only when that one carries none either.
-/

namespace DiyPs3Controller.MouseReset

open RingBuffer Reception MouseDriver StartupSequence MouseSchedules FilterRuns

/-- The interrupts of the driver, the main loop's call and the calls from outside. -/
inductive Action
  | clock (pin : U8)
  | timer
  | task
  | mouseReset
  | setResolution (resolution : U8)
  | setFrequency (frequency : U8)
  | setScaling (scale : U8)
  deriving DecidableEq, Repr

def act (m : Mouse) : Action → Mouse
  | .clock pin => (msClockInterrupt m pin).1
  | .timer => msTimerInterrupt m
  | .task => (msEventTask m).1
  | .mouseReset => (msMouseReset m).1
  | .setResolution resolution => (msSetResolution m resolution).1
  | .setFrequency frequency => (msSetFrequency m frequency).1
  | .setScaling scale => (msSetScaling m scale).1

/-- A state that some run reaches from `MS_Init`. -/
def Reachable (m : Mouse) : Prop := ∃ actions : List Action, actions.foldl act msInit = m

/-- Nothing received earlier is left over: no byte is queued, no packet begun
and no retry counted. -/
def ResidueFree (m : Mouse) : Prop :=
  queued m = [] ∧ m.packet.size = 0#8 ∧ m.filter.retry = 0#8

instance (m : Mouse) : Decidable (ResidueFree m) := inferInstanceAs (Decidable (_ ∧ _))

/-- The command bytes and packets of a reset and a schedule after it. -/
def afterReset (m : Mouse) (schedule : List Schedule) : List MsCall :=
  observe ((msMouseReset m).2 ++ scheduleMachine.outputs (msMouseReset m).1 schedule)

/-- After a reset no schedule tells the two states apart. -/
def SameAfterReset (s t : Mouse) : Prop :=
  ∀ schedule, afterReset s schedule = afterReset t schedule

/-- What every reachable state satisfies. -/
structure Sane (m : Mouse) : Prop where
  table : m.filter.table = msStateTable
  size : m.filter.size = 52#8
  retry_le : m.filter.retry ≤ 5#8
  packet_lt : m.packet.size < 4#8
  length : m.packet.bytes.length = 4
  capacity : m.driver.ringbuffer.1.size = msBufsize

theorem eventFilter_sane {m : Mouse} (h : Sane m) (b : U8) : Sane (eventFilter m b).1 := by
  have hcapacity : (eventFilter m b).1.driver.ringbuffer.1.size = msBufsize := by
    rw [eventFilter_ringbuffer]
    exact h.capacity
  have hlength : (grown m b).bytes.length = 4 := by simpa [grown] using h.length
  have hstep := eventFilter_step m b
  generalize eventFilter m b = next at hstep hcapacity ⊢
  cases hstep with
  | skipped hp hk => exact h
  | dispatched hp hk hfull =>
      exact ⟨h.table, h.size, (by decide : 0#8 ≤ 5#8), (by decide : 0#8 < 4#8), hlength, hcapacity⟩
  | stored hp hk hfull =>
      have hlt : (grown m b).size < 4#8 := by
        have hold := h.packet_lt
        simp only [grown] at hfull ⊢
        bv_omega
      exact ⟨h.table, h.size, (by decide : 0#8 ≤ 5#8), hlt, hlength, hcapacity⟩
  | accepted hm =>
      exact ⟨h.table, h.size, h.retry_le, by simpa using h.packet_lt, by simpa using h.length,
        hcapacity⟩
  | retried hs hm hr =>
      have hle : m.filter.retry + 1#8 ≤ 5#8 := by bv_omega
      exact ⟨h.table, h.size, hle, h.packet_lt, h.length, hcapacity⟩
  | gaveUp hs hm hr =>
      exact ⟨h.table, h.size, (by decide : 0#8 ≤ 5#8), h.packet_lt, h.length, hcapacity⟩

theorem filterScancodes_sane (fuel : Nat) {m : Mouse} (h : Sane m) :
    Sane (filterScancodes fuel m).1 := by
  induction fuel generalizing m with
  | zero => exact h
  | succ fuel ih =>
      rw [filterScancodes]
      split
      · have htaken : Sane (getScancode m).1 :=
          ⟨h.table, h.size, h.retry_le, h.packet_lt, h.length,
            (Ring.getElement_size _).trans h.capacity⟩
        exact ih (eventFilter_sane htaken _)
      · exact h

theorem act_sane {m : Mouse} (h : Sane m) (action : Action) : Sane (act m action) := by
  have hreset : ∀ c : Config, Sane (resetState { m with config := c }).1 := fun _ =>
    ⟨h.table, h.size, h.retry_le, h.packet_lt, h.length, h.capacity⟩
  cases action with
  | clock pin =>
      refine ⟨h.table, h.size, h.retry_le, h.packet_lt, h.length, ?_⟩
      have hring := clockInterrupt_ringbuffer msDataBit m.driver pin
      simp only [act, msClockInterrupt]
      rcases hring with ⟨b, -, hadd⟩ | ⟨-, hsame⟩
      · rw [hadd, Ring.addElement_size]
        exact h.capacity
      · rw [hsame]
        exact h.capacity
  | timer =>
      simp only [act, msTimerInterrupt]
      split
      · exact ⟨h.table, h.size, h.retry_le, h.packet_lt, h.length, h.capacity⟩
      · exact h
  | task =>
      have hfiltered := filterScancodes_sane m.driver.ringbuffer.contents.length h
      simp only [act, msEventTask]
      split
      · exact ⟨hfiltered.table, hfiltered.size, hfiltered.retry_le, hfiltered.packet_lt,
          hfiltered.length, hfiltered.capacity⟩
      · exact hfiltered
  | mouseReset => exact hreset _
  | setResolution resolution => exact hreset _
  | setFrequency frequency => exact hreset _
  | setScaling scale => exact hreset _

theorem reachable_sane {m : Mouse} (h : Reachable m) : Sane m := by
  obtain ⟨actions, rfl⟩ := h
  have hinit : Sane msInit := ⟨rfl, rfl, by decide, by decide, rfl, rfl⟩
  exact List.foldlRecOn actions act hinit fun m hm action _ => act_sane hm action

/-- The state that a reset leaves behind. -/
theorem reset_sane {m : Mouse} (h : Sane m) : Sane (msMouseReset m).1 :=
  ⟨h.table, h.size, h.retry_le, h.packet_lt, h.length, h.capacity⟩

/-- Two states that carry the same over a reset. -/
structure SameResidue (s t : Mouse) : Prop where
  queue : queued s = queued t
  size : s.packet.size = t.packet.size
  bytes : s.packet.bytes.take s.packet.size.toNat = t.packet.bytes.take s.packet.size.toNat
  retry : s.filter.retry = t.filter.retry

theorem SameResidue.symm {s t : Mouse} (h : SameResidue s t) : SameResidue t s :=
  ⟨h.queue.symm, h.size.symm, h.size ▸ h.bytes.symm, h.retry.symm⟩

theorem sameResidue_of_residueFree {s t : Mouse} (hs : ResidueFree s) (ht : ResidueFree t) :
    SameResidue s t := by
  obtain ⟨hqs, hps, hrs⟩ := hs
  obtain ⟨hqt, hpt, hrt⟩ := ht
  exact ⟨hqs.trans hqt.symm, hps.trans hpt.symm, by simp [hps], hrs.trans hrt.symm⟩

/-- No schedule tells two states apart that carry the same over the reset. -/
theorem sameAfterReset_of_sameResidue {s t : Mouse} (hs : Sane s) (ht : Sane t)
    (h : SameResidue s t) : SameAfterReset s t := by
  have hfilter : (msMouseReset s).1.filter = (msMouseReset t).1.filter := by
    rw [FilterVars.mk.injEq]
    exact ⟨rfl, h.retry, hs.size.trans ht.size.symm, hs.table.trans ht.table.symm⟩
  have halike : Alike (msMouseReset s).1 (msMouseReset t).1 :=
    ⟨hfilter, rfl, h.size, h.bytes, (reset_sane hs).packet_lt, hs.length, ht.length⟩
  have hlike : AlikeQueued (msMouseReset s).1 (msMouseReset t).1 :=
    ⟨halike, h.queue, hs.capacity.trans ht.capacity.symm⟩
  intro schedule
  simp only [afterReset, observe_append]
  exact congrArg _ (alikeQueued_run hlike schedule)

section Residue
variable {s t : Mouse} (hs : Sane s) (ht : Sane t) (hft : ResidueFree t)
  (hsame : SameAfterReset s t)
include hs

theorem reset_atState : AtState (msMouseReset s).1 0#8 := ⟨hs.table, hs.size, rfl⟩

theorem reset_alike : Alike (msMouseReset s).1 (msMouseReset s).1 :=
  ⟨rfl, rfl, rfl, rfl, hs.packet_lt, hs.length, hs.length⟩

/-- What a reset and fed bytes show is what the filter shows for the queued
bytes and then the fed ones. -/
theorem reset_shown (bytes : List U8) :
    afterReset s (.task :: feed bytes) =
      .sendByte 0xFF#8 :: shown (msMouseReset s).1 (queued s ++ bytes) := by
  have hroom : (msMouseReset s).1.driver.ringbuffer.1.size ≠ 0#8 := by
    rw [(reset_sane hs).capacity]
    decide
  rw [afterReset, observe_append, drained_run _ bytes (reset_alike hs) hroom]
  rfl

theorem queued_length : (queued s).length ≤ 2 := by
  have hle := s.driver.ringbuffer.2.elements_le_size
  rw [hs.capacity] at hle
  rw [queued, Ring.contents, RingBuff.contents_length]
  exact hle

include ht hft hsame

/-- After the reset the filter shows for the queued and the fed bytes what it
shows without residue for the fed bytes alone. -/
theorem shown_eq (bytes : List U8) :
    shown (msMouseReset s).1 (queued s ++ bytes) = shown (msMouseReset t).1 bytes := by
  have h := hsame (.task :: feed bytes)
  rw [reset_shown hs, reset_shown ht, hft.1, List.nil_append] at h
  exact (List.cons.inj h).2

/-- Queued bytes do not stay hidden. -/
theorem queue_shows : queued s = [] := by
  by_contra hq
  have hlen : (queued s).length ≤ 2 := queued_length hs
  obtain ⟨hack, hcommand⟩ := first_rows (reset_atState ht)
  have hsilent := shown_eq hs ht hft hsame [0xFA#8]
  rw [hack] at hsilent
  have hgiven := silent_queue (reset_atState hs) hq hlen hsilent
  have hlast := shown_eq hs ht hft hsame [0xFA#8, 0xAA#8, 0x00#8]
  have hsplit : queued s ++ [0xFA#8, 0xAA#8, 0x00#8] =
      (queued s ++ [0xFA#8]) ++ [0xAA#8, 0x00#8] := by simp
  rw [hcommand, hsplit, shown_append, hsilent, List.nil_append] at hlast
  exact (givenUp_run [0xAA#8, 0x00#8] hgiven).2 0xFF#8 (hlast ▸ List.mem_cons_self)

/-- With nothing queued the two filters show the same from the reset on. -/
theorem fed_eq (bytes : List U8) :
    shown (msMouseReset s).1 bytes = shown (msMouseReset t).1 bytes := by
  have h := shown_eq hs ht hft hsame bytes
  rwa [queue_shows hs ht hft hsame, List.nil_append] at h

/-- A packet that is begun does not stay hidden. -/
theorem packet_shows : s.packet.size = 0#8 := by
  by_contra hbegun
  have hlt := hs.packet_lt
  obtain ⟨n, hn⟩ : ∃ n, s.packet.size.toNat + n = 3 := ⟨3 - s.packet.size.toNat, by bv_omega⟩
  have hpos : 0 < s.packet.size.toNat := by bv_omega
  have heq := fed_eq hs ht hft hsame (targets.take rows ++ List.replicate (n + 1) packetByte)
  obtain ⟨hsrow, hspacket, -⟩ := startup_run rows le_rfl (reset_atState hs)
  obtain ⟨htrow, htpacket, htquiet⟩ := startup_run rows le_rfl (reset_atState ht)
  have htsize : (after (msMouseReset t).1 (targets.take rows)).packet.size = 0#8 :=
    (congrArg Packet.size htpacket).trans hft.2.1
  have hssize : (after (msMouseReset s).1 (targets.take rows)).packet.size = s.packet.size :=
    congrArg Packet.size hspacket
  have htnone : NoPacket (shown (msMouseReset t).1
      (targets.take rows ++ List.replicate (n + 1) packetByte)) := by
    obtain ⟨hgathered, -, -⟩ := gather_run (n + 1) htrow (by rw [htsize]; simp; omega)
    rw [shown_append, hgathered, List.append_nil]
    exact htquiet
  obtain ⟨-, hslast, hscount⟩ := gather_run n hsrow (by rw [hssize]; omega)
  have hfull : (after (after (msMouseReset s).1 (targets.take rows))
      (List.replicate n packetByte)).packet.size + 1#8 = 4#8 := by
    rw [hssize] at hscount
    bv_omega
  refine gather_last hslast hfull fun packet hmem => htnone packet ?_
  rw [← heq, List.replicate_succ', shown_append, shown_append]
  refine List.mem_append_right _ (List.mem_append_right _ ?_)
  rw [shown_cons]
  exact List.mem_append_left _ hmem

/-- Counted retries do not stay hidden. -/
theorem retry_shows : s.filter.retry = 0#8 := by
  by_contra hcounted
  have hle := hs.retry_le
  obtain ⟨n, hn⟩ : ∃ n, s.filter.retry.toNat + n = 5 := ⟨5 - s.filter.retry.toNat, by bv_omega⟩
  have hpos : 0 < s.filter.retry.toNat := by bv_omega
  have heq := fed_eq hs ht hft hsame (List.replicate (n + 1) wrongByte)
  have htretry : (msMouseReset t).1.filter.retry.toNat = 0 := congrArg BitVec.toNat hft.2.2
  obtain ⟨htshown, -, -⟩ := wrong_run (n + 1) (reset_atState ht) (by omega)
  obtain ⟨hsshown, hsstate, hsretry⟩ := wrong_run n (reset_atState hs) (le_of_eq hn)
  have hspent : ¬ (after (msMouseReset s).1 (List.replicate n wrongByte)).filter.retry < 5#8 := by
    have hfive : (after (msMouseReset s).1 (List.replicate n wrongByte)).filter.retry.toNat = 5 :=
      hsretry.trans hn
    bv_omega
  rw [htshown, List.replicate_succ', shown_append, hsshown, shown_cons, shown_nil,
    wrong_last hsstate hspent] at heq
  simpa using congrArg List.length heq

end Residue

/-- A state that nothing tells apart from one with nothing left over has nothing left over. -/
theorem residueFree_of_sameAfterReset {s t : Mouse} (hs : Sane s) (ht : Sane t)
    (hft : ResidueFree t) (hsame : SameAfterReset s t) : ResidueFree s :=
  ⟨queue_shows hs ht hft hsame, packet_shows hs ht hft hsame, retry_shows hs ht hft hsame⟩

/-- Any two reachable states with the same settings that carry the same over a
reset behave alike after it; when one of them carries nothing, they behave alike
only then. -/
theorem reset_forgets_iff {s t : Mouse} (hreach : Reachable s) (hreach' : Reachable t)
    (_ : s.config = t.config) :
    (SameResidue s t → SameAfterReset s t) ∧
      (ResidueFree s ∨ ResidueFree t → (SameAfterReset s t ↔ SameResidue s t)) := by
  have hs := reachable_sane hreach
  have ht := reachable_sane hreach'
  refine ⟨sameAfterReset_of_sameResidue hs ht, fun hfree => ?_⟩
  refine ⟨fun hsame => ?_, sameAfterReset_of_sameResidue hs ht⟩
  rcases hfree with hfs | hft
  · have hsame' : SameAfterReset t s := fun schedule => (hsame schedule).symm
    exact sameResidue_of_residueFree hfs (residueFree_of_sameAfterReset ht hs hfs hsame')
  · exact sameResidue_of_residueFree (residueFree_of_sameAfterReset hs ht hft hsame) hft

/-- A change of the sample rate that a reset has undone leaves nothing over. -/
theorem reset_forgets_iff_setFrequency :
    SameAfterReset ([.setFrequency 40#8, .mouseReset].foldl act msInit) msInit :=
  (reset_forgets_iff ⟨[.setFrequency 40#8, .mouseReset], rfl⟩ ⟨[], rfl⟩ (by decide)).1
    (sameResidue_of_residueFree (by decide) (by decide))

/-- A byte comes in and no main loop has taken it when the reset comes. -/
def byteWaiting : List Action :=
  (Frames.framePins msDataBit wrongByte).map .clock

/-- A byte that waits at the reset is answered after it with another reset. -/
theorem byteWaiting_not_forgotten :
    ¬ ∀ s t, Reachable s → Reachable t → s.config = t.config → SameAfterReset s t := by
  intro h
  have hsame := h _ msInit ⟨byteWaiting, rfl⟩ ⟨[], rfl⟩ (by decide) [.task]
  revert hsame
  decide

end DiyPs3Controller.MouseReset
