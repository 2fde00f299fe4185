import DiyPs3Controller.Foundations.Progress
import DiyPs3Controller.SixpairEmu.Emulator

/-!
# The data stage of a control transfer to the host

`Endpoint_Write_Control_Stream_LE` of the USB library, one poll of the endpoint
registers at a time, and the host on the other side of the endpoint. However
the two take turns, the host gets the bytes of the reply in order, no more than it
asked for and all of them unless it ends the data stage early, and both sides see
the end of the transfer.
-/

namespace DiyPs3Controller.SixpairEmu

open Buffers

/-- `FIXED_CONTROL_ENDPOINT_SIZE` -/
def controlEndpointSize : Nat := 64

/-- What a round of the function's loops reads of the endpoint and the device state. -/
structure Registers where
  setupReceived : Bool
  outReceived : Bool
  unattached : Bool
  inReady : Bool
  deriving DecidableEq, Repr

/-- The values of `Endpoint_ControlStream_RW_ErrorCodes_t` that the function returns. -/
inductive StreamResult
  | noError
  | hostAborted
  | deviceDisconnected
  deriving DecidableEq, Repr

/-- Where the function is: in its first loop with the bytes still to write and
`LastPacketFull`, in its second loop, or behind its return. -/
inductive Stream
  | writing (data : InData) (lastPacketFull : Bool)
  | waiting
  | returned (result : StreamResult)
  deriving DecidableEq, Repr

/-- The condition of the first loop. -/
def Stream.next (data : InData) (lastPacketFull : Bool) : Stream :=
  if data ≠ [] ∨ lastPacketFull then .writing data lastPacketFull else .waiting

/-- The function up to its first loop, with the packet that it may release. -/
def beginStream (buf : List (Option U8)) (length wLength : U16) : Stream × Option InData :=
  if wLength < length then (.next (firstCells buf wLength.toNat) false, none)
  else if length = 0#16 then (.next [] false, some [])
  else (.next (firstCells buf length.toNat) false, none)

/-- One round of the loops, with the packet that it may release; the bank is
empty whenever the endpoint is ready. -/
def pollStream (regs : Registers) : Stream → Stream × Option InData
  | .writing data lastPacketFull =>
      if regs.setupReceived then (.returned .hostAborted, none)
      else if regs.outReceived then (.waiting, none)
      else if regs.unattached then (.returned .deviceDisconnected, none)
      else if regs.inReady then
        let packet := data.take controlEndpointSize
        (.next (data.drop controlEndpointSize) (packet.length = controlEndpointSize), some packet)
      else (.writing data lastPacketFull, none)
  | .waiting =>
      if regs.outReceived then (.returned .noError, none)
      else if regs.unattached then (.returned .deviceDisconnected, none)
      else (.waiting, none)
  | .returned result => (.returned result, none)

/-- The function, the endpoint and the host in the data stage of a transfer. -/
structure Transfer where
  stream : Stream
  bank : Option InData
  setupReceived : Bool
  outReceived : Bool
  unattached : Bool
  received : InData
  ended : Bool
  deriving DecidableEq, Repr

/-- The function polls its registers; the host takes a packet, begins the status stage
behind the data stage or at any other time, begins another transfer, or is gone. -/
inductive TransferInput
  | poll
  | takePacket
  | sendStatus
  | endEarly
  | newRequest
  | detach
  deriving DecidableEq, Repr

/-- The registers, as the endpoint and the host have left them. -/
def Transfer.registers (s : Transfer) : Registers where
  setupReceived := s.setupReceived
  outReceived := s.outReceived
  unattached := s.unattached
  inReady := s.bank.isNone

/-- Nothing has interrupted the transfer. -/
def Transfer.Undisturbed (s : Transfer) : Prop := s.setupReceived = false ∧ s.unattached = false

instance (s : Transfer) : Decidable s.Undisturbed := inferInstanceAs (Decidable (_ ∧ _))

/-- The data stage ends with a short packet or with the last byte asked for. The host
takes no packet behind that, or once it has begun the status stage. -/
def transferMachine (wLength : U16) : Machine Transfer TransferInput Empty where
  step s
    | .poll =>
        let polled := pollStream s.registers s.stream
        ({ s with stream := polled.1, bank := polled.2.or s.bank }, [])
    | .takePacket =>
        match s.bank with
        | some packet =>
            if s.Undisturbed ∧ s.ended = false ∧ s.outReceived = false then
              ({ s with
                  bank := none
                  received := s.received ++ packet
                  ended := packet.length < controlEndpointSize ∨
                    wLength.toNat ≤ (s.received ++ packet).length }, [])
            else (s, [])
        | none => (s, [])
    | .sendStatus => ({ s with outReceived := s.outReceived || s.ended }, [])
    | .endEarly => ({ s with outReceived := true }, [])
    | .newRequest => ({ s with setupReceived := true }, [])
    | .detach => ({ s with unattached := true }, [])

/-- The transfer when the function is called. -/
def Transfer.start (buf : List (Option U8)) (length wLength : U16) : Transfer where
  stream := (beginStream buf length wLength).1
  bank := (beginStream buf length wLength).2
  setupReceived := false
  outReceived := false
  unattached := false
  received := []
  ended := false

/-- The bytes that the function has not written yet. -/
def Stream.rest : Stream → InData
  | .writing data _ => data
  | _ => []

/-- The function has returned early. -/
def Stream.Failed (stream : Stream) : Prop :=
  stream = .returned .hostAborted ∨ stream = .returned .deviceDisconnected

/-- The host has begun the status stage before the end of the data stage. -/
def Transfer.Early (s : Transfer) : Prop := s.outReceived = true ∧ s.ended = false

/-- What holds between the function, the endpoint and the host. -/
structure Carried (data : InData) (wLength : U16) (s : Transfer) : Prop where
  sound : s.received ++ s.bank.getD [] <+: data
  writing : ∀ rest lastPacketFull, s.stream = .writing rest lastPacketFull →
    s.received ++ s.bank.getD [] ++ rest = data
  whole : ¬ s.stream.Failed → ¬ s.Early → s.received ++ s.bank.getD [] ++ s.stream.rest = data
  ended : s.ended = true → s.received = data
  last : ∀ packet, s.bank = some packet → packet.length < controlEndpointSize →
    s.stream.rest = []
  short : s.stream = .waiting → s.ended = false → s.outReceived = false →
    ∃ packet, s.bank = some packet ∧ packet.length < controlEndpointSize
  success : s.stream = .returned .noError → s.outReceived = true
  aborted : s.stream = .returned .hostAborted → s.setupReceived = true
  disconnected : s.stream = .returned .deviceDisconnected → s.unattached = true

/-- The rounds of the function's loops that are left, if nothing is in the way. -/
def Stream.polls : Stream → Nat
  | .writing data _ => data.length / controlEndpointSize + 2
  | .waiting => 1
  | .returned _ => 0

/-- How far the two are from the end of the transfer. -/
def Transfer.distance (s : Transfer) : Nat :=
  2 * s.stream.polls + (if s.bank.isSome then 1 else 0) + (if s.ended then 0 else 1) +
    (if s.outReceived then 0 else 1)

section Next
variable (data : InData) (lastPacketFull : Bool)

theorem Stream.next_cases :
    Stream.next data lastPacketFull = .writing data lastPacketFull ∨
      Stream.next data lastPacketFull = .waiting ∧ data = [] ∧ lastPacketFull = false := by
  by_cases h : data ≠ [] ∨ lastPacketFull
  · exact Or.inl (if_pos h)
  · obtain ⟨hdata, hfull⟩ := not_or.mp h
    exact Or.inr ⟨if_neg h, not_not.mp hdata, Bool.eq_false_iff.mpr hfull⟩

@[simp] theorem Stream.next_rest : (Stream.next data lastPacketFull).rest = data := by
  rcases Stream.next_cases data lastPacketFull with h | ⟨h, hdata, -⟩
  · rw [h]; rfl
  · rw [h, hdata]; rfl

theorem Stream.next_ne_returned (result : StreamResult) :
    Stream.next data lastPacketFull ≠ .returned result := by
  rcases Stream.next_cases data lastPacketFull with h | ⟨h, -⟩ <;> rw [h] <;> simp

end Next

/-- What a round of the loops can do. -/
inductive PollStep (regs : Registers) : Stream → Stream × Option InData → Prop
  | aborted {data lastPacketFull} (hsetup : regs.setupReceived = true) :
      PollStep regs (.writing data lastPacketFull) (.returned .hostAborted, none)
  | stopped {data lastPacketFull} (hout : regs.outReceived = true) :
      PollStep regs (.writing data lastPacketFull) (.waiting, none)
  | detached {data lastPacketFull} (hunattached : regs.unattached = true) :
      PollStep regs (.writing data lastPacketFull) (.returned .deviceDisconnected, none)
  | released {data lastPacketFull} (hready : regs.inReady = true)
      (hout : regs.outReceived = false) :
      PollStep regs (.writing data lastPacketFull)
        (.next (data.drop controlEndpointSize)
          ((data.take controlEndpointSize).length = controlEndpointSize),
          some (data.take controlEndpointSize))
  | full {data lastPacketFull} (hready : regs.inReady = false)
      (hout : regs.outReceived = false) :
      PollStep regs (.writing data lastPacketFull) (.writing data lastPacketFull, none)
  | finished (hout : regs.outReceived = true) : PollStep regs .waiting (.returned .noError, none)
  | gone (hunattached : regs.unattached = true) :
      PollStep regs .waiting (.returned .deviceDisconnected, none)
  | idle (hout : regs.outReceived = false) : PollStep regs .waiting (.waiting, none)
  | returned {result} : PollStep regs (.returned result) (.returned result, none)

/-- Every round does one of these. -/
theorem pollStream_step (regs : Registers) (stream : Stream) :
    PollStep regs stream (pollStream regs stream) := by
  cases stream with
  | writing data lastPacketFull =>
      simp only [pollStream]
      split_ifs with hsetup hout hunattached hready
      · exact .aborted hsetup
      · exact .stopped hout
      · exact .detached hunattached
      · exact .released hready (Bool.eq_false_iff.mpr hout)
      · exact .full (Bool.eq_false_iff.mpr hready) (Bool.eq_false_iff.mpr hout)
  | waiting =>
      simp only [pollStream]
      split_ifs with hout hunattached
      · exact .finished hout
      · exact .gone hunattached
      · exact .idle (Bool.eq_false_iff.mpr hout)
  | returned result => exact .returned

section Keeps
variable {data : InData} {wLength : U16} {s : Transfer} (h : Carried data wLength s)
include h

/-- The function leaves its first loop, or goes on behind it. -/
theorem Carried.moved (stream : Stream) (hleft : ∀ rest full, stream ≠ .writing rest full)
    (hwhole : ¬ stream.Failed → ¬ s.Early →
      s.received ++ s.bank.getD [] ++ stream.rest = data)
    (hlast : stream.rest = s.stream.rest ∨ stream.rest = [])
    (hwaiting : stream = .waiting → s.stream = .waiting ∨ s.outReceived = true)
    (hsuccess : stream = .returned .noError → s.outReceived = true)
    (haborted : stream = .returned .hostAborted → s.setupReceived = true)
    (hdisconnected : stream = .returned .deviceDisconnected → s.unattached = true) :
    Carried data wLength { s with stream := stream } := by
  refine ⟨h.sound, fun rest full hwriting => absurd hwriting (hleft rest full), hwhole, h.ended,
    ?_, ?_, hsuccess, haborted, hdisconnected⟩
  · intro packet hbank hshort
    rcases hlast with hsame | hnil
    · exact hsame.trans (h.last packet hbank hshort)
    · exact hnil
  · intro hnow hopen hsilent
    rcases hwaiting hnow with hwas | hout
    · exact h.short hwas hopen hsilent
    · exact absurd (hout.symm.trans hsilent) (by decide)

/-- A host that has all of the reply has it from the endpoint. -/
theorem Carried.nothing_left (hended : s.ended = true) (hfailed : ¬ s.stream.Failed) :
    s.bank.getD [] = [] ∧ s.stream.rest = [] := by
  have hwhole := h.whole hfailed fun hearly => absurd (hended.symm.trans hearly.2) (by decide)
  rw [h.ended hended, List.append_assoc] at hwhole
  exact List.append_eq_nil_iff.mp (List.append_right_eq_self.mp hwhole)

end Keeps

theorem carried_poll {data : InData} {wLength : U16} {s : Transfer}
    (h : Carried data wLength s) :
    Carried data wLength ((transferMachine wLength).step s .poll).1 := by
  obtain ⟨stream, bank, setupReceived, outReceived, unattached, received, ended⟩ := s
  have hstep := pollStream_step (Transfer.registers
    ⟨stream, bank, setupReceived, outReceived, unattached, received, ended⟩) stream
  simp only [transferMachine]
  generalize pollStream _ stream = polled at hstep ⊢
  cases hstep with
  | aborted hsetup =>
      exact h.moved _ (by simp) (fun hf => absurd (Or.inl rfl) hf) (Or.inr rfl) (by simp)
        (by simp) (fun _ => hsetup) (by simp)
  | stopped hout =>
      refine h.moved _ (by simp) (fun _ hearly => ?_) (Or.inr rfl) (fun _ => Or.inr hout)
        (by simp) (by simp) (by simp)
      -- a host that has begun the status stage behind its data stage has all of it
      have hended : ended = true := by
        by_contra hopen
        exact hearly ⟨hout, Bool.eq_false_iff.mpr hopen⟩
      have hnothing := h.nothing_left hended (by simp [Stream.Failed])
      have hbank : bank.getD [] = [] := hnothing.1
      have hreceived : received = data := h.ended hended
      rw [hbank, hreceived, List.append_nil]
      exact List.append_nil data
  | detached hunattached =>
      exact h.moved _ (by simp) (fun hf => absurd (Or.inr rfl) hf) (Or.inr rfl) (by simp)
        (by simp) (by simp) (fun _ => hunattached)
  | @released rest lastPacketFull hready hout =>
      obtain rfl : bank = none := Option.isNone_iff_eq_none.mp hready
      have hwhole : received ++ [] ++ rest = data := h.writing rest lastPacketFull rfl
      rw [List.append_nil] at hwhole
      have hsplit : received ++ rest.take controlEndpointSize ++ rest.drop controlEndpointSize =
          data := by
        rw [List.append_assoc, List.take_append_drop, hwhole]
      refine ⟨⟨_, hsplit⟩, ?_, ?_, h.ended, ?_, ?_, ?_, ?_, ?_⟩
      · intro rest' full hwriting
        have hrest := congrArg Stream.rest hwriting
        rw [Stream.next_rest] at hrest
        exact hrest ▸ hsplit
      · intro _ _
        rw [Stream.next_rest]
        exact hsplit
      · intro packet hbank hshort
        obtain rfl := Option.some.inj hbank
        rw [Stream.next_rest]
        apply List.drop_eq_nil_of_le
        rw [List.length_take] at hshort
        omega
      · intro hwaiting _ _
        refine ⟨_, rfl, ?_⟩
        rcases Stream.next_cases (rest.drop controlEndpointSize)
          ((rest.take controlEndpointSize).length = controlEndpointSize) with hnext | hnext
        · exact absurd (hnext.symm.trans hwaiting) (by simp)
        · have hne := of_decide_eq_false hnext.2.2
          rw [List.length_take] at hne ⊢
          omega
      · exact fun hnext => absurd hnext (Stream.next_ne_returned _ _ _)
      · exact fun hnext => absurd hnext (Stream.next_ne_returned _ _ _)
      · exact fun hnext => absurd hnext (Stream.next_ne_returned _ _ _)
  | full hready hout => exact h
  | finished hout =>
      refine h.moved _ (by simp) (fun _ hearly => ?_) (Or.inl rfl) (by simp) (fun _ => hout)
        (by simp) (by simp)
      exact h.whole (by simp [Stream.Failed]) hearly
  | gone hunattached =>
      exact h.moved _ (by simp) (fun hf => absurd (Or.inr rfl) hf) (Or.inl rfl) (by simp)
        (by simp) (by simp) (fun _ => hunattached)
  | idle hout => exact h
  | returned => exact h

/-- A host that takes the packet has the end of the reply when it sees one. -/
theorem carried_takePacket {data : InData} {wLength : U16} {s : Transfer}
    (hdata : data.length ≤ wLength.toNat) (h : Carried data wLength s) :
    Carried data wLength ((transferMachine wLength).step s .takePacket).1 := by
  obtain ⟨stream, bank, setupReceived, outReceived, unattached, received, ended⟩ := s
  cases bank with
  | none => exact h
  | some packet =>
      simp only [transferMachine]
      split_ifs with htakes
      · obtain ⟨⟨hsetup, hattached⟩, hopen, hsilent⟩ := htakes
        have hsilent' : ¬ outReceived = true := Bool.eq_false_iff.mp hsilent
        have hgoing : ¬ stream.Failed := by
          rintro (hfailed | hfailed)
          · exact absurd (hsetup.symm.trans (h.aborted hfailed)) (by decide)
          · exact absurd (hattached.symm.trans (h.disconnected hfailed)) (by decide)
        have hwhole : received ++ packet ++ stream.rest = data :=
          h.whole hgoing fun hearly => hsilent' hearly.1
        have hnow : received ++ packet ++ [] = received ++ packet := List.append_nil _
        refine ⟨⟨stream.rest, ?_⟩, ?_, ?_, ?_, by simp, ?_,
          fun hsuccess => absurd (h.success hsuccess) hsilent', h.aborted, h.disconnected⟩
        · exact (congrArg (· ++ stream.rest) hnow).trans hwhole
        · intro rest full hwriting
          exact (congrArg (· ++ rest) hnow).trans (h.writing rest full hwriting)
        · intro _ _
          exact (congrArg (· ++ stream.rest) hnow).trans hwhole
        · intro hended
          have hrest : stream.rest = [] := by
            rcases of_decide_eq_true hended with hshort | hall
            · exact h.last packet rfl hshort
            · apply List.eq_nil_of_length_eq_zero
              have hlength := congrArg List.length hwhole
              rw [List.length_append] at hlength
              omega
          rw [hrest, List.append_nil] at hwhole
          exact hwhole
        · intro hwaiting hstill _
          obtain ⟨short, hbank, hshort⟩ := h.short hwaiting hopen hsilent
          obtain rfl := Option.some.inj hbank
          exact absurd (Or.inl hshort) (of_decide_eq_false hstill)
      · exact h

/-- Every input keeps what holds between the two. -/
theorem carried_step {data : InData} {wLength : U16} (hdata : data.length ≤ wLength.toNat)
    (s : Transfer) (input : TransferInput) (h : Carried data wLength s) :
    Carried data wLength ((transferMachine wLength).step s input).1 := by
  cases input with
  | poll => exact carried_poll h
  | takePacket => exact carried_takePacket hdata h
  | sendStatus =>
      refine ⟨h.sound, h.writing, fun hgoing hearly => ?_, h.ended, h.last,
        fun hwaiting hopen hsilent => ?_, fun hsuccess => ?_, h.aborted, h.disconnected⟩
      · exact h.whole hgoing fun hwas => hearly ⟨Bool.or_eq_true_iff.mpr (Or.inl hwas.1), hwas.2⟩
      · exact h.short hwaiting hopen (Bool.or_eq_false_iff.mp hsilent).1
      · exact Bool.or_eq_true_iff.mpr (Or.inl (h.success hsuccess))
  | endEarly =>
      refine ⟨h.sound, h.writing, fun hgoing hearly => ?_, h.ended, h.last,
        fun _ _ hsilent => Bool.noConfusion hsilent, fun _ => rfl, h.aborted,
        h.disconnected⟩
      exact h.whole hgoing fun hwas => hearly ⟨rfl, hwas.2⟩
  | newRequest =>
      exact ⟨h.sound, h.writing, h.whole, h.ended, h.last, h.short, h.success, fun _ => rfl,
        h.disconnected⟩
  | detach =>
      exact ⟨h.sound, h.writing, h.whole, h.ended, h.last, h.short, h.success, h.aborted,
        fun _ => rfl⟩

/-- The inputs that belong to the transfer. -/
def Proceeds (input : TransferInput) : Prop := input ≠ .newRequest ∧ input ≠ .detach

/-- The inputs that a transfer needs. -/
def transferTurns : List TransferInput := [.poll, .takePacket, .sendStatus]

/-- What holds in a transfer that goes on. -/
def Proceeding (data : InData) (wLength : U16) (s : Transfer) : Prop :=
  Carried data wLength s ∧ s.Undisturbed

/-- A released packet is one poll less. -/
theorem Stream.polls_released (data : InData) (lastPacketFull : Bool) :
    (Stream.next (data.drop controlEndpointSize)
        ((data.take controlEndpointSize).length = controlEndpointSize)).polls + 1 ≤
      (Stream.writing data lastPacketFull).polls := by
  rcases Stream.next_cases (data.drop controlEndpointSize)
    ((data.take controlEndpointSize).length = controlEndpointSize) with h | ⟨h, -, -⟩
  · have hlong : controlEndpointSize ≤ data.length := by
      by_contra hshort
      have hdrop : data.drop controlEndpointSize = [] := by
        apply List.drop_eq_nil_of_le
        omega
      have hne : ¬ (data.take controlEndpointSize).length = controlEndpointSize := by
        rw [List.length_take]
        omega
      rw [hdrop, decide_eq_false hne] at h
      exact absurd h (by simp [Stream.next])
    rw [h]
    simp only [Stream.polls, List.length_drop, controlEndpointSize] at hlong ⊢
    omega
  · rw [h]
    exact Nat.succ_le_succ (Nat.succ_le_succ (Nat.zero_le _))

section Distance
variable {data : InData} {wLength : U16} {s : Transfer}

/-- The function moves without a packet: one of its polls is done. -/
theorem distance_moved {t : Transfer} (hbank : t.bank = s.bank) (hended : t.ended = s.ended)
    (hout : t.outReceived = s.outReceived) (h : t.stream.polls < s.stream.polls) :
    t.distance < s.distance := by
  simp only [Transfer.distance, hbank, hended, hout]
  omega

/-- A poll changes nothing or brings the end nearer. -/
theorem poll_lowers : ((transferMachine wLength).step s .poll).1 = s ∨
    ((transferMachine wLength).step s .poll).1.distance < s.distance := by
  obtain ⟨stream, bank, setupReceived, outReceived, unattached, received, ended⟩ := s
  have hstep := pollStream_step (Transfer.registers
    ⟨stream, bank, setupReceived, outReceived, unattached, received, ended⟩) stream
  simp only [transferMachine]
  generalize pollStream _ stream = polled at hstep ⊢
  cases hstep with
  | aborted | stopped | detached =>
      exact Or.inr (distance_moved rfl rfl rfl (by simp [Stream.polls]))
  | @released rest lastPacketFull hready =>
      obtain rfl : bank = none := Option.isNone_iff_eq_none.mp hready
      have hpolls := Stream.polls_released rest lastPacketFull
      right
      simp only [Transfer.distance, Option.some_or, Option.isSome_some, Option.isSome_none,
        if_true, Bool.false_eq_true, if_false]
      omega
  | finished | gone =>
      exact Or.inr (distance_moved rfl rfl rfl (by simp [Stream.polls]))
  | full | idle | returned => exact Or.inl rfl

theorem takePacket_lowers : ((transferMachine wLength).step s .takePacket).1 = s ∨
    ((transferMachine wLength).step s .takePacket).1.distance < s.distance := by
  obtain ⟨stream, bank, setupReceived, outReceived, unattached, received, ended⟩ := s
  cases bank with
  | none => exact Or.inl rfl
  | some packet =>
      simp only [transferMachine]
      split_ifs with htakes
      · right
        obtain ⟨-, hopen, -⟩ := htakes
        obtain rfl : ended = false := hopen
        simp only [Transfer.distance, Option.isSome_some, Option.isSome_none, if_true,
          Bool.false_eq_true, if_false]
        split_ifs <;> omega
      · exact Or.inl rfl

theorem sendStatus_lowers : ((transferMachine wLength).step s .sendStatus).1 = s ∨
    ((transferMachine wLength).step s .sendStatus).1.distance < s.distance := by
  obtain ⟨stream, bank, setupReceived, outReceived, unattached, received, ended⟩ := s
  cases outReceived with
  | true => exact Or.inl rfl
  | false =>
      cases ended with
      | false => exact Or.inl rfl
      | true =>
          right
          simp [transferMachine, Transfer.distance]

theorem endEarly_lowers : ((transferMachine wLength).step s .endEarly).1 = s ∨
    ((transferMachine wLength).step s .endEarly).1.distance < s.distance := by
  obtain ⟨stream, bank, setupReceived, outReceived, unattached, received, ended⟩ := s
  cases outReceived with
  | true => exact Or.inl rfl
  | false =>
      right
      simp [transferMachine, Transfer.distance]

end Distance

section Helps
variable {data : InData} {wLength : U16} {s : Transfer}

/-- The host takes a packet of a transfer that goes on. -/
theorem takePacket_helps (hgoing : s.Undisturbed) (hopen : s.ended = false)
    (hsilent : s.outReceived = false) {packet : InData} (hbank : s.bank = some packet) :
    ((transferMachine wLength).step s .takePacket).1.distance < s.distance := by
  apply takePacket_lowers.resolve_left
  intro hsame
  have hempty := congrArg Transfer.bank hsame
  simp [transferMachine, hbank, hgoing, hopen, hsilent] at hempty

theorem sendStatus_helps (hended : s.ended = true) (hout : s.outReceived = false) :
    ((transferMachine wLength).step s .sendStatus).1.distance < s.distance := by
  apply sendStatus_lowers.resolve_left
  intro hsame
  have hnow := congrArg Transfer.outReceived hsame
  simp [transferMachine, hended, hout] at hnow

/-- A function that has something to do leaves its place. -/
theorem poll_helps (h : ((transferMachine wLength).step s .poll).1 ≠ s) :
    ((transferMachine wLength).step s .poll).1.distance < s.distance :=
  poll_lowers.resolve_left h

/-- A function that has not returned notices the status stage. -/
theorem poll_stops (hgoing : s.Undisturbed) (hreturned : ∀ result, s.stream ≠ .returned result)
    (hout : s.outReceived = true) :
    ((transferMachine wLength).step s .poll).1.distance < s.distance := by
  apply poll_helps
  intro hsame
  have hstream := congrArg Transfer.stream hsame
  cases h : s.stream with
  | returned result => exact hreturned result h
  | waiting => simp [transferMachine, pollStream, Transfer.registers, h, hout] at hstream
  | writing rest lastPacketFull =>
      simp [transferMachine, pollStream, Transfer.registers, h, hout, hgoing.1] at hstream

/-- A function that still writes fills an empty bank. -/
theorem poll_fills (hgoing : s.Undisturbed) (hout : s.outReceived = false)
    (hbank : s.bank = none) {rest : InData} {lastPacketFull : Bool}
    (hstream : s.stream = .writing rest lastPacketFull) :
    ((transferMachine wLength).step s .poll).1.distance < s.distance := by
  apply poll_helps
  intro hsame
  have hnow := congrArg Transfer.bank hsame
  simp [transferMachine, pollStream, Transfer.registers, hstream, hout, hbank, hgoing.1,
    hgoing.2] at hnow

/-- In a transfer that goes on, one of the two can always bring the end nearer. -/
theorem turn_helps (h : Proceeding data wLength s) (hgoal : s.stream ≠ .returned .noError) :
    ∃ input ∈ transferTurns,
      ((transferMachine wLength).step s input).1.distance < s.distance := by
  obtain ⟨hcarried, hgoing⟩ := h
  have hreturned : ∀ result, s.stream ≠ .returned result := by
    intro result hresult
    cases result with
    | noError => exact hgoal hresult
    | hostAborted => exact absurd (hgoing.1.symm.trans (hcarried.aborted hresult)) (by decide)
    | deviceDisconnected =>
        exact absurd (hgoing.2.symm.trans (hcarried.disconnected hresult)) (by decide)
  cases hout : s.outReceived with
  | true => exact ⟨.poll, by simp [transferTurns], poll_stops hgoing hreturned hout⟩
  | false =>
      cases hended : s.ended with
      | true => exact ⟨.sendStatus, by simp [transferTurns], sendStatus_helps hended hout⟩
      | false =>
          cases hbank : s.bank with
          | some packet =>
              exact ⟨.takePacket, by simp [transferTurns],
                takePacket_helps hgoing hended hout hbank⟩
          | none =>
              refine ⟨.poll, by simp [transferTurns], ?_⟩
              cases hstream : s.stream with
              | returned result => exact absurd hstream (hreturned result)
              | waiting =>
                  obtain ⟨packet, hfull, -⟩ := hcarried.short hstream hended hout
                  exact absurd (hbank.symm.trans hfull) (by simp)
              | writing rest lastPacketFull => exact poll_fills hgoing hout hbank hstream

end Helps

/-- Taking a packet is nothing to the function or to the connection. -/
theorem takePacket_frame (wLength : U16) (s : Transfer) :
    ((transferMachine wLength).step s .takePacket).1.stream = s.stream ∧
      ((transferMachine wLength).step s .takePacket).1.setupReceived = s.setupReceived ∧
      ((transferMachine wLength).step s .takePacket).1.unattached = s.unattached := by
  simp only [transferMachine]
  split
  · split_ifs <;> exact ⟨rfl, rfl, rfl⟩
  · exact ⟨rfl, rfl, rfl⟩

/-- A transfer proceeds without the inputs that interrupt it. -/
theorem proceeding_step {data : InData} {wLength : U16} (hdata : data.length ≤ wLength.toNat)
    {s : Transfer} {input : TransferInput} (h : Proceeding data wLength s)
    (hproceeds : Proceeds input) :
    Proceeding data wLength ((transferMachine wLength).step s input).1 := by
  refine ⟨carried_step hdata s input h.1, ?_⟩
  obtain ⟨hsetup, hunattached⟩ := h.2
  cases input with
  | poll => exact ⟨hsetup, hunattached⟩
  | takePacket =>
      obtain ⟨-, hsame, hsame'⟩ := takePacket_frame wLength s
      exact ⟨hsame.trans hsetup, hsame'.trans hunattached⟩
  | sendStatus | endEarly => exact ⟨hsetup, hunattached⟩
  | newRequest => exact absurd rfl hproceeds.1
  | detach => exact absurd rfl hproceeds.2

/-- The rounds of polls, packets and status stages that end a transfer. -/
theorem transfer_progressing {data : InData} {wLength : U16}
    (hdata : data.length ≤ wLength.toNat) :
    (transferMachine wLength).Progressing (Proceeding data wLength)
      (fun s => s.stream = .returned .noError) Transfer.distance Proceeds transferTurns where
  keeps s input h hproceeds := proceeding_step hdata h hproceeds
  stays s input h hproceeds hgoal := by
    cases input with
    | poll => simp [transferMachine, hgoal, pollStream]
    | takePacket => exact (takePacket_frame wLength s).1.trans hgoal
    | sendStatus | endEarly => exact hgoal
    | newRequest => exact absurd rfl hproceeds.1
    | detach => exact absurd rfl hproceeds.2
  lowers s input h hproceeds := by
    cases input with
    | poll => exact poll_lowers
    | takePacket => exact takePacket_lowers
    | sendStatus => exact sendStatus_lowers
    | endEarly => exact endEarly_lowers
    | newRequest => exact absurd rfl hproceeds.1
    | detach => exact absurd rfl hproceeds.2
  helps s h hgoal := turn_helps h hgoal

section Start
variable (buf : List (Option U8)) (length wLength : U16)

theorem length_writeControlStream :
    (writeControlStream buf length wLength).length = min length.toNat wLength.toNat := by
  rw [writeControlStream, length_firstCells]

/-- A function with bytes to write has them all before it. -/
theorem carried_writing {data : InData} (hdata : data ≠ []) :
    Carried data wLength ⟨.next data false, none, false, false, false, [], false⟩ where
  sound := ⟨data, rfl⟩
  writing rest full hwriting := by
    have hrest := congrArg Stream.rest hwriting
    rw [Stream.next_rest] at hrest
    exact hrest.symm
  whole _ _ := Stream.next_rest data false
  ended hended := absurd hended (by simp)
  last packet hbank := absurd hbank (by simp)
  short hwaiting _ _ := by
    rcases Stream.next_cases data false with h | h
    · exact absurd (h.symm.trans hwaiting) (by simp)
    · exact absurd h.2.1 hdata
  success h := absurd h (Stream.next_ne_returned _ _ _)
  aborted h := absurd h (Stream.next_ne_returned _ _ _)
  disconnected h := absurd h (Stream.next_ne_returned _ _ _)

/-- A function with nothing to write has released an empty packet. -/
theorem carried_empty : Carried [] wLength ⟨.waiting, some [], false, false, false, [], false⟩ where
  sound := List.prefix_rfl
  writing rest full hwriting := absurd hwriting (by simp)
  whole _ _ := rfl
  ended hended := absurd hended (by simp)
  last packet _ _ := rfl
  short _ _ _ := ⟨[], rfl, by decide⟩
  success h := absurd h (by simp)
  aborted h := absurd h (by simp)
  disconnected h := absurd h (by simp)

/-- The function begins with the bytes that the host is to get. -/
theorem carried_start (hasked : wLength ≠ 0#16) :
    Carried (writeControlStream buf length wLength) wLength
      (Transfer.start buf length wLength) := by
  have hnonempty : ∀ n : U16, n ≠ 0#16 → firstCells buf n.toNat ≠ [] := by
    intro n hn hnil
    have hlength := congrArg List.length hnil
    rw [length_firstCells, List.length_nil] at hlength
    exact hn (BitVec.eq_of_toNat_eq hlength)
  rw [Transfer.start, beginStream, writeControlStream]
  split_ifs with hlong hzero
  · rw [Nat.min_eq_right (Nat.le_of_lt hlong)]
    exact carried_writing wLength (hnonempty wLength hasked)
  · rw [hzero]
    exact carried_empty wLength
  · rw [Nat.min_eq_left (Nat.le_of_not_lt hlong)]
    exact carried_writing wLength (hnonempty length hzero)

end Start

/-- No transfer is further from its end than the length of its reply says. -/
theorem distance_le {buf : List (Option U8)} {length wLength : U16} {s : Transfer}
    (h : Carried (writeControlStream buf length wLength) wLength s) :
    s.distance ≤ 2 * (min length.toNat wLength.toNat / controlEndpointSize) + 7 := by
  have hpolls :
      s.stream.polls ≤ min length.toNat wLength.toNat / controlEndpointSize + 2 := by
    cases hstream : s.stream with
    | writing rest lastPacketFull =>
        have hwhole := congrArg List.length (h.writing rest lastPacketFull hstream)
        rw [length_writeControlStream, List.length_append] at hwhole
        have hrest : rest.length ≤ min length.toNat wLength.toNat := by
          rw [← hwhole]
          exact Nat.le_add_left _ _
        exact Nat.add_le_add_right (Nat.div_le_div_right hrest) 2
    | waiting => exact Nat.succ_le_succ (Nat.zero_le _)
    | returned result => exact Nat.zero_le _
  simp only [Transfer.distance]
  split_ifs <;> omega

/-- Only one input begins the status stage before the end of the data stage. -/
theorem not_early_step {wLength : U16} {s : Transfer} {input : TransferInput} (h : ¬ s.Early)
    (hinput : input ≠ .endEarly) : ¬ ((transferMachine wLength).step s input).1.Early := by
  cases input with
  | poll | newRequest | detach => exact h
  | takePacket =>
      simp only [transferMachine]
      split
      · split_ifs with htakes
        · exact fun hearly => absurd (htakes.2.2.symm.trans hearly.1) (by decide)
        · exact h
      · exact h
  | sendStatus =>
      rintro ⟨hout, hopen⟩
      rcases Bool.or_eq_true_iff.mp hout with hwas | hended
      · exact h ⟨hwas, hopen⟩
      · exact absurd (hended.symm.trans hopen) (by decide)
  | endEarly => exact absurd rfl hinput

theorem not_early (buf : List (Option U8)) (length wLength : U16) {inputs : List TransferInput}
    (hpatient : .endEarly ∉ inputs) :
    ¬ ((transferMachine wLength).state (Transfer.start buf length wLength) inputs).Early := by
  have hstart : ¬ (Transfer.start buf length wLength).Early :=
    fun hearly => Bool.false_ne_true hearly.1
  have hrun := Machine.run_of_step (M := transferMachine wLength) (I := fun s => ¬ s.Early)
    (N := (· ≠ .endEarly)) (Q := fun _ => True)
    (fun s input h hinput => ⟨not_early_step h hinput, fun _ _ => trivial⟩) hstart
    (fun input hmem heq => hpatient (heq ▸ hmem))
  exact hrun.1

/-- A reply goes to a host that has asked for at least one byte: in every run of
polls, packets, status stages, new requests and disconnections, the host has a first
part of the reply, all of it when its data stage has ended; the function succeeds
only when the host has begun the status stage, which a host that never ends its data
stage early does with all of the reply, aborts only for a new request and gives up
only when the host is gone. Without these it succeeds after as many rounds, in
whatever order the turns of each are taken. -/
theorem control_stream_delivered (buf : List (Option U8)) (length wLength : U16)
    (hasked : wLength ≠ 0#16) (inputs : List TransferInput) :
    let s := (transferMachine wLength).state (Transfer.start buf length wLength) inputs
    s.received <+: writeControlStream buf length wLength ∧
      (s.ended = true → s.received = writeControlStream buf length wLength) ∧
      (s.stream = .returned .noError → s.outReceived = true ∧
        (.endEarly ∉ inputs → s.received = writeControlStream buf length wLength)) ∧
      (s.stream = .returned .hostAborted → s.setupReceived = true) ∧
      (s.stream = .returned .deviceDisconnected → s.unattached = true) ∧
      (s.Undisturbed → ∀ rounds : List (List TransferInput),
        (∀ turns ∈ rounds, Machine.Round Proceeds transferTurns turns) →
        2 * (min length.toNat wLength.toNat / controlEndpointSize) + 7 ≤ rounds.length →
        ((transferMachine wLength).state s rounds.flatten).stream = .returned .noError) := by
  intro s
  have hdata : (writeControlStream buf length wLength).length ≤ wLength.toNat := by
    rw [length_writeControlStream]
    exact Nat.min_le_right _ _
  have h : Carried (writeControlStream buf length wLength) wLength s :=
    Machine.state_of_step (carried_step hdata) (carried_start buf length wLength hasked) inputs
  refine ⟨?_, h.ended, fun hsuccess => ⟨h.success hsuccess, fun hpatient => ?_⟩, h.aborted,
    h.disconnected, ?_⟩
  · exact (List.prefix_append _ _).trans h.sound
  · apply h.ended
    by_contra hopen
    exact not_early buf length wLength hpatient ⟨h.success hsuccess, Bool.eq_false_iff.mpr hopen⟩
  · intro hgoing rounds hrounds hmany
    exact (transfer_progressing hdata).rounds ⟨h, hgoing⟩ hrounds
      (Nat.le_trans (distance_le h) hmany)

/-- A reply of fifty bytes to a host that asks for more, which takes it or ends the data
stage early. -/
theorem control_stream_delivered_report :
    (let s := (transferMachine 64#16).state (Transfer.start (refReportData.toList.map some) 50 64)
      [.poll, .takePacket, .sendStatus, .poll, .poll]
    s.stream = .returned .noError ∧
      s.received = writeControlStream (refReportData.toList.map some) 50 64) ∧
    (let s := (transferMachine 64#16).state (Transfer.start (refReportData.toList.map some) 50 64)
      [.poll, .endEarly, .poll, .poll]
    s.stream = .returned .noError ∧
      s.received <+: writeControlStream (refReportData.toList.map some) 50 64 ∧
        s.received = []) :=
  ⟨⟨rfl, ((control_stream_delivered (refReportData.toList.map some) 50 64 (by decide)
      [.poll, .takePacket, .sendStatus, .poll, .poll]).2.2.1 rfl).2 (by decide)⟩,
    rfl, (control_stream_delivered (refReportData.toList.map some) 50 64 (by decide)
      [.poll, .endEarly, .poll, .poll]).1, rfl⟩

end DiyPs3Controller.SixpairEmu
