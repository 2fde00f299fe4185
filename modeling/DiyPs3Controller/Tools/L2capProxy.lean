import DiyPs3Controller.Foundations.Machines
import DiyPs3Controller.Foundations.Buffers
import DiyPs3Controller.Foundations.Channels
import DiyPs3Controller.Ps2.Avr

/-!
# The main loop of the L2CAP proxy

One round of the loop serves the ready sockets in a fixed order: the next packet
is received into the one buffer and sent on to the socket of the other side. The
environment chooses the ready sockets, what `recv` finds there, and whether the
queue of the peer takes what is sent.
-/

namespace DiyPs3Controller.L2capProxy

open Buffers Channels

abbrev Packet := List U8

/-- The four connected sockets. -/
inductive Socket
  | clientCtrl
  | clientData
  | serverCtrl
  | serverData
  deriving DecidableEq, Repr

/-- The socket whose packets are sent on to this one. -/
def counterpart : Socket → Socket
  | .serverCtrl => .clientCtrl
  | .serverData => .clientData
  | .clientCtrl => .serverCtrl
  | .clientData => .serverData

/-- What `recv` finds at a ready socket. -/
inductive Answer
  | error
  | packet (bytes : Packet)
  deriving DecidableEq, Repr

/-- A ready socket: what is received there, and whether the queue of the other
side's peer takes the packet. -/
structure Ready where
  answer : Answer
  accepted : Bool
  deriving DecidableEq, Repr

/-- The sockets that `select` reports, and whether SIGINT calls `terminate`
before the round is over. -/
structure Round where
  ready : Socket → Option Ready
  interrupted : Bool

/-- The variables that live through the rounds. -/
structure Proxy where
  done : Bool
  buf : Vector U8 1024
  deriving DecidableEq, Repr

/-- The calls of a round, with what they return. -/
inductive Call
  | recv (socket : Socket) (answer : Answer)
  | send (socket : Socket) (bytes : Packet) (accepted : Bool)
  | printf (text : String)
  deriving DecidableEq, Repr

/-- `recv(fd, buf, 1024, MSG_DONTWAIT)`: the buffer after it and its result. A
longer packet is cut. -/
def recv (buf : Vector U8 1024) : Answer → Vector U8 1024 × Int
  | .error => (buf, -1)
  | .packet bytes => (overwrite buf 0 (bytes.take 1024), min bytes.length 1024)

/-- One block of the loop. The result of `send` is not read. -/
def relay (source target : Socket) (error : String) (round : Round) (p : Proxy) :
    Proxy × List Call :=
  match round.ready source with
  | none => (p, [])
  | some r =>
      let (buf, len) := recv p.buf r.answer
      if 0 < len then
        ({ p with buf },
          [.recv source r.answer, .send target (buf.toList.take len.toNat) r.accepted])
      else ({ done := true, buf }, [.recv source r.answer, .printf error])

def relayClientCtrl : Round → Proxy → Proxy × List Call :=
  relay .clientCtrl .serverCtrl "connection error from client (control)\n"

def relayClientData : Round → Proxy → Proxy × List Call :=
  relay .clientData .serverData "connection error from client (data)\n"

def relayServerCtrl : Round → Proxy → Proxy × List Call :=
  relay .serverCtrl .clientCtrl "connection error from server (control)\n"

def relayServerData : Round → Proxy → Proxy × List Call :=
  relay .serverData .clientData "connection error from server (data)\n"

/-- `while(!done)` -/
def mainLoop : Machine Proxy Round Call where
  step p round :=
    if p.done then (p, [])
    else
      let (p, calls₁) := relayClientCtrl round p
      let (p, calls₂) := relayClientData round p
      let (p, calls₃) := relayServerCtrl round p
      let (p, calls₄) := relayServerData round p
      ({ p with done := p.done || round.interrupted }, calls₁ ++ calls₂ ++ calls₃ ++ calls₄)

/-- The state before the first round; `buf` has no initialiser. -/
def start (buf : Vector U8 1024) : Proxy where
  done := false
  buf

/-- The packet that a call receives from `source`. -/
def receivedIn (source : Socket) : Call → Option Packet
  | .recv s (.packet bytes) => if s = source then some bytes else none
  | _ => none

/-- The offer that a call makes to `target`. -/
def offerIn (target : Socket) : Call → Option (Offer Packet)
  | .send s bytes accepted => if s = target then some ⟨bytes, accepted⟩ else none
  | _ => none

/-- The packets received from a socket, in order. -/
def receivedFrom (source : Socket) (calls : List Call) : List Packet :=
  calls.filterMap (receivedIn source)

/-- The packets that a socket accepted, in order. -/
def acceptedBy (target : Socket) (calls : List Call) : List Packet :=
  delivered (calls.filterMap (offerIn target))

/-- Every packet that arrives in the round is non-empty and fits the buffer. -/
def Round.InRange (round : Round) : Prop :=
  ∀ s r bytes, round.ready s = some r → r.answer = .packet bytes →
    0 < bytes.length ∧ bytes.length ≤ 1024

/-- No packet that arrives in the round is refused by the socket it is sent to. -/
def Round.Accepted (round : Round) : Prop :=
  ∀ s r bytes, round.ready s = some r → r.answer = .packet bytes → r.accepted = true

/-- The call is no refused send. -/
def Call.NotRefused : Call → Prop
  | .send _ _ accepted => accepted = true
  | _ => True

/-! ## One round -/

/-- The buffer gives a packet that fits back as it was received. -/
theorem take_recv {bytes : Packet} (fits : bytes.length ≤ 1024) (buf : Vector U8 1024) :
    (recv buf (.packet bytes)).1.toList.take (recv buf (.packet bytes)).2.toNat = bytes := by
  have hcut : bytes.take 1024 = bytes := List.take_of_length_le fits
  have hlen : (min bytes.length 1024 : Int).toNat = bytes.length := by omega
  simp only [recv, hlen, hcut]
  exact take_toList_overwrite buf fits

/-- The calls that a block makes for what it finds at its socket. -/
def exchange (source target : Socket) (error : String) : Option Ready → List Call
  | none => []
  | some ⟨.error, _⟩ => [.recv source .error, .printf error]
  | some ⟨.packet bytes, accepted⟩ =>
      [.recv source (.packet bytes), .send target bytes accepted]

theorem relay_calls {round : Round} (h : round.InRange) (source target : Socket)
    (error : String) (p : Proxy) :
    (relay source target error round p).2 =
      exchange source target error (round.ready source) := by
  cases hready : round.ready source with
  | none => simp [relay, hready, exchange]
  | some r =>
      obtain ⟨answer, accepted⟩ := r
      cases answer with
      | error => simp [relay, hready, exchange, recv]
      | packet bytes =>
          obtain ⟨hpos, hfits⟩ := h source _ bytes hready rfl
          have hlen : 0 < (recv p.buf (.packet bytes)).2 := by
            simp only [recv]
            omega
          have hsent := take_recv hfits p.buf
          simp only [relay, hready, exchange]
          rw [if_pos hlen, hsent]

theorem mainLoop_calls {round : Round} (h : round.InRange) {p : Proxy} (running : p.done = false) :
    (mainLoop.step p round).2 =
      exchange .clientCtrl .serverCtrl "connection error from client (control)\n"
          (round.ready .clientCtrl) ++
        exchange .clientData .serverData "connection error from client (data)\n"
          (round.ready .clientData) ++
        exchange .serverCtrl .clientCtrl "connection error from server (control)\n"
          (round.ready .serverCtrl) ++
        exchange .serverData .clientData "connection error from server (data)\n"
          (round.ready .serverData) := by
  simp only [mainLoop, running, relayClientCtrl, relayClientData, relayServerCtrl,
    relayServerData, relay_calls h, Bool.false_eq_true, if_false]

/-- A receive that ends the loop. -/
def fails : Option Ready → Bool
  | some ⟨.error, _⟩ => true
  | _ => false

theorem relay_done {round : Round} (h : round.InRange) (source target : Socket)
    (error : String) (p : Proxy) :
    (relay source target error round p).1.done = (p.done || fails (round.ready source)) := by
  cases hready : round.ready source with
  | none => simp [relay, hready, fails]
  | some r =>
      obtain ⟨answer, accepted⟩ := r
      cases answer with
      | error => simp [relay, hready, fails, recv]
      | packet bytes =>
          obtain ⟨hpos, hfits⟩ := h source _ bytes hready rfl
          have hlen : 0 < (recv p.buf (.packet bytes)).2 := by
            simp only [recv]
            omega
          simp only [relay, hready, fails, Bool.or_false]
          rw [if_pos hlen]

/-- The loop runs on after a round exactly when no receive failed and no signal came. -/
theorem mainLoop_done {round : Round} (h : round.InRange) {p : Proxy} (running : p.done = false) :
    (mainLoop.step p round).1.done =
      (fails (round.ready .clientCtrl) || fails (round.ready .clientData) ||
        fails (round.ready .serverCtrl) || fails (round.ready .serverData) ||
        round.interrupted) := by
  simp only [mainLoop, running, relayClientCtrl, relayClientData, relayServerCtrl,
    relayServerData, relay_done h, Bool.false_eq_true, if_false, Bool.false_or]

theorem mainLoop_stopped {p : Proxy} (stopped : p.done = true) (round : Round) :
    mainLoop.step p round = (p, []) := by
  simp [mainLoop, stopped]

theorem counterpart_injective : Function.Injective counterpart := by
  intro s t h
  cases s <;> cases t <;> first | rfl | cases h

/-- A block offers its target what it received, and no other socket anything. -/
theorem exchange_offers {source target : Socket} (link : source = counterpart target)
    (t : Socket) (error : String) (r : Option Ready) :
    (exchange source target error r).filterMap (receivedIn (counterpart t)) =
      offered ((exchange source target error r).filterMap (offerIn t)) := by
  match r with
  | none => rfl
  | some ⟨.error, _⟩ => rfl
  | some ⟨.packet bytes, accepted⟩ =>
      by_cases hsame : target = t
      · simp [exchange, receivedIn, offerIn, offered, List.filterMap_cons, link, hsame]
      · have hsource : counterpart target ≠ counterpart t :=
          fun h => hsame (counterpart_injective h)
        simp [exchange, receivedIn, offerIn, offered, List.filterMap_cons, link, hsame, hsource]

theorem step_offers {round : Round} (h : round.InRange) (p : Proxy) (t : Socket) :
    receivedFrom (counterpart t) (mainLoop.step p round).2 =
      offered ((mainLoop.step p round).2.filterMap (offerIn t)) := by
  cases hdone : p.done with
  | true =>
      rw [mainLoop_stopped hdone]
      rfl
  | false =>
      have toServerCtrl : Socket.clientCtrl = counterpart .serverCtrl := rfl
      have toServerData : Socket.clientData = counterpart .serverData := rfl
      have toClientCtrl : Socket.serverCtrl = counterpart .clientCtrl := rfl
      have toClientData : Socket.serverData = counterpart .clientData := rfl
      rw [mainLoop_calls h hdone, receivedFrom]
      simp only [List.filterMap_append, offered_append]
      rw [exchange_offers toServerCtrl, exchange_offers toServerData,
        exchange_offers toClientCtrl, exchange_offers toClientData]

/-- No send of a block is refused exactly when its packet is accepted. -/
theorem exchange_notRefused_iff (source target : Socket) (error : String) (r : Option Ready) :
    (∀ call ∈ exchange source target error r, call.NotRefused) ↔
      ∀ r' bytes, r = some r' → r'.answer = .packet bytes → r'.accepted = true := by
  match r with
  | none => simp [exchange]
  | some ⟨.error, accepted⟩ =>
      constructor
      · rintro - r' bytes hr hpacket
        obtain rfl := Option.some.inj hr
        cases hpacket
      · simp [exchange, Call.NotRefused]
  | some ⟨.packet bytes, accepted⟩ =>
      constructor
      · rintro h r' bytes' hr -
        obtain rfl := Option.some.inj hr
        exact h (.send target bytes accepted) (by simp [exchange])
      · intro h
        have haccepted := h _ bytes rfl rfl
        simpa [exchange, Call.NotRefused] using haccepted

theorem step_notRefused_iff {round : Round} (h : round.InRange) (p : Proxy) :
    (∀ call ∈ (mainLoop.step p round).2, call.NotRefused) ↔
      (p.done = false → round.Accepted) := by
  cases hdone : p.done with
  | true => simp [mainLoop_stopped hdone]
  | false =>
      simp only [mainLoop_calls h hdone, List.forall_mem_append, exchange_notRefused_iff,
        forall_const]
      constructor
      · rintro ⟨⟨⟨hclientCtrl, hclientData⟩, hserverCtrl⟩, hserverData⟩ s
        cases s <;> assumption
      · intro haccepted
        exact ⟨⟨⟨haccepted _, haccepted _⟩, haccepted _⟩, haccepted _⟩

/-! ## Whole runs -/

section Runs
variable (buf : Vector U8 1024) {rounds : List Round}

/-- What a socket is offered in a run is what came from its counterpart. -/
theorem run_offers (h : ∀ round ∈ rounds, round.InRange) (t : Socket) :
    receivedFrom (counterpart t) (mainLoop.outputs (start buf) rounds) =
      offered ((mainLoop.outputs (start buf) rounds).filterMap (offerIn t)) := by
  apply @Machine.trace_of_good_step _ _ _ mainLoop Round.InRange
    (fun calls _ => receivedFrom (counterpart t) calls =
      offered (calls.filterMap (offerIn t))) _ [] (start buf) rfl rounds h
  intro calls p round hcalls hround
  have hstep := step_offers hround p t
  simp only [receivedFrom, List.filterMap_append, offered_append] at hcalls hstep ⊢
  rw [hcalls, hstep]

/-- Whatever is refused, nothing is doubled, made up or put in another order. -/
theorem accepted_sublist_received (h : ∀ round ∈ rounds, round.InRange) (t : Socket) :
    (acceptedBy t (mainLoop.outputs (start buf) rounds)).Sublist
      (receivedFrom (counterpart t) (mainLoop.outputs (start buf) rounds)) := by
  rw [run_offers buf h t]
  exact delivered_sublist _

theorem notRefused_iff_offers (calls : List Call) :
    (∀ call ∈ calls, call.NotRefused) ↔
      ∀ t, ∀ o ∈ calls.filterMap (offerIn t), o.taken = true := by
  constructor
  · intro h t o ho
    obtain ⟨call, hcall, hoffer⟩ := List.mem_filterMap.mp ho
    cases call with
    | send s bytes accepted =>
        have htaken : accepted = true := h _ hcall
        by_cases hs : s = t
        · obtain rfl : (⟨bytes, accepted⟩ : Offer Packet) = o := by
            simpa [offerIn, hs] using hoffer
          exact htaken
        · simp [offerIn, hs] at hoffer
    | recv s answer => cases hoffer
    | printf text => cases hoffer
  · intro h call hcall
    cases call with
    | send s bytes accepted =>
        apply h s ⟨bytes, accepted⟩
        apply List.mem_filterMap.mpr
        exact ⟨_, hcall, by simp [offerIn]⟩
    | recv s answer => trivial
    | printf text => trivial

/-- Every socket has accepted exactly what came from its counterpart, in every
run in which no packet of a round that is run is refused, and in no other. -/
theorem lossless_iff (h : ∀ round ∈ rounds, round.InRange) :
    (∀ t, acceptedBy t (mainLoop.outputs (start buf) rounds) =
      receivedFrom (counterpart t) (mainLoop.outputs (start buf) rounds)) ↔
    mainLoop.Along (fun p round => p.done = false → round.Accepted) (start buf) rounds := by
  have hlaw : (∀ call ∈ mainLoop.outputs (start buf) rounds, call.NotRefused) ↔
      mainLoop.Along (fun p round => p.done = false → round.Accepted) (start buf) rounds :=
    Machine.forall_outputs_iff_along (I := fun _ => True) (fun _ _ _ _ _ => trivial)
      (fun p round _ hround => step_notRefused_iff hround p) trivial h
  rw [← hlaw, notRefused_iff_offers]
  apply forall_congr'
  intro t
  rw [run_offers buf h t]
  exact delivered_eq_offered_iff _

end Runs

/-- A round in which only the data socket of the client is ready. -/
def dataRound (bytes : Packet) (accepted : Bool) : Round where
  ready s := if s = .clientData then some ⟨.packet bytes, accepted⟩ else none
  interrupted := false

theorem inRange_dataRound {bytes : Packet} (hpos : 0 < bytes.length) (hfits : bytes.length ≤ 1024)
    (accepted : Bool) : (dataRound bytes accepted).InRange := by
  intro s r bytes' hready hanswer
  by_cases hs : s = .clientData
  · obtain rfl : (⟨.packet bytes, accepted⟩ : Ready) = r := by simpa [dataRound, hs] using hready
    obtain rfl : bytes = bytes' := by simpa using hanswer
    exact ⟨hpos, hfits⟩
  · simp [dataRound, hs] at hready

/-- A refused packet is gone: the loop runs on and never offers it again. -/
theorem refusedPacket_lost :
    (∀ round ∈ [dataRound [0xA1] false, dataRound [0xA2] true], round.InRange) ∧
    (mainLoop.state (start (Vector.replicate 1024 0#8))
      [dataRound [0xA1] false, dataRound [0xA2] true]).done = false ∧
    ¬∀ t, acceptedBy t (mainLoop.outputs (start (Vector.replicate 1024 0#8))
        [dataRound [0xA1] false, dataRound [0xA2] true]) =
      receivedFrom (counterpart t) (mainLoop.outputs (start (Vector.replicate 1024 0#8))
        [dataRound [0xA1] false, dataRound [0xA2] true]) := by
  have hrefused : (dataRound [0xA1] false).InRange := inRange_dataRound (by decide) (by decide) _
  have htaken : (dataRound [0xA2] true).InRange := inRange_dataRound (by decide) (by decide) _
  have hrunning := mainLoop_done hrefused (p := start (Vector.replicate 1024 0#8)) rfl
  refine ⟨?_, ?_, ?_⟩
  · intro round hround
    rcases List.mem_pair.mp hround with rfl | rfl
    · exact hrefused
    · exact htaken
  · rw [Machine.state_cons, Machine.state_cons, Machine.state_nil, mainLoop_done htaken hrunning]
    rfl
  · intro h
    have hlost := h .serverData
    rw [Machine.outputs_cons, Machine.outputs_cons, Machine.outputs_nil,
      mainLoop_calls hrefused rfl, mainLoop_calls htaken hrunning] at hlost
    revert hlost
    decide

/-- Two packets, both accepted. -/
theorem lossless_iff_twoPackets :
    (∀ t, acceptedBy t (mainLoop.outputs (start (Vector.replicate 1024 0#8))
        [dataRound [0xA1] true, dataRound [0xA2] true]) =
      receivedFrom (counterpart t) (mainLoop.outputs (start (Vector.replicate 1024 0#8))
        [dataRound [0xA1] true, dataRound [0xA2] true])) ↔
    mainLoop.Along (fun p round => p.done = false → round.Accepted)
      (start (Vector.replicate 1024 0#8)) [dataRound [0xA1] true, dataRound [0xA2] true] :=
  lossless_iff (Vector.replicate 1024 0#8) fun round hround => by
    rcases List.mem_pair.mp hround with rfl | rfl
    · exact inRange_dataRound (by decide) (by decide) true
    · exact inRange_dataRound (by decide) (by decide) true

end DiyPs3Controller.L2capProxy
