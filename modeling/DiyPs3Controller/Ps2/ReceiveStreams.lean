import DiyPs3Controller.Ps2.LineDrivers

/-!
# Reception of whole streams

A stream carries a list of bytes as frames with any number of high samples
around them. The main loop takes bytes at any time. As long as a completed
frame finds room, the bytes taken and the bytes still queued are those that
were queued before, followed by those of the stream.
-/

namespace DiyPs3Controller.ReceiveStreams

open Avr RingBuffer Reception Frames LineDrivers MouseDriver KeyboardDriver

/-- A clock interrupt, or the main loop taking one byte. -/
inductive RxInput
  | clock (pin : U8)
  | take
  deriving DecidableEq, Repr

inductive RxOutput
  | call (c : RxCall)
  | taken (data : U8)
  deriving DecidableEq, Repr

/-- Pin readings that carry a list of bytes, with high samples around the frames. -/
inductive Carries (d : Nat) : List U8 → List U8 → Prop
  | nil : Carries d [] []
  | high {bytes pin rest} (h : line d pin = true) (tail : Carries d bytes rest) :
      Carries d bytes (pin :: rest)
  | frame {b bytes pins rest} (h : IsFrame d b pins) (tail : Carries d bytes rest) :
      Carries d (b :: bytes) (pins ++ rest)

/-- The pin readings among the inputs. -/
def clockPins : List RxInput → List U8
  | [] => []
  | .clock pin :: rest => pin :: clockPins rest
  | .take :: rest => clockPins rest

/-- The calls of the clock interrupt among the outputs. -/
def RxOutput.call? : RxOutput → Option RxCall
  | .call c => some c
  | .taken _ => none

/-- The bytes the main loop took. -/
def RxOutput.taken? : RxOutput → Option U8
  | .call _ => none
  | .taken data => some data

/-- The clock interrupt of a line, with the main loop taking bytes. -/
def drainedMachine {σ : Type} (L : LineDriver σ) : Machine σ RxInput RxOutput where
  step s
    | .clock pin => ((L.machine.step s pin).1, (L.machine.step s pin).2.map .call)
    | .take =>
        (L.drain s,
          if (L.rx s).ringbuffer.hasElement then [.taken (L.rx s).ringbuffer.getElement.2] else [])

/-- A sample that queues a byte finds room for it. -/
def FindsRoom {σ : Type} (L : LineDriver σ) (s : σ) : RxInput → Prop
  | .clock pin =>
      (L.machine.step s pin).2.filterMap RxCall.added? ≠ [] → (L.rx s).ringbuffer.HasRoom
  | .take => True

instance {σ : Type} (L : LineDriver σ) (s : σ) (i : RxInput) : Decidable (FindsRoom L s i) :=
  match i with
  | .clock _ => inferInstanceAs (Decidable (_ → _))
  | .take => inferInstanceAs (Decidable True)

/-- Every stream that finds room is received completely, in order and quietly. -/
def ReceivesAll {σ : Type} (L : LineDriver σ) : Prop :=
  ∀ (s : σ) (bytes : List U8) (inputs : List RxInput), (L.rx s).Idle →
    Carries L.dataBit bytes (clockPins inputs) →
    (drainedMachine L).Along (FindsRoom L) s inputs →
    ((drainedMachine L).outputs s inputs).filterMap RxOutput.call? = bytes.map .addElement ∧
      ((drainedMachine L).outputs s inputs).filterMap RxOutput.taken? ++
          (L.rx ((drainedMachine L).state s inputs)).ringbuffer.contents =
        (L.rx s).ringbuffer.contents ++ bytes ∧
      (L.rx ((drainedMachine L).state s inputs)).Idle

/-- From idle, a stream queues its bytes in order, sends nothing and ends in idle. -/
theorem carries_run {d : Nat} (hd : d < 8) {bytes pins : List U8} (h : Carries d bytes pins)
    {r : Receiver} (hr : r.Idle) :
    (lineMachine d).outputs r pins = bytes.map .addElement ∧
      ((lineMachine d).state r pins).Idle := by
  induction h generalizing r with
  | nil => exact ⟨rfl, hr⟩
  | @high bytes pin rest hp tail ih =>
      have hstep : (lineMachine d).step r pin = (r, []) := clock_idle_high hd hr.1 hp
      simpa only [Machine.state_cons, Machine.outputs_cons, hstep, List.nil_append] using ih hr
  | @frame b bytes pins rest hframe tail ih =>
      obtain ⟨hstate, hout⟩ := Frames.frame_run hd hr hframe
      rw [Machine.state_append, Machine.outputs_append, hout]
      have hready : ((lineMachine d).state r pins).Idle := by
        rw [hstate]
        exact ⟨rfl, rfl⟩
      obtain ⟨htail, hidle⟩ := ih hready
      exact ⟨by rw [htail]; rfl, hidle⟩

theorem calls_of_calls (calls : List RxCall) :
    (calls.map RxOutput.call).filterMap RxOutput.call? = calls := by
  simp [List.filterMap_map, Function.comp_def, RxOutput.call?]

theorem taken_of_calls (calls : List RxCall) :
    (calls.map RxOutput.call).filterMap RxOutput.taken? = [] := by
  simp [List.filterMap_map, Function.comp_def, RxOutput.taken?]

section Drained
variable {σ : Type} {L : LineDriver σ}

/-- Taking bytes has no part in how the samples are read. -/
theorem drained_core (inputs : List RxInput) {s : σ} {t : Receiver} (h : SameCore (L.rx s) t) :
    SameCore (L.rx ((drainedMachine L).state s inputs))
        ((lineMachine L.dataBit).state t (clockPins inputs)) ∧
      ((drainedMachine L).outputs s inputs).filterMap RxOutput.call? =
        (lineMachine L.dataBit).outputs t (clockPins inputs) := by
  induction inputs generalizing s t with
  | nil => exact ⟨h, rfl⟩
  | cons i rest ih =>
      rw [Machine.state_cons, Machine.outputs_cons, List.filterMap_append]
      cases i with
      | take =>
          have hdrain : SameCore (L.rx (L.drain s)) t := by
            rw [L.drained]
            exact ⟨h.bitN, h.buffer, h.error⟩
          obtain ⟨hcore, hcalls⟩ := ih hdrain
          refine ⟨hcore, ?_⟩
          have hquiet : ((drainedMachine L).step s .take).2.filterMap RxOutput.call? = [] := by
            simp only [drainedMachine]
            split <;> rfl
          rw [hquiet]
          exact hcalls
      | clock pin =>
          obtain ⟨hstep, hcall⟩ := clockInterrupt_core L.dataBit h pin
          have hshared := L.shared s pin
          obtain ⟨hcore, hcalls⟩ := ih (s := (L.machine.step s pin).1)
            (t := (clockInterrupt L.dataBit t pin).1) (hshared.1 ▸ hstep)
          refine ⟨hcore, ?_⟩
          have hmap : ((drainedMachine L).step s (.clock pin)).2.filterMap RxOutput.call? =
              (clockInterrupt L.dataBit t pin).2 := by
            rw [← hcall]
            exact (calls_of_calls _).trans hshared.2
          rw [hmap]
          exact congrArg _ hcalls

/-- One taken byte is the oldest one. -/
theorem take_step (s : σ) :
    ((drainedMachine L).step s .take).2.filterMap RxOutput.taken? ++
        (L.rx ((drainedMachine L).step s .take).1).ringbuffer.contents =
      (L.rx s).ringbuffer.contents ++
        (((drainedMachine L).step s .take).2.filterMap RxOutput.call?).filterMap
          RxCall.added? := by
  simp only [drainedMachine, L.drained]
  by_cases h : (L.rx s).ringbuffer.contents = []
  · simp [Ring.hasElement_eq, h, Ring.getElement_empty h]
  · have hhead := Ring.contents_eq_getElement h
    have helement : (L.rx s).ringbuffer.hasElement = true := by simp [Ring.hasElement_eq, h]
    rw [if_pos helement]
    exact hhead.symm.trans (List.append_nil _).symm

/-- One sample that finds room queues what it lists. -/
theorem clock_step (s : σ) (pin : U8) (hroom : FindsRoom L s (.clock pin)) :
    ((drainedMachine L).step s (.clock pin)).2.filterMap RxOutput.taken? ++
        (L.rx ((drainedMachine L).step s (.clock pin)).1).ringbuffer.contents =
      (L.rx s).ringbuffer.contents ++
        (((drainedMachine L).step s (.clock pin)).2.filterMap RxOutput.call?).filterMap
          RxCall.added? := by
  obtain ⟨hstate, hout⟩ := L.shared s pin
  simp only [drainedMachine, taken_of_calls, calls_of_calls, List.nil_append]
  rw [hstate, hout]
  simp only [FindsRoom, hout] at hroom
  rcases clockInterrupt_ringbuffer L.dataBit (L.rx s) pin with ⟨b, hadd, hring⟩ | ⟨hadd, hring⟩
  · simp only [lineMachine] at hroom ⊢
    rw [hring, hadd, Ring.contents_addElement (hroom (by simp [hadd]))]
  · simp only [lineMachine]
    rw [hring, hadd, List.append_nil]

/-- Bytes leave the queue in the order in which they entered it. -/
theorem drained_fifo (inputs : List RxInput) {s : σ}
    (hroom : (drainedMachine L).Along (FindsRoom L) s inputs) :
    ((drainedMachine L).outputs s inputs).filterMap RxOutput.taken? ++
        (L.rx ((drainedMachine L).state s inputs)).ringbuffer.contents =
      (L.rx s).ringbuffer.contents ++
        (((drainedMachine L).outputs s inputs).filterMap RxOutput.call?).filterMap
          RxCall.added? := by
  induction inputs generalizing s with
  | nil => simp
  | cons i rest ih =>
      have hrest := ih hroom.2
      rw [Machine.state_cons, Machine.outputs_cons]
      simp only [List.filterMap_append, List.append_assoc, hrest]
      rw [← List.append_assoc, ← List.append_assoc]
      congr 1
      cases i with
      | take => exact take_step s
      | clock pin => exact clock_step s pin hroom.1

end Drained

theorem receivesAll {σ : Type} (L : LineDriver σ) : ReceivesAll L := by
  intro s bytes inputs hidle hcarries hroom
  obtain ⟨hout, hend⟩ := carries_run L.dataBit_lt hcarries hidle
  obtain ⟨hcore, hcalls⟩ := drained_core inputs (L := L) (s := s) (t := L.rx s) ⟨rfl, rfl, rfl⟩
  have hfifo := drained_fifo inputs hroom
  have hadded : (bytes.map RxCall.addElement).filterMap RxCall.added? = bytes := by
    simp [List.filterMap_map, Function.comp_def, RxCall.added?]
  rw [hcalls, hout, hadded] at hfifo
  exact ⟨hcalls.trans hout, hfifo, hcore.bitN.trans hend.1, hcore.buffer.trans hend.2⟩

/-- Both clock interrupts receive every stream that finds room. -/
theorem clockInterrupts_receive_all : ReceivesAll mouseLine ∧ ReceivesAll keyboardLine :=
  ⟨receivesAll mouseLine, receivesAll keyboardLine⟩

/-- Two bytes on the mouse line, the first taken before the second is complete. -/
def twoBytes : List RxInput :=
  (framePins msDataBit 0xFA#8).map .clock ++ [.take, .clock 1#8] ++
    (framePins msDataBit 0xAA#8).map .clock

theorem twoBytes_carries : Carries msDataBit [0xFA#8, 0xAA#8] (clockPins twoBytes) := by
  have hpins : clockPins twoBytes =
      framePins msDataBit 0xFA#8 ++ 1#8 :: (framePins msDataBit 0xAA#8 ++ []) := by decide
  rw [hpins]
  exact .frame (framePins_isFrame (by decide) _)
    (.high (by decide) (.frame (framePins_isFrame (by decide) _) .nil))

theorem clockInterrupts_receive_all_twoBytes :
    ((drainedMachine mouseLine).outputs msInit twoBytes).filterMap RxOutput.call? =
        [.addElement 0xFA#8, .addElement 0xAA#8] ∧
      ((drainedMachine mouseLine).outputs msInit twoBytes).filterMap RxOutput.taken? ++
          ((drainedMachine mouseLine).state msInit twoBytes).driver.ringbuffer.contents =
        [0xFA#8, 0xAA#8] ∧
      ((drainedMachine mouseLine).state msInit twoBytes).driver.Idle :=
  clockInterrupts_receive_all.1 msInit [0xFA#8, 0xAA#8] twoBytes mouseLine_init_idle
    twoBytes_carries (by decide +kernel)

end DiyPs3Controller.ReceiveStreams
