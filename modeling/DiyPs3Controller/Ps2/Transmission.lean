import DiyPs3Controller.Foundations.Loops
import DiyPs3Controller.Ps2.ReceiveStreams

/-!
# The sending side of a PS/2 line

`SendByte` and `KB_Send` put a byte on the data line bit by bit. The port bit of
the line stays low, and a bit is sent through the direction bit: as an output the
line is driven low, as an input it is held high by its pull-up. The device finds
a level whenever it brings the clock low, and the receiving side of a line reads
the levels of one byte as a frame.
-/

namespace DiyPs3Controller.Transmission

open Avr BitLists Loops Reception Frames LineDrivers ReceiveStreams MouseDriver KeyboardDriver

/-- `sbi(reg,bit)` -/
def sbi (reg : U8) (bit : Nat) : U8 := reg ||| (1#8 <<< bit)

/-- `cbi(reg,bit)` -/
def cbi (reg : U8) (bit : Nat) : U8 := reg &&& ~~~(1#8 <<< bit)

/-- The registers behind the data line. -/
structure DataPort where
  ddr : U8
  port : U8
  deriving DecidableEq, Repr

/-- The level that is held on the data line. -/
def DataPort.level (d : Nat) (p : DataPort) : Bool := if line d p.ddr then line d p.port else true

/-- The variables of the bit loop, and the levels that the device has found. -/
structure Sending where
  mask : U8
  pins : DataPort
  levels : List Bool
  deriving DecidableEq, Repr

section Send
variable (d : Nat) (data : U8)

/-- Steps 2 to 4: the start bit. -/
def startBit (p : DataPort) : Sending :=
  let pins : DataPort := { ddr := sbi p.ddr d, port := cbi p.port d }
  { mask := 1#8, pins, levels := [pins.level d] }

/-- Steps 5 to 7 and `mask <<= 1`. -/
def dataBit (t : Sending) : Sending :=
  let pins : DataPort :=
    if data &&& t.mask ≠ 0#8 then { t.pins with ddr := cbi t.pins.ddr d }
    else { t.pins with ddr := sbi t.pins.ddr d }
  { mask := t.mask <<< 1, pins, levels := t.levels ++ [pins.level d] }

/-- The condition of the `do ... while`. -/
def MaskLeft (t : Sending) : Prop := t.mask ≠ 0#8

instance : DecidablePred MaskLeft := fun t => inferInstanceAs (Decidable (t.mask ≠ 0#8))

/-- The line from step 2 to step 9: the registers it ends with, and the levels at
the clock-low points of the device. An 8-bit mask is shifted out within 8 rounds. -/
def sendLine (p : DataPort) : DataPort × List Bool :=
  let t := runFor MaskLeft (dataBit d data) 8 (dataBit d data (startBit d p))
  let parity : DataPort :=
    if parityEvenBit data ≠ 0#8 then { t.pins with ddr := sbi t.pins.ddr d }
    else { t.pins with ddr := cbi t.pins.ddr d }
  let released : DataPort := { ddr := cbi parity.ddr d, port := cbi parity.port d }
  (released, t.levels ++ [parity.level d, released.level d])

end Send

/-- The line of `SendByte`. -/
def sendByteLine (data : U8) (p : DataPort) : DataPort × List Bool := sendLine msDataBit data p

/-- The line of `KB_Send`. -/
def kbSendLine (data : U8) (p : DataPort) : DataPort × List Bool := sendLine kbDataBit data p

/-- The levels of a list of bytes sent one after the other. -/
def sentLevels (send : U8 → DataPort → DataPort × List Bool) : DataPort → List U8 → List Bool
  | _, [] => []
  | p, b :: rest => (send b p).2 ++ sentLevels send (send b p).1 rest

/-- A line receives what its sending side would put on it: the bit loop is left
after eight rounds, with the bits of the byte in order, the parity passes, and a
stream of such levels that finds room queues exactly the bytes sent. -/
structure Agrees {σ : Type} (L : LineDriver σ) (send : U8 → DataPort → DataPort × List Bool) :
    Prop where
  eightBits : ∀ data p,
    LeftAfter MaskLeft (dataBit L.dataBit data)
        (dataBit L.dataBit data (startBit L.dataBit p)) 7 ∧
      (send data p).2.tail.take 8 = toLsb data
  parity : ∀ data p, ∃ level, (send data p).2[9]? = some level ∧
    parityRejects L.dataBit data level = false
  received : ∀ s p bytes inputs, (L.rx s).Idle →
    (clockPins inputs).map (line L.dataBit) = sentLevels send p bytes →
    (drainedMachine L).Along (FindsRoom L) s inputs →
    ((drainedMachine L).outputs s inputs).filterMap RxOutput.call? = bytes.map .addElement ∧
      ((drainedMachine L).outputs s inputs).filterMap RxOutput.taken? ++
          (L.rx ((drainedMachine L).state s inputs)).ringbuffer.contents =
        (L.rx s).ringbuffer.contents ++ bytes ∧
      (L.rx ((drainedMachine L).state s inputs)).Idle

/-! ## The registers -/

section Registers
variable {d : Nat} (hd : d < 8) (p : DataPort)
include hd

theorem line_sbi (reg : U8) : line d (sbi reg d) = true := by
  simp [line, sbi, hd]

theorem line_cbi (reg : U8) : line d (cbi reg d) = false := by
  simp [line, cbi, hd]

theorem level_output (reg : U8) (hlow : line d p.port = false) :
    ({ p with ddr := sbi reg d } : DataPort).level d = false := by
  simp [DataPort.level, line_sbi hd, hlow]

theorem level_input (reg : U8) : ({ p with ddr := cbi reg d } : DataPort).level d = true := by
  simp [DataPort.level, line_cbi hd]

end Registers

/-! ## The bit loop -/

section Rounds
variable {d : Nat} (hd : d < 8) (data : U8) (p : DataPort)
include hd

/-- After `k` rounds the mask is at bit `k`, the port bit is still low, and the first
`k` bits have been found behind the start bit. -/
theorem rounds {k : Nat} (hk : k ≤ 8) :
    ((dataBit d data)^[k] (startBit d p)).mask = 1#8 <<< k ∧
      line d ((dataBit d data)^[k] (startBit d p)).pins.port = false ∧
      ((dataBit d data)^[k] (startBit d p)).levels =
        false :: (List.range k).map data.getLsbD := by
  induction k with
  | zero =>
      have hport := line_cbi hd p.port
      refine ⟨rfl, hport, ?_⟩
      exact congrArg (fun level => [level])
        (level_output hd { p with port := cbi p.port d } p.ddr hport)
  | succ k ih =>
      obtain ⟨hmask, hport, hlevels⟩ := ih (by omega)
      rw [Function.iterate_succ_apply', List.range_succ, List.map_append, ← List.cons_append,
        ← hlevels]
      have hbit : data &&& 1#8 <<< k ≠ 0#8 ↔ data.getLsbD k = true :=
        bitIsSet_ne_zero_iff (by omega) data
      have hshift : (1#8 <<< k) <<< 1 = 1#8 <<< (k + 1) := (BitVec.shiftLeft_add _ _ _).symm
      by_cases hset : data.getLsbD k = true
      · simp [dataBit, hmask, hbit, hset, hport, hshift, level_input hd]
      · rw [Bool.not_eq_true] at hset
        simp [dataBit, hmask, hbit, hset, hport, hshift, level_output hd]

/-- The level behind the data bits makes the number of ones odd. -/
theorem parity_level (hlow : line d p.port = false) :
    (if parityEvenBit data ≠ 0#8 then ({ p with ddr := sbi p.ddr d } : DataPort)
      else { p with ddr := cbi p.ddr d }).level d = oddParity data := by
  cases hodd : oddOnes (toLsb data)
  · simp [parityEvenBit, oddParity, hodd, level_input hd]
  · simp [parityEvenBit, oddParity, hodd, level_output hd p p.ddr hlow]

/-- The shifted mask is zero for the first time after eight rounds. -/
theorem bitLoop_leftAfter :
    LeftAfter MaskLeft (dataBit d data) (dataBit d data (startBit d p)) 7 where
  runs := by
    intro k hk
    rw [MaskLeft, ← Function.iterate_succ_apply, (rounds hd data p (show k + 1 ≤ 8 by omega)).1]
    exact shiftLeft_ne_zero (k + 1) (by omega)
  leaves := by
    rw [MaskLeft, ← Function.iterate_succ_apply, (rounds hd data p (Nat.le_refl 8)).1]
    decide

/-- The levels of one byte are those of its frame. -/
theorem sendLine_levels : (sendLine d data p).2 = frame data := by
  have hloop : runFor MaskLeft (dataBit d data) 8 (dataBit d data (startBit d p)) =
      (dataBit d data)^[8] (startBit d p) :=
    (bitLoop_leftAfter hd data p).runFor_eq (by decide)
  obtain ⟨-, hport, hlevels⟩ := rounds hd data p (Nat.le_refl 8)
  have hparity := parity_level hd data _ hport
  rw [sendLine, hloop, hlevels]
  simp only [hparity]
  rw [frame, toLsb, List.cons_append]
  simp [DataPort.level, line_cbi hd]

end Rounds

/-! ## Streams -/

section Streams
variable {d : Nat} (hd : d < 8)
include hd

/-- Samples with the levels of a list of bytes carry that list. -/
theorem carries_of_levels (bytes : List U8) (p : DataPort) {pins : List U8}
    (h : pins.map (line d) = sentLevels (sendLine d) p bytes) : Carries d bytes pins := by
  induction bytes generalizing p pins with
  | nil =>
      rw [List.map_eq_nil_iff.mp h]
      exact .nil
  | cons b rest ih =>
      obtain ⟨now, later, rfl, hnow, hlater⟩ := List.map_eq_append_iff.mp h
      rw [sendLine_levels hd] at hnow
      exact .frame hnow (ih _ hlater)

end Streams

/-- A line agrees with the sending code on its data bit. -/
theorem agrees_sendLine {σ : Type} (L : LineDriver σ) : Agrees L (sendLine L.dataBit) where
  eightBits data p := by
    refine ⟨bitLoop_leftAfter L.dataBit_lt data p, ?_⟩
    rw [sendLine_levels L.dataBit_lt, frame, List.tail_cons,
      List.take_left' (toLsb_length data)]
  parity data p := by
    refine ⟨oddParity data, ?_, parityRejects_oddParity L.dataBit_lt data⟩
    rw [sendLine_levels L.dataBit_lt]
    rfl
  received s p bytes inputs hidle hlevels hroom :=
    receivesAll L s bytes inputs hidle (carries_of_levels L.dataBit_lt bytes p hlevels) hroom

/-- The mouse line receives what `SendByte` sends, the keyboard line what `KB_Send`
sends. -/
theorem transmitters_agree : Agrees mouseLine sendByteLine ∧ Agrees keyboardLine kbSendLine :=
  ⟨agrees_sendLine mouseLine, agrees_sendLine keyboardLine⟩

/-- The levels of two bytes, the first one taken before the second is complete. -/
def echoed : List RxInput :=
  ((sendByteLine 0xF4#8 ⟨0#8, 0#8⟩).2 ++ (sendByteLine 0xFF#8 ⟨0#8, 0#8⟩).2).map
      (fun level => .clock (if level then 1#8 else 0#8)) |>.insertIdx 12 .take

theorem transmitters_agree_echoed :
    ((drainedMachine mouseLine).outputs msInit echoed).filterMap RxOutput.call? =
        [.addElement 0xF4#8, .addElement 0xFF#8] ∧
      ((drainedMachine mouseLine).outputs msInit echoed).filterMap RxOutput.taken? ++
          ((drainedMachine mouseLine).state msInit echoed).driver.ringbuffer.contents =
        [0xF4#8, 0xFF#8] ∧
      ((drainedMachine mouseLine).state msInit echoed).driver.Idle :=
  transmitters_agree.1.received msInit ⟨0#8, 0#8⟩ [0xF4#8, 0xFF#8] echoed mouseLine_init_idle
    (by decide +kernel) (by decide +kernel)

end DiyPs3Controller.Transmission
