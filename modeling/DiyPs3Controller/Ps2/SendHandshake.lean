import DiyPs3Controller.Foundations.Patterns
import DiyPs3Controller.Ps2.Transmission

/-!
# The handshake of a send

`SendByte` and `KB_Send` wait loop by wait loop: each reading of the clock or
the data pin is an input, and the level that the host holds on the data line is
listed when the function sees the clock low. The function has no time limit. Which
waveforms let it return is a pattern of levels, and what the host holds does not
depend on how often the function reads a level.
-/

namespace DiyPs3Controller.SendHandshake

open Avr BitLists Loops Frames LineDrivers Transmission Patterns

/-- The loops of the function, in the order of the source, and its end. -/
inductive Point
  | clockReleased
  | clockTaken
  | bitHigh
  | bitLow
  | parityHigh
  | parityLow
  | releasedHigh
  | dataAcknowledged
  | clockAcknowledged
  | lineIdle
  | returned
  deriving DecidableEq, Repr

/-- The variables of the function, the port behind the data line, and whether the
clock interrupt is enabled. -/
structure Send where
  point : Point
  mask : U8
  pins : DataPort
  clockInterrupt : Bool
  deriving DecidableEq, Repr

/-- The levels that the two pins read. -/
structure Reading where
  clock : Bool
  data : Bool
  deriving DecidableEq, Repr

section Function
variable (d : Nat) (data : U8)

/-- Step 5 with the current mask. -/
def putBit (s : Send) : Send :=
  { s with
      point := .bitHigh
      pins :=
        if data &&& s.mask ≠ 0#8 then { s.pins with ddr := cbi s.pins.ddr d }
        else { s.pins with ddr := sbi s.pins.ddr d } }

/-- Step 5 for the parity bit. -/
def putParity (s : Send) : Send :=
  { s with
      point := .parityHigh
      pins :=
        if parityEvenBit data ≠ 0#8 then { s.pins with ddr := sbi s.pins.ddr d }
        else { s.pins with ddr := cbi s.pins.ddr d } }

/-- `mask <<= 1` and the condition of the `do ... while`. -/
def nextBit (s : Send) : Send :=
  let s := { s with mask := s.mask <<< 1 }
  if s.mask ≠ 0#8 then putBit d data s else putParity d data s

/-- Step 9 up to its loop. -/
def releaseData (s : Send) : Send :=
  { s with
      point := .releasedHigh
      pins := { ddr := cbi s.pins.ddr d, port := cbi s.pins.port d } }

/-- The function up to its first loop. -/
def beginSend (p : DataPort) : Send where
  point := .clockReleased
  mask := 1#8
  pins := { ddr := sbi p.ddr d, port := cbi p.port d }
  clockInterrupt := false

/-- One reading, with the level that the host holds if the function sees the clock
low. At the last of these points the host has let go of the line, which is high for
it, while the device holds it low to acknowledge. -/
def readPin (s : Send) (reading : Reading) : Send × List Bool :=
  match s.point with
  | .clockReleased => (if reading.clock then { s with point := .clockTaken } else s, [])
  | .clockTaken => if reading.clock then (s, []) else (putBit d data s, [s.pins.level d])
  | .bitHigh => (if reading.clock then { s with point := .bitLow } else s, [])
  | .bitLow => if reading.clock then (s, []) else (nextBit d data s, [s.pins.level d])
  | .parityHigh => (if reading.clock then { s with point := .parityLow } else s, [])
  | .parityLow => if reading.clock then (s, []) else (releaseData d s, [s.pins.level d])
  | .releasedHigh => (if reading.clock then { s with point := .dataAcknowledged } else s, [])
  | .dataAcknowledged =>
      (if reading.data then s else { s with point := .clockAcknowledged }, [])
  | .clockAcknowledged =>
      if reading.clock then (s, []) else ({ s with point := .lineIdle }, [s.pins.level d])
  | .lineIdle =>
      (if reading.clock then { s with point := .returned, clockInterrupt := true } else s, [])
  | .returned => (s, [])

/-- The function over the readings of its loops. -/
def handshake : Machine Send Reading Bool where
  step := readPin d data

end Function

/-- What a loop waits for. -/
inductive Wait
  | clockHigh
  | clockLow
  | dataLow
  deriving DecidableEq, Repr

/-- A reading ends a loop. -/
def Ends (reading : Reading) : Wait → Prop
  | .clockHigh => reading.clock = true
  | .clockLow => reading.clock = false
  | .dataLow => reading.data = false

instance (reading : Reading) : (wait : Wait) → Decidable (Ends reading wait)
  | .clockHigh => inferInstanceAs (Decidable (_ = _))
  | .clockLow => inferInstanceAs (Decidable (_ = _))
  | .dataLow => inferInstanceAs (Decidable (_ = _))

/-- A loop to come, with the level that the host holds at its end. -/
structure Loop where
  wait : Wait
  level : Option Bool
  deriving DecidableEq, Repr

/-- The clock goes high and low again, with a level held on the data line. -/
def pulse (level : Bool) : List Loop := [⟨.clockHigh, none⟩, ⟨.clockLow, some level⟩]

/-- The loops behind the parity bit: the device acknowledges and lets go. -/
def acknowledgement : List Loop :=
  [⟨.clockHigh, none⟩, ⟨.dataLow, none⟩, ⟨.clockLow, some true⟩, ⟨.clockHigh, none⟩]

/-- The loops from data bit `k` on. -/
def loopsFrom (data : U8) (k : Nat) : List Loop :=
  ((List.range 8).drop k).flatMap (fun i => pulse (data.getLsbD i)) ++ pulse (oddParity data) ++
    acknowledgement

/-- All loops of a send. -/
def loops (data : U8) : List Loop := pulse false ++ loopsFrom data 0

/-- What the loops of a send wait for: eleven times the clock low, the last time
behind an acknowledgement on the data line, and the line idle at the end. -/
def waits : List Wait :=
  (List.replicate 10 [.clockHigh, .clockLow]).flatten ++
    [.clockHigh, .dataLow, .clockLow, .clockHigh]

theorem loops_waits (data : U8) : (loops data).map Loop.wait = waits := rfl

/-- The levels of the loops are those of the frame. -/
theorem loops_levels (data : U8) : (loops data).filterMap Loop.level = frame data := rfl

theorem loopsFrom_of_lt (data : U8) {k : Nat} (hk : k < 8) :
    loopsFrom data k = pulse (data.getLsbD k) ++ loopsFrom data (k + 1) := by
  have hdrop : (List.range 8).drop k = k :: (List.range 8).drop (k + 1) := by
    rw [List.drop_eq_getElem_cons (by simpa using hk), List.getElem_range]
  rw [loopsFrom, hdrop, List.flatMap_cons, List.append_assoc, List.append_assoc, loopsFrom,
    List.append_assoc]

/-- The loops to come at each point, in the round of bit `k`. -/
def remaining (data : U8) (k : Nat) : Point → List Loop
  | .clockReleased => loops data
  | .clockTaken => ⟨.clockLow, some false⟩ :: loopsFrom data 0
  | .bitHigh => pulse (data.getLsbD k) ++ loopsFrom data (k + 1)
  | .bitLow => ⟨.clockLow, some (data.getLsbD k)⟩ :: loopsFrom data (k + 1)
  | .parityHigh => pulse (oddParity data) ++ acknowledgement
  | .parityLow => ⟨.clockLow, some (oddParity data)⟩ :: acknowledgement
  | .releasedHigh => acknowledgement
  | .dataAcknowledged => acknowledgement.drop 1
  | .clockAcknowledged => acknowledgement.drop 2
  | .lineIdle => acknowledgement.drop 3
  | .returned => []

/-- The level on the data line at each point. -/
def held (data : U8) (k : Nat) : Point → Bool
  | .clockReleased | .clockTaken => false
  | .bitHigh | .bitLow => data.getLsbD k
  | .parityHigh | .parityLow => oddParity data
  | _ => true

/-- The function is in the round of bit `k`, with these loops to come. -/
structure Follows (d : Nat) (data : U8) (k : Nat) (s : Send) (rest : List Loop) : Prop where
  rest_eq : rest = remaining data k s.point
  level : s.pins.level d = held data k s.point
  port : line d s.pins.port = false
  round : k < 8
  mask : s.point ∈ [.clockReleased, .clockTaken, .bitHigh, .bitLow] → s.mask = 1#8 <<< k
  first : s.point = .clockReleased ∨ s.point = .clockTaken → k = 0
  interrupt : s.clockInterrupt = decide (s.point = .returned)

section Follow
variable {d : Nat} (hd : d < 8) (data : U8)
include hd

theorem follows_begin (p : DataPort) : Follows d data 0 (beginSend d p) (loops data) := by
  have hport := line_cbi hd p.port
  refine ⟨rfl, ?_, hport, by decide, fun _ => rfl, fun _ => rfl, rfl⟩
  exact level_output hd { p with port := cbi p.port d } p.ddr hport

variable {data} {k : Nat} {s : Send}

/-- With the mask at bit `k`, the line gets that bit. -/
theorem follows_putBit (hk : k < 8) (hmask : s.mask = 1#8 <<< k)
    (hport : line d s.pins.port = false) (hoff : s.clockInterrupt = false) :
    Follows d data k (putBit d data s) (loopsFrom data k) := by
  have hbit : data &&& s.mask ≠ 0#8 ↔ data.getLsbD k = true := by
    rw [hmask]
    exact bitIsSet_ne_zero_iff hk data
  refine ⟨loopsFrom_of_lt data hk, ?_, ?_, hk, fun _ => hmask, by simp [putBit], hoff⟩
  · by_cases hset : data.getLsbD k = true
    · simp [putBit, held, hbit, hset, level_input hd]
    · rw [Bool.not_eq_true] at hset
      simp [putBit, held, hbit, hset, level_output hd s.pins s.pins.ddr hport]
  · simp only [putBit]
    split_ifs <;> exact hport

theorem follows_putParity (hk : k < 8) (hport : line d s.pins.port = false)
    (hoff : s.clockInterrupt = false) :
    Follows d data k (putParity d data s) (pulse (oddParity data) ++ acknowledgement) := by
  refine ⟨rfl, parity_level hd data s.pins hport, ?_, hk, by simp [putParity],
    by simp [putParity], hoff⟩
  simp only [putParity]
  split_ifs <;> exact hport

/-- Behind bit `k` comes the next bit, or the parity bit behind the last one. -/
theorem follows_nextBit (hk : k < 8) (hmask : s.mask = 1#8 <<< k)
    (hport : line d s.pins.port = false) (hoff : s.clockInterrupt = false) :
    ∃ later, Follows d data later (nextBit d data s) (loopsFrom data (k + 1)) := by
  have hshift : s.mask <<< 1 = 1#8 <<< (k + 1) := by
    rw [hmask]
    exact (BitVec.shiftLeft_add _ _ _).symm
  by_cases hlast : k + 1 < 8
  · have hne : s.mask <<< 1 ≠ 0#8 := by
      rw [hshift]
      exact shiftLeft_ne_zero (k + 1) hlast
    refine ⟨k + 1, ?_⟩
    simp only [nextBit, if_pos hne]
    exact follows_putBit hd hlast hshift hport hoff
  · obtain rfl : k = 7 := by omega
    have hzero : ¬ s.mask <<< 1 ≠ 0#8 := by
      rw [hshift]
      decide
    refine ⟨7, ?_⟩
    simp only [nextBit, if_neg hzero]
    exact follows_putParity hd (by decide) hport hoff

theorem follows_releaseData (hk : k < 8) (hoff : s.clockInterrupt = false) :
    Follows d data k (releaseData d s) acknowledgement := by
  refine ⟨rfl, ?_, line_cbi hd s.pins.port, hk, by simp [releaseData], by simp [releaseData], hoff⟩
  exact level_input hd { s.pins with port := cbi s.pins.port d } s.pins.ddr

end Follow

/-- A reading fits a loop when it ends it. -/
def Fits (reading : Reading) (loop : Loop) : Prop := Ends reading loop.wait

instance (reading : Reading) (loop : Loop) : Decidable (Fits reading loop) :=
  inferInstanceAs (Decidable (Ends reading loop.wait))

/-- The scanner of the loops. -/
def loopScanner : Machine (List Loop) Reading Loop := scanner Fits

/-- The function and the scanner after the same reading. -/
def Together (d : Nat) (data : U8) (next : Send × List Bool) (found : List Loop × List Loop) :
    Prop :=
  (∃ k, Follows d data k next.1 found.1) ∧ next.2 = found.2.filterMap Loop.level

section Step
variable {d : Nat} {data : U8} {k : Nat} {s : Send} {rest : List Loop} {loop : Loop}
  {reading : Reading}

/-- A reading that does not end the loop changes nothing. -/
theorem together_stays (h : Follows d data k s (loop :: rest)) (hstep : readPin d data s reading =
    (s, [])) (hends : ¬ Ends reading loop.wait) :
    Together d data (readPin d data s reading) (loopScanner.step (loop :: rest) reading) := by
  rw [hstep, loopScanner, step_waits (show ¬ Fits reading loop from hends)]
  exact ⟨⟨k, h⟩, rfl⟩

/-- A reading that ends the loop leads to the next one. -/
theorem together_moves (next : Send) {later : Nat} (h : Follows d data later next rest)
    (hstep : readPin d data s reading = (next, loop.level.toList))
    (hends : Ends reading loop.wait) :
    Together d data (readPin d data s reading) (loopScanner.step (loop :: rest) reading) := by
  rw [hstep, loopScanner, step_fits (show Fits reading loop from hends)]
  refine ⟨⟨later, h⟩, ?_⟩
  cases hlevel : loop.level <;> simp [hlevel]

/-- The next loop of the same round, with nothing new on the line. -/
theorem Follows.advance (point : Point) (later : List Loop) (h : Follows d data k s rest)
    (hlater : later = remaining data k point) (hheld : held data k s.point = held data k point)
    (hmask : point ∈ [.clockReleased, .clockTaken, .bitHigh, .bitLow] →
      s.point ∈ [.clockReleased, .clockTaken, .bitHigh, .bitLow])
    (hfirst : point = .clockReleased ∨ point = .clockTaken →
      s.point = .clockReleased ∨ s.point = .clockTaken)
    (hgoing : s.point ≠ .returned) (hmore : point ≠ .returned) :
    Follows d data k { s with point := point } later where
  rest_eq := hlater
  level := h.level.trans hheld
  port := h.port
  round := h.round
  mask hp := h.mask (hmask hp)
  first hp := h.first (hfirst hp)
  interrupt := by
    rw [h.interrupt, decide_eq_false hgoing]
    exact (decide_eq_false hmore).symm

/-- Every reading does to the function what it does to the scanner of its loops. -/
theorem follows_step (hd : d < 8) (h : Follows d data k s rest) (reading : Reading) :
    Together d data (readPin d data s reading) (loopScanner.step rest reading) := by
  obtain ⟨hrest, hlevel, hport, hround, hmask, hfirst, hinterrupt⟩ := id h
  obtain ⟨clock, acknowledge⟩ := reading
  obtain ⟨point, mask, pins, clockInterrupt⟩ := s
  cases point with
  | clockReleased =>
      obtain rfl : rest = ⟨.clockHigh, none⟩ :: ⟨.clockLow, some false⟩ :: loopsFrom data 0 := hrest
      cases clock with
      | false => exact together_stays h rfl Bool.false_ne_true
      | true =>
          refine together_moves _ (h.advance .clockTaken _ rfl rfl ?_ ?_ ?_ ?_) rfl rfl
          all_goals simp
  | clockTaken =>
      obtain rfl : rest = ⟨.clockLow, some false⟩ :: loopsFrom data 0 := hrest
      obtain rfl := hfirst (Or.inr rfl)
      cases clock with
      | true => exact together_stays h rfl Bool.noConfusion
      | false =>
          have hnext := @follows_putBit d hd data 0 _ hround (hmask (by simp)) hport hinterrupt
          refine together_moves _ hnext ?_ rfl
          exact congrArg (fun level => (putBit d data _, [level])) hlevel
  | bitHigh =>
      obtain rfl : rest = ⟨.clockHigh, none⟩ :: ⟨.clockLow, some (data.getLsbD k)⟩ ::
        loopsFrom data (k + 1) := hrest
      cases clock with
      | false => exact together_stays h rfl Bool.false_ne_true
      | true =>
          refine together_moves _ (h.advance .bitLow _ rfl rfl ?_ ?_ ?_ ?_) rfl rfl
          all_goals simp
  | bitLow =>
      obtain rfl : rest = ⟨.clockLow, some (data.getLsbD k)⟩ :: loopsFrom data (k + 1) := hrest
      cases clock with
      | true => exact together_stays h rfl Bool.noConfusion
      | false =>
          obtain ⟨later, hnext⟩ := follows_nextBit hd hround (hmask (by simp)) hport hinterrupt
          refine together_moves _ hnext ?_ rfl
          exact congrArg (fun level => (nextBit d data _, [level])) hlevel
  | parityHigh =>
      obtain rfl : rest = ⟨.clockHigh, none⟩ :: ⟨.clockLow, some (oddParity data)⟩ ::
        acknowledgement := hrest
      cases clock with
      | false => exact together_stays h rfl Bool.false_ne_true
      | true =>
          refine together_moves _ (h.advance .parityLow _ rfl rfl ?_ ?_ ?_ ?_) rfl rfl
          all_goals simp
  | parityLow =>
      obtain rfl : rest = ⟨.clockLow, some (oddParity data)⟩ :: acknowledgement := hrest
      cases clock with
      | true => exact together_stays h rfl Bool.noConfusion
      | false =>
          refine together_moves _ (follows_releaseData hd hround hinterrupt) ?_ rfl
          exact congrArg (fun level => (releaseData d _, [level])) hlevel
  | releasedHigh =>
      obtain rfl : rest = ⟨.clockHigh, none⟩ :: acknowledgement.drop 1 := hrest
      cases clock with
      | false => exact together_stays h rfl Bool.false_ne_true
      | true =>
          refine together_moves _ (h.advance .dataAcknowledged _ rfl rfl ?_ ?_ ?_ ?_) rfl rfl
          all_goals simp
  | dataAcknowledged =>
      obtain rfl : rest = ⟨.dataLow, none⟩ :: acknowledgement.drop 2 := hrest
      cases acknowledge with
      | true => exact together_stays h rfl Bool.noConfusion
      | false =>
          refine together_moves _ (h.advance .clockAcknowledged _ rfl rfl ?_ ?_ ?_ ?_) rfl rfl
          all_goals simp
  | clockAcknowledged =>
      obtain rfl : rest = ⟨.clockLow, some true⟩ :: acknowledgement.drop 3 := hrest
      cases clock with
      | true => exact together_stays h rfl Bool.noConfusion
      | false =>
          have hnext := h.advance .lineIdle (acknowledgement.drop 3) rfl rfl
            (by simp) (by simp) (by simp) (by simp)
          refine together_moves _ hnext ?_ rfl
          exact congrArg (fun level => (_, [level])) hlevel
  | lineIdle =>
      obtain rfl : rest = [⟨.clockHigh, none⟩] := hrest
      cases clock with
      | false => exact together_stays h rfl Bool.false_ne_true
      | true =>
          have hnext : Follows d data k ⟨.returned, mask, pins, true⟩ [] :=
            ⟨rfl, hlevel, hport, hround, by simp, by simp, rfl⟩
          exact together_moves _ hnext rfl rfl
  | returned =>
      obtain rfl : rest = [] := hrest
      exact ⟨⟨k, h⟩, rfl⟩

theorem remaining_eq_nil_iff (point : Point) : remaining data k point = [] ↔ point = .returned := by
  cases point <;> simp [remaining, loops, pulse, acknowledgement]

/-- Behind its return the function holds the line no longer. -/
theorem Follows.released (h : Follows d data k s rest) (hreturned : s.point = .returned) :
    line d s.pins.ddr = false ∧ line d s.pins.port = false := by
  have hlevel := h.level
  rw [hreturned] at hlevel
  refine ⟨?_, h.port⟩
  by_contra houtput
  rw [DataPort.level, if_pos (Bool.not_eq_false _ ▸ houtput), h.port] at hlevel
  exact Bool.false_ne_true hlevel

end Step

/-- A send whose loops read these levels: the host has held a front part of the levels
that the byte has on the line. The function returns exactly if what its loops wait for
comes in this order, whatever comes between; then the host has held all levels and the
line is released. The clock interrupt is on exactly behind the return. -/
structure Completes (d : Nat) (data : U8) (p : DataPort) (readings : List Reading) : Prop where
  levels : (handshake d data).outputs (beginSend d p) readings <+: (sendLine d data p).2
  returns : ((handshake d data).state (beginSend d p) readings).point = .returned ↔
    Holds Ends readings waits
  all : Holds Ends readings waits →
    (handshake d data).outputs (beginSend d p) readings = (sendLine d data p).2
  released : Holds Ends readings waits →
    line d ((handshake d data).state (beginSend d p) readings).pins.ddr = false ∧
      line d ((handshake d data).state (beginSend d p) readings).pins.port = false
  interrupt : ((handshake d data).state (beginSend d p) readings).clockInterrupt = true ↔
    Holds Ends readings waits

/-- The run of a send is that of the scanner of its loops. -/
theorem handshake_run {d : Nat} (hd : d < 8) (data : U8) (p : DataPort)
    (readings : List Reading) :
    (∃ k, Follows d data k ((handshake d data).state (beginSend d p) readings)
        (loopScanner.state (loops data) readings)) ∧
      (handshake d data).outputs (beginSend d p) readings =
        (loopScanner.outputs (loops data) readings).filterMap Loop.level := by
  have hrun := Machine.simulation (M := handshake d data) (N := loopScanner) (f := some)
    (g := Loop.level) (fun s rest => ∃ k, Follows d data k s rest)
    (fun s rest reading ⟨k, h⟩ => by
      obtain ⟨hnext, houtputs⟩ := follows_step hd h reading
      exact ⟨hnext, List.filterMap_some.trans houtputs⟩)
    ⟨0, follows_begin hd data p⟩ readings
  rwa [List.filterMap_some] at hrun

theorem completes {d : Nat} (hd : d < 8) (data : U8) (p : DataPort) (readings : List Reading) :
    Completes d data p readings := by
  obtain ⟨⟨k, hfollows⟩, houtputs⟩ := handshake_run hd data p readings
  have hpattern : loopScanner.outputs (loops data) readings ++
      loopScanner.state (loops data) readings = loops data := scanner_split (loops data) readings
  have hsplit := congrArg (List.filterMap Loop.level) hpattern
  rw [List.filterMap_append, loops_levels, ← sendLine_levels hd data p] at hsplit
  have hdone : loopScanner.state (loops data) readings = [] ↔ Holds Ends readings waits := by
    rw [← loops_waits data, ← holds_map]
    exact scanner_done_iff (loops data) readings
  have hreturns : ((handshake d data).state (beginSend d p) readings).point = .returned ↔
      Holds Ends readings waits := by
    rw [← hdone, hfollows.rest_eq, remaining_eq_nil_iff]
  refine ⟨?_, hreturns, ?_, fun h => hfollows.released (hreturns.mpr h), ?_⟩
  · rw [houtputs]
    exact ⟨_, hsplit⟩
  · intro h
    have hrest : loopScanner.state (loops data) readings = [] := hdone.mpr h
    rw [hrest, List.filterMap_nil, List.append_nil] at hsplit
    rw [houtputs]
    exact hsplit
  · rw [hfollows.interrupt, decide_eq_true_iff]
    exact hreturns

/-- Both drivers, for every byte, every state of the port and every course of the
two lines. -/
theorem handshakes_complete (data : U8) (p : DataPort) (readings : List Reading) :
    Completes MouseDriver.msDataBit data p readings ∧
      Completes KeyboardDriver.kbDataBit data p readings :=
  ⟨completes (by decide) data p readings, completes (by decide) data p readings⟩

end DiyPs3Controller.SendHandshake
