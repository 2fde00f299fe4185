import DiyPs3Controller.Foundations.Stopwatches
import DiyPs3Controller.Tools.SixemulatUsb

/-!
# The latency of one device

`sixemulat` and `sixemulat2` read the lines of usbmon as a stopwatch: a click of
the mouse starts it, the next press of r1 on the other device stops it, and the
release of the mouse button sets it back. They differ in the device and in the
text of a press.
-/

namespace DiyPs3Controller.Sixemulat

open SixemulatUsb (strstr sscanf mousePressed mouseReleased records)
open Stopwatches

/-- `mouse` and `sixemu`, and the text of a press. -/
structure Ids where
  mouse : List Char
  sixemu : List Char
  pressed : List Char

/-- What `sixemulat` looks for; an address is the text of a bus and a device id. -/
def sixemulatIds (mouse dongle : List Char) : Ids :=
  ⟨"Ii:".toList ++ mouse, "Bo:".toList ++ dongle, "0000ff00".toList⟩

/-- What `sixemulat2` looks for. -/
def sixemulat2Ids (mouse joystick : List Char) : Ids :=
  ⟨"Ii:".toList ++ mouse, "Ii:".toList ++ joystick, "08002000".toList⟩

/-- The variables of the loop; `stopped` is the `break`. -/
structure Monitor where
  i : Nat
  tclic : U32
  tr1 : U32
  done : Bool
  stopped : Bool
  deriving DecidableEq, Repr

/-- `tclic`, `tr1` and `tdiff[i]` -/
structure Sample where
  tclic : U32
  tr1 : U32
  tdiff : U32
  deriving DecidableEq, Repr

namespace Monitor

def init : Monitor := ⟨0, 0#32, 0#32, false, false⟩

/-- The branch of the mouse. -/
def readMouse (line : List Char) (m : Monitor) : Monitor :=
  if strstr line mousePressed then
    if m.tclic = 0#32 ∧ m.done = false then { m with tclic := (sscanf line).getD m.tclic } else m
  else if strstr line mouseReleased then { m with tclic := 0#32, done := false }
  else m

/-- The branch of the other device. -/
def readSixemu (pressed line : List Char) (m : Monitor) : Monitor × List Sample :=
  if strstr line pressed then
    if m.tclic ≠ 0#32 ∧ m.done = false then
      let m := { m with tr1 := (sscanf line).getD m.tr1 }
      if m.i < records then
        ({ m with i := m.i + 1, done := true }, [⟨m.tclic, m.tr1, m.tr1 - m.tclic⟩])
      else ({ m with stopped := true }, [])
    else (m, [])
  else (m, [])

end Monitor

/-- The loop of `main`. -/
def main (ids : Ids) : Machine Monitor (List Char) Sample where
  step m line :=
    if m.stopped then (m, [])
    else if strstr line ids.mouse then (m.readMouse line, [])
    else if strstr line ids.sixemu then m.readSixemu ids.pressed line
    else (m, [])

/-- The latencies that a run stores. -/
def latencies (ids : Ids) (lines : List (List Char)) : List U32 :=
  ((main ids).outputs .init lines).map Sample.tdiff

/-- `results` -/
def results (temp : U32) (tdiff : Nat → U32) : Option Latencies.Report :=
  Latencies.statistics (BitVec.ofNat 32 records) temp tdiff

/-! ## The stopwatch -/

/-- The time of a line. -/
def stamp (line : List Char) : U32 := (sscanf line).getD 0#32

/-- What a line is to the stopwatch. A click at time 0 is not noticed. -/
def mark (ids : Ids) (line : List Char) : Mark U32 :=
  if strstr line ids.mouse then
    if strstr line mousePressed then if stamp line = 0#32 then .other else .start (stamp line)
    else if strstr line mouseReleased then .release
    else .other
  else if strstr line ids.sixemu then
    if strstr line ids.pressed then .stop (stamp line) else .other
  else .other

def sampleOf (lap : U32 × U32) : Sample := ⟨lap.1, lap.2, lap.2 - lap.1⟩

/-- The monitor is in a phase of the stopwatch. -/
def Shows (m : Monitor) : Phase U32 → Prop
  | .waiting => m.tclic = 0#32 ∧ m.done = false
  | .timing t => m.tclic = t ∧ t ≠ 0#32 ∧ m.done = false
  | .measured => m.tclic ≠ 0#32 ∧ m.done = true

/-- The samples of a run, as far as there is room for them, are the laps between the
releases of the mouse button. What is printed of them is right exactly if no press has
the time of its click, the sum fits an `int` and there is not just one, and then the
accumulator has not wrapped either. -/
structure Measures (ids : Ids) (lines : List (List Char)) : Prop where
  sessions : (main ids).outputs .init lines =
    ((((lines.map (mark ids)).splitOnP Mark.isRelease).filterMap lap).map sampleOf).take records
  count : ((main ids).outputs .init lines).length ≤
    ((lines.map (mark ids)).splitOnP Mark.isRelease).length
  printed (temp : U32) :
    Latencies.Reported (latencies ids lines)
        (results temp (Latencies.samples (latencies ids lines))) ↔
      (∀ sample ∈ (main ids).outputs .init lines, sample.tr1 ≠ sample.tclic) ∧
        Latencies.total (latencies ids lines) < 2147483648 ∧
        ((main ids).outputs .init lines).length ≠ 1
  report (temp : U32) :
    Latencies.Covers (latencies ids lines)
        (results temp (Latencies.samples (latencies ids lines))) ↔
      (∀ sample ∈ (main ids).outputs .init lines, sample.tr1 ≠ sample.tclic) ∧
        Latencies.total (latencies ids lines) < 2147483648 ∧
        ((main ids).outputs .init lines).length ≠ 1

section Step
variable {ids : Ids} {line : List Char} {m : Monitor} {phase : Phase U32}

/-- A line of the mouse moves both alike. -/
theorem shows_readMouse (hmouse : strstr line ids.mouse = true) (h : Shows m phase) :
    Shows (m.readMouse line) (stopwatch.step phase (mark ids line)).1 ∧
      (stopwatch.step phase (mark ids line)).2 = [] := by
  rw [mark, if_pos hmouse, Monitor.readMouse]
  by_cases hpressed : strstr line mousePressed = true
  · rw [if_pos hpressed, if_pos hpressed]
    cases phase with
    | waiting =>
        have hidle : m.tclic = 0#32 ∧ m.done = false := h
        rw [if_pos hidle, hidle.1, ← stamp]
        by_cases hzero : stamp line = 0#32
        · rw [if_pos hzero]
          exact ⟨⟨hzero, h.2⟩, rfl⟩
        · rw [if_neg hzero]
          exact ⟨⟨rfl, hzero, h.2⟩, rfl⟩
    | timing t' =>
        rw [if_neg fun hidle => h.2.1 (h.1.symm.trans hidle.1)]
        split_ifs <;> exact ⟨h, rfl⟩
    | measured =>
        rw [if_neg fun hidle => h.1 hidle.1]
        split_ifs <;> exact ⟨h, rfl⟩
  · rw [if_neg hpressed, if_neg hpressed]
    by_cases hreleased : strstr line mouseReleased = true
    · rw [if_pos hreleased, if_pos hreleased]
      cases phase <;> exact ⟨⟨rfl, rfl⟩, rfl⟩
    · rw [if_neg hreleased, if_neg hreleased]
      cases phase <;> exact ⟨h, rfl⟩

theorem readMouse_keeps (line : List Char) (m : Monitor) :
    (m.readMouse line).i = m.i ∧ (m.readMouse line).stopped = m.stopped := by
  unfold Monitor.readMouse
  split_ifs <;> exact ⟨rfl, rfl⟩

/-- What a line does to the monitor and to the stopwatch. -/
inductive Moves (m : Monitor) : Monitor × List Sample → Phase U32 × List (U32 × U32) → Prop
  | quiet {m' : Monitor} {phase' : Phase U32} (hcount : m'.i = m.i) (hruns : m'.stopped = false)
      (hshows : Shows m' phase') : Moves m (m', []) (phase', [])
  | sampled {m' : Monitor} {phase' : Phase U32} {lap : U32 × U32} (hroom : m.i < records)
      (hcount : m'.i = m.i + 1) (hruns : m'.stopped = false) (hshows : Shows m' phase') :
      Moves m (m', [sampleOf lap]) (phase', [lap])
  | full {m' : Monitor} {moved : Phase U32 × List (U32 × U32)} (hfull : ¬m.i < records)
      (hstopped : m'.stopped = true) : Moves m (m', []) moved

/-- A line of the other device stops both alike, if there is room for the sample. -/
theorem moves_readSixemu (hstamp : strstr line ids.pressed = true → (sscanf line).isSome)
    (hmouse : ¬strstr line ids.mouse = true) (hsixemu : strstr line ids.sixemu = true)
    (hruns : m.stopped = false) (h : Shows m phase) :
    Moves m (m.readSixemu ids.pressed line) (stopwatch.step phase (mark ids line)) := by
  rw [mark, if_neg hmouse, if_pos hsixemu, Monitor.readSixemu]
  by_cases hpressed : strstr line ids.pressed = true
  · obtain ⟨t, ht⟩ := Option.isSome_iff_exists.mp (hstamp hpressed)
    have htime : stamp line = t := by rw [stamp, ht, Option.getD_some]
    rw [if_pos hpressed, if_pos hpressed, htime, ht]
    cases phase with
    | waiting =>
        rw [if_neg fun hrunning => hrunning.1 h.1]
        exact .quiet rfl hruns h
    | timing start =>
        obtain ⟨rfl, hstarted, hdone⟩ := h
        rw [if_pos ⟨hstarted, hdone⟩]
        dsimp only
        by_cases hroom : m.i < records
        · rw [if_pos hroom]
          have hshows : Shows { m with i := m.i + 1, tr1 := t, done := true } .measured :=
            ⟨hstarted, rfl⟩
          change Moves m (_, [sampleOf (m.tclic, t)]) (.measured, [(m.tclic, t)])
          refine .sampled hroom ?_ ?_ hshows
          · rfl
          · exact hruns
        · rw [if_neg hroom]
          exact .full hroom rfl
    | measured =>
        have hdone : m.done = true := h.2
        rw [if_neg fun hrunning => by rw [hdone] at hrunning; cases hrunning.2]
        exact .quiet rfl hruns h
  · rw [if_neg hpressed, if_neg hpressed]
    cases phase <;> exact .quiet rfl hruns h

/-- Each line moves the monitor as it moves the stopwatch. -/
theorem moves_step (hstamp : strstr line ids.pressed = true → (sscanf line).isSome)
    (hruns : m.stopped = false) (h : Shows m phase) :
    Moves m ((main ids).step m line) (stopwatch.step phase (mark ids line)) := by
  have hrunning : ¬m.stopped = true := by rw [hruns]; decide
  simp only [main, if_neg hrunning]
  by_cases hmouse : strstr line ids.mouse = true
  · rw [if_pos hmouse]
    obtain ⟨hshows, hsilent⟩ := shows_readMouse hmouse h
    obtain ⟨hcount, hstopped⟩ := readMouse_keeps line m
    have hmoved : stopwatch.step phase (mark ids line) =
        ((stopwatch.step phase (mark ids line)).1, []) := Prod.ext rfl hsilent
    rw [hmoved]
    exact .quiet hcount (hstopped.trans hruns) hshows
  · rw [if_neg hmouse]
    by_cases hsixemu : strstr line ids.sixemu = true
    · rw [if_pos hsixemu]
      exact moves_readSixemu hstamp hmouse hsixemu hruns h
    · rw [if_neg hsixemu, mark, if_neg hmouse, if_neg hsixemu]
      cases phase <;> exact .quiet rfl hruns h

/-- Behind the `break` nothing is sampled. -/
theorem outputs_stopped (hstopped : m.stopped = true) (lines : List (List Char)) :
    (main ids).outputs m lines = [] := by
  induction lines with
  | nil => rfl
  | cons line rest ih =>
      have hstep : (main ids).step m line = (m, []) := if_pos hstopped
      rw [Machine.outputs_cons, hstep, ih]
      rfl

/-- The samples are the laps of the stopwatch, as far as there is room for them. -/
theorem outputs_laps {lines : List (List Char)}
    (hstamps : ∀ line ∈ lines, strstr line ids.pressed = true → (sscanf line).isSome)
    (hruns : m.stopped = false) (h : Shows m phase) :
    (main ids).outputs m lines =
      ((stopwatch.outputs phase (lines.map (mark ids))).map sampleOf).take (records - m.i) := by
  induction lines generalizing m phase with
  | nil => rw [List.map_nil, Machine.outputs_nil, Machine.outputs_nil, List.map_nil, List.take_nil]
  | cons line rest ih =>
      obtain ⟨hstamp, hrest⟩ := List.forall_mem_cons.mp hstamps
      have hmoves : Moves m ((main ids).step m line) (stopwatch.step phase (mark ids line)) :=
        moves_step hstamp hruns h
      rw [List.map_cons, Machine.outputs_cons, Machine.outputs_cons]
      generalize (main ids).step m line = next at hmoves ⊢
      generalize stopwatch.step phase (mark ids line) = moved at hmoves ⊢
      cases hmoves with
      | quiet hcount hruns' hshows =>
          rw [ih hrest hruns' hshows, hcount]
          rfl
      | sampled hroom hcount hruns' hshows =>
          have hleft : records - m.i = records - (m.i + 1) + 1 := by omega
          rw [ih hrest hruns' hshows, hcount, hleft]
          rfl
      | full hfull hstopped =>
          have hleft : records - m.i = 0 := by omega
          rw [outputs_stopped hstopped, hleft, List.take_zero]
          rfl

end Step

/-- Every sample of a run is that of a lap. -/
theorem tdiff_of_laps {laps : List (U32 × U32)} {shown : List Sample}
    (h : shown = (laps.map sampleOf).take records) :
    shown.length ≤ records ∧ ∀ sample ∈ shown, sample.tdiff = sample.tr1 - sample.tclic := by
  refine ⟨h ▸ List.length_take_le _ _, fun sample hsample => ?_⟩
  rw [h] at hsample
  obtain ⟨found, -, rfl⟩ := List.mem_map.mp (List.mem_of_mem_take hsample)
  rfl

section Report
variable {shown : List Sample}

/-- A latency is zero if the press has the time of the click. -/
theorem tdiff_ne_zero_iff
    (hdiff : ∀ sample ∈ shown, sample.tdiff = sample.tr1 - sample.tclic) :
    (∀ d ∈ shown.map Sample.tdiff, d ≠ 0#32) ↔ ∀ sample ∈ shown, sample.tr1 ≠ sample.tclic := by
  rw [List.forall_mem_map]
  refine forall₂_congr fun sample hsample => not_congr ?_
  rw [hdiff sample hsample, BitVec.sub_eq_iff_eq_add, BitVec.zero_add]

variable (fits : shown.length ≤ records)
  (hdiff : ∀ sample ∈ shown, sample.tdiff = sample.tr1 - sample.tclic) (temp : U32)
include fits hdiff

theorem reported_iff :
    Latencies.Reported (shown.map Sample.tdiff)
        (results temp (Latencies.samples (shown.map Sample.tdiff))) ↔
      (∀ sample ∈ shown, sample.tr1 ≠ sample.tclic) ∧
        Latencies.total (shown.map Sample.tdiff) < 2147483648 ∧ shown.length ≠ 1 := by
  have hbound : (shown.map Sample.tdiff).length ≤ (BitVec.ofNat 32 records).toNat := by
    rw [List.length_map]
    exact fits
  rw [results, Latencies.reported_statistics_iff hbound, tdiff_ne_zero_iff hdiff, List.length_map]

/-- A report that is right is reached without a wrap of the accumulator. -/
theorem covers_iff :
    Latencies.Covers (shown.map Sample.tdiff)
        (results temp (Latencies.samples (shown.map Sample.tdiff))) ↔
      (∀ sample ∈ shown, sample.tr1 ≠ sample.tclic) ∧
        Latencies.total (shown.map Sample.tdiff) < 2147483648 ∧ shown.length ≠ 1 := by
  have hbound : (shown.map Sample.tdiff).length ≤ (BitVec.ofNat 32 records).toNat := by
    rw [List.length_map]
    exact fits
  rw [results, Latencies.covers_statistics_iff hbound, tdiff_ne_zero_iff hdiff, List.length_map]

end Report

/-- If every press carries a time, then whatever the lines are and in whatever order, the
monitor takes one sample at most between two releases of the mouse button: from the
first click on to the first press of r1 behind it. What it prints of these samples is
right exactly if no press has the time of its click, the sum of the latencies fits an
`int` and there is not just one. -/
theorem measures (ids : Ids) {lines : List (List Char)}
    (hstamps : ∀ line ∈ lines, strstr line ids.pressed = true → (sscanf line).isSome) :
    Measures ids lines := by
  have hinit : Shows .init .waiting := ⟨rfl, rfl⟩
  have hsamples : (main ids).outputs .init lines =
      ((stopwatch.outputs .waiting (lines.map (mark ids))).map sampleOf).take records :=
    outputs_laps hstamps rfl hinit
  rw [stopwatch_sessions] at hsamples
  have hcount : ((main ids).outputs .init lines).length ≤
      ((lines.map (mark ids)).splitOnP Mark.isRelease).length := by
    rw [hsamples]
    calc
      _ ≤ ((((lines.map (mark ids)).splitOnP Mark.isRelease).filterMap lap).map sampleOf).length :=
        List.length_take_le' _ _
      _ = (((lines.map (mark ids)).splitOnP Mark.isRelease).filterMap lap).length :=
        List.length_map _
      _ ≤ ((lines.map (mark ids)).splitOnP Mark.isRelease).length := List.length_filterMap_le _ _
  obtain ⟨fits, hdiff⟩ := tdiff_of_laps hsamples
  exact ⟨hsamples, hcount, reported_iff fits hdiff, covers_iff fits hdiff⟩

/-- A click, two presses behind it, the release, and a press without a click. -/
def clickLines (device press : List Char) : List (List Char) :=
  ["a 5 C Ii:1:002:1 = 01".toList, "a 7 ".toList ++ device ++ press,
    "a 8 ".toList ++ device ++ press, "a 9 C Ii:1:002:1 = 00".toList,
    "a 9 ".toList ++ device ++ press]

theorem measures_click :
    (let ids := sixemulatIds "1:002".toList "1:003".toList
     let lines := clickLines "Bo:1:003".toList "0000ff00".toList
     Measures ids lines ∧ (main ids).outputs .init lines = [⟨5#32, 7#32, 2#32⟩]) ∧
    (let ids := sixemulat2Ids "1:002".toList "1:003".toList
     let lines := clickLines "Ii:1:003".toList "08002000".toList
     Measures ids lines ∧ (main ids).outputs .init lines = [⟨5#32, 7#32, 2#32⟩]) :=
  ⟨⟨measures _ (by decide +kernel), by decide +kernel⟩,
    measures _ (by decide +kernel), by decide +kernel⟩

end DiyPs3Controller.Sixemulat
