import DiyPs3Controller.Ps2.MouseDriver
import Mathlib.Data.List.Forall2

/-!
# The startup sequence of the mouse

The event filter with the calls that reset it from outside. Since the last
reset the filter has matched the table rows before its current one, in order,
and has sent their answers for the configuration in force, or it is in its
error state.
-/

namespace DiyPs3Controller.StartupSequence

open Reception UsbJoystick MouseDriver

/-- A scancode for the event filter, or one of the calls that reset it. -/
inductive FilterInput
  | scancode (b : U8)
  | mouseReset
  | setResolution (resolution : U8)
  | setFrequency (frequency : U8)
  | setScaling (scale : U8)
  deriving DecidableEq, Repr

/-- The event filter and its resets over the driver's variables. -/
def filterMachine : Machine Mouse FilterInput MsCall where
  step m
    | .scancode b => eventFilter m b
    | .mouseReset => msMouseReset m
    | .setResolution resolution => msSetResolution m resolution
    | .setFrequency frequency => msSetFrequency m frequency
    | .setScaling scale => msSetScaling m scale

/-- The byte of a `SendByte` call. -/
def sent? : MsCall → Option U8
  | .sendByte data => some data
  | _ => none

/-- What happened since the filter last entered state 0, or since power-on: the
table row it started from, the scancodes it read and the bytes it sent. -/
structure Log where
  row : Nat
  scancodes : List U8
  sent : List U8
  deriving DecidableEq, Repr

/-- The log after one input; entering state 0 starts a new one. -/
def Log.next (log : Log) (input : FilterInput) (after : Mouse × List MsCall) : Log :=
  if after.1.filter.state = 0#8 then { row := 0, scancodes := [], sent := [] }
  else
    { log with
        scancodes := log.scancodes ++ (match input with | .scancode b => [b] | _ => [])
        sent := log.sent ++ after.2.filterMap sent? }

/-- The driver with its log. -/
structure Logged where
  mouse : Mouse
  log : Log
  deriving DecidableEq

/-- `MS_Init` enters the table at row 1, which is state 2. -/
def powerOn : Logged := { mouse := msInit, log := { row := 1, scancodes := [], sent := [] } }

/-- The event filter and its resets, keeping the log. -/
def loggedMachine : Machine Logged FilterInput MsCall where
  step s input :=
    let after := filterMachine.step s.mouse input
    ({ mouse := after.1, log := s.log.next input after }, after.2)

/-- Keeping the log has no part in what the driver does. -/
theorem mouse_state (s : Logged) (inputs : List FilterInput) :
    (loggedMachine.state s inputs).mouse = filterMachine.state s.mouse inputs :=
  Machine.state_projection Logged.mouse (fun _ _ => ⟨rfl, rfl⟩) s inputs

/-- The number of rows of `ms_state_table`. -/
def rows : Nat := 26

/-- The bytes to receive, row by row. -/
def targets : List U8 := (List.range rows).map fun k => msStateTable.getD (2 * k) 0#8

/-- The bytes to answer, row by row. -/
def answers : List U8 := (List.range rows).map fun k => msStateTable.getD (2 * k + 1) 0#8

/-- What the rows before row `k` send for a configuration. -/
def sentBefore (c : Config) (k : Nat) : List U8 := (answers.take k).filterMap (reply c)

/-- The scancodes match the rows from `row` up to row `k`, one after the other. -/
def Acks (row k : Nat) (acks : List U8) : Prop :=
  List.Forall₂ (fun target b => accepts target b = true) ((targets.take k).drop row) acks

/-- The state of a row that is in the table. -/
theorem row_toNat {k : Nat} (hk : k < rows) : (BitVec.ofNat 8 (2 * k)).toNat = 2 * k := by
  simp only [rows] at hk
  simp only [BitVec.toNat_ofNat]
  omega

theorem row_lt {k : Nat} (hk : k < rows) : BitVec.ofNat 8 (2 * k) < 52#8 := by
  have hnat := row_toNat hk
  simp only [rows] at hk
  bv_omega

theorem row_succ (k : Nat) : BitVec.ofNat 8 (2 * k) + 2#8 = BitVec.ofNat 8 (2 * (k + 1)) := by
  rw [Nat.mul_succ, BitVec.ofNat_add]

theorem targets_getElem? {k : Nat} (hk : k < rows) :
    targets[k]? = some (msStateTable.getD (2 * k) 0#8) := by
  simp [targets, hk]

theorem sentBefore_succ (c : Config) {k : Nat} (hk : k < rows) :
    sentBefore c (k + 1) =
      sentBefore c k ++ (reply c (msStateTable.getD (2 * k + 1) 0#8)).toList := by
  have hget : answers[k]? = some (msStateTable.getD (2 * k + 1) 0#8) := by simp [answers, hk]
  rw [sentBefore, List.take_add_one, hget, List.filterMap_append, ← sentBefore]
  generalize msStateTable.getD (2 * k + 1) 0#8 = byte
  cases h : reply c byte <;> simp [h]

theorem acks_nil (row : Nat) : Acks row row [] := by
  simp [Acks]

theorem acks_concat {row k : Nat} {acks : List U8} {b : U8} (hk : k < rows) (hrow : row ≤ k)
    (h : Acks row k acks) (hb : accepts (msStateTable.getD (2 * k) 0#8) b = true) :
    Acks row (k + 1) (acks ++ [b]) := by
  have hlen : row ≤ (targets.take k).length := by
    simp only [List.length_take, targets, List.length_map, List.length_range]
    omega
  rw [Acks, List.take_add_one, targets_getElem? hk, List.drop_append_of_le_length hlen]
  exact List.rel_append h (List.Forall₂.cons hb List.Forall₂.nil)

/-- Row `k` is next: the rows from the start up to it are acknowledged and
answered. Scancodes beyond the acknowledgements come only after the last row. -/
structure AtRow (s : Logged) (k : Nat) : Prop where
  state : s.mouse.filter.state = BitVec.ofNat 8 (2 * k)
  le_rows : k ≤ rows
  row_le : s.log.row ≤ k
  acknowledged : ∃ acks stream, s.log.scancodes = acks ++ stream ∧ Acks s.log.row k acks ∧
    (k < rows → stream = [])
  answered : s.log.sent = sentBefore s.mouse.config k

/-- The filter follows the startup table or is in its error state. -/
structure Tracked (s : Logged) : Prop where
  table : s.mouse.filter.table = msStateTable
  size : s.mouse.filter.size = 52#8
  progress : s.mouse.filter.state = 0xFF#8 ∨ ∃ k, AtRow s k

theorem tracked_powerOn : Tracked powerOn where
  table := rfl
  size := rfl
  progress := Or.inr ⟨1, rfl, by decide, le_rfl, ⟨[], [], rfl, acks_nil 1, fun _ => rfl⟩, rfl⟩

/-- Entering state 0 starts over. -/
theorem tracked_entered {s : Logged} {input : FilterInput}
    (htable : (filterMachine.step s.mouse input).1.filter.table = msStateTable)
    (hsize : (filterMachine.step s.mouse input).1.filter.size = 52#8)
    (hstate : (filterMachine.step s.mouse input).1.filter.state = 0#8) :
    Tracked (loggedMachine.step s input).1 := by
  have hlog : (loggedMachine.step s input).1.log = { row := 0, scancodes := [], sent := [] } := by
    simp [loggedMachine, Log.next, hstate]
  refine ⟨htable, hsize, Or.inr ⟨0, hstate, Nat.zero_le _, ?_, ?_, ?_⟩⟩
  · rw [hlog]
  · rw [hlog]
    exact ⟨[], [], rfl, acks_nil 0, fun _ => rfl⟩
  · rw [hlog]
    rfl

theorem tracked_reset {s : Logged} {input : FilterInput} {m : Mouse}
    (hstep : filterMachine.step s.mouse input = resetState m)
    (htable : m.filter.table = msStateTable) (hsize : m.filter.size = 52#8) :
    Tracked (loggedMachine.step s input).1 :=
  tracked_entered (by rw [hstep]; exact htable) (by rw [hstep]; exact hsize) (by rw [hstep]; rfl)

/-- Past the table a scancode leaves the filter's place, the settings and the line alone. -/
theorem eventFilter_past {m : Mouse} (hp : Past m) (b : U8) :
    (eventFilter m b).1.filter.state = m.filter.state ∧
      (eventFilter m b).1.filter.size = m.filter.size ∧
      (eventFilter m b).1.filter.table = m.filter.table ∧
      (eventFilter m b).1.config = m.config ∧
      (eventFilter m b).2.filterMap sent? = [] := by
  have hstep := eventFilter_step m b
  generalize eventFilter m b = next at hstep ⊢
  cases hstep with
  | accepted hm => exact absurd hm.1 hp
  | retried hs | gaveUp hs => exact absurd hs hp
  | skipped | stored => exact ⟨rfl, rfl, rfl, rfl, rfl⟩
  | dispatched => exact ⟨rfl, rfl, rfl, rfl, by simp [sent?]⟩

/-- A filter inside the table stands on one of its rows. -/
theorem Tracked.row_of_inside {s : Logged} (h : Tracked s)
    (hin : s.mouse.filter.state < s.mouse.filter.size) : ∃ k, k < rows ∧ AtRow s k := by
  rw [h.size] at hin
  rcases h.progress with herror | ⟨k, hrow⟩
  · rw [herror] at hin
    exact absurd hin (by decide)
  · have hle := hrow.le_rows
    rw [hrow.state] at hin
    refine ⟨k, ?_, hrow⟩
    simp only [rows] at hle ⊢
    bv_omega

/-- A filter past the table stands behind its last row, if on any. -/
theorem Tracked.last_of_past {s : Logged} (h : Tracked s) (hp : Past s.mouse) {k : Nat}
    (hrow : AtRow s k) : k = rows := by
  have hle := hrow.le_rows
  rw [Past, hrow.state, h.size] at hp
  simp only [rows] at hle ⊢
  bv_omega

theorem tracked_past {s : Logged} (h : Tracked s) (hp : Past s.mouse) (b : U8) :
    Tracked (loggedMachine.step s (.scancode b)).1 := by
  obtain ⟨hstate, hsize, htable, hconfig, hsent⟩ := eventFilter_past hp b
  have hne : (eventFilter s.mouse b).1.filter.state ≠ 0#8 := by
    have hout : ¬ s.mouse.filter.state < s.mouse.filter.size := hp
    rw [hstate]
    intro hzero
    rw [hzero, h.size] at hout
    exact hout (by decide)
  have hlog : (loggedMachine.step s (.scancode b)).1.log =
      { s.log with scancodes := s.log.scancodes ++ [b] } := by
    simp [loggedMachine, filterMachine, Log.next, hne, hsent]
  refine ⟨htable.trans h.table, hsize.trans h.size, ?_⟩
  rcases h.progress with herror | ⟨k, hrow⟩
  · exact Or.inl (hstate.trans herror)
  · have hlast : ¬ k < rows := Nat.not_lt_of_le (h.last_of_past hp hrow).ge
    obtain ⟨acks, stream, hsplit, hacks, -⟩ := hrow.acknowledged
    refine Or.inr ⟨k, hstate.trans hrow.state, hrow.le_rows, ?_, ?_, ?_⟩
    · rw [hlog]
      exact hrow.row_le
    · rw [hlog]
      exact ⟨acks, stream ++ [b], by simp [hsplit], hacks, fun hk => absurd hk hlast⟩
    · rw [hlog]
      exact hrow.answered.trans (congrArg (sentBefore · k) hconfig.symm)

section Match
variable {s : Logged} {k : Nat} (hk : k < rows) (hrow : AtRow s k)
include hk hrow

theorem row_state_toNat : s.mouse.filter.state.toNat = 2 * k := by
  rw [hrow.state, row_toNat hk]

/-- The row after one that is in the table is not the first. -/
theorem row_next_ne : s.mouse.filter.state + 2#8 ≠ 0#8 := by
  rw [hrow.state]
  simp only [rows] at hk
  bv_omega

/-- A match logs its scancode and the answer of its row. -/
theorem match_log (htable : s.mouse.filter.table = msStateTable) {b : U8}
    (hm : Matches s.mouse b) :
    (loggedMachine.step s (.scancode b)).1.log =
      { s.log with
          scancodes := s.log.scancodes ++ [b]
          sent := s.log.sent ++
            (reply s.mouse.config (msStateTable.getD (2 * k + 1) 0#8)).toList } := by
  have hne := row_next_ne hk hrow
  have hstep := eventFilter_match hm
  rw [htable, row_state_toNat hk hrow] at hstep
  simp only [loggedMachine, filterMachine, Log.next, hstep, hne, if_false, answer_calls]
  simp [sent?, Function.comp_def, List.filterMap_map]

end Match

/-- A match moves the filter on, within the same table and settings. -/
theorem match_mouse {s : Logged} {b : U8} (hm : Matches s.mouse b) :
    (loggedMachine.step s (.scancode b)).1.mouse.filter =
        { s.mouse.filter with state := s.mouse.filter.state + 2#8 } ∧
      (loggedMachine.step s (.scancode b)).1.mouse.config = s.mouse.config := by
  simp only [loggedMachine, filterMachine, eventFilter_match hm, answer_config, and_self]

theorem tracked_match {s : Logged} (h : Tracked s) {b : U8} (hm : Matches s.mouse b) :
    Tracked (loggedMachine.step s (.scancode b)).1 := by
  obtain ⟨k, hk, hrow⟩ := h.row_of_inside hm.1
  obtain ⟨acks, stream, hsplit, hacks, hstream⟩ := hrow.acknowledged
  obtain ⟨hfilter, hconfig⟩ := match_mouse hm
  have hlog := match_log hk hrow h.table hm
  have haccept := hm.2
  rw [h.table, row_state_toNat hk hrow] at haccept
  refine ⟨?_, ?_, Or.inr ⟨k + 1, ?_, hk, ?_, ?_, ?_⟩⟩
  · rw [hfilter]
    exact h.table
  · rw [hfilter]
    exact h.size
  · rw [hfilter, ← row_succ, ← hrow.state]
  · rw [hlog]
    exact hrow.row_le.trans (Nat.le_succ k)
  · rw [hlog]
    refine ⟨acks ++ [b], [], ?_, acks_concat hk hrow.row_le hacks haccept, fun _ => rfl⟩
    simp [hsplit, hstream hk]
  · rw [hlog, hconfig, sentBefore_succ _ hk]
    simp only [hrow.answered]

/-- Every scancode and every reset keeps the filter on the table or in its error state. -/
theorem tracked_step (s : Logged) (input : FilterInput) (h : Tracked s) :
    Tracked (loggedMachine.step s input).1 := by
  cases input with
  | mouseReset => exact tracked_reset rfl h.table h.size
  | setResolution resolution => exact tracked_reset rfl h.table h.size
  | setFrequency frequency => exact tracked_reset rfl h.table h.size
  | setScaling scale => exact tracked_reset rfl h.table h.size
  | scancode b =>
      by_cases hp : s.mouse.filter.state < s.mouse.filter.size
      · by_cases hm : Matches s.mouse b
        · exact tracked_match h hm
        by_cases hr : s.mouse.filter.retry < 5#8
        · exact tracked_reset (eventFilter_retry hp hm hr) h.table h.size
        · have hstep : filterMachine.step s.mouse (.scancode b) = _ := eventFilter_giveUp hp hm hr
          refine ⟨?_, ?_, Or.inl ?_⟩
          · simpa only [loggedMachine, hstep] using h.table
          · simpa only [loggedMachine, hstep] using h.size
          · simp only [loggedMachine, hstep]
      · exact tracked_past h hp b

theorem tracked_run (inputs : List FilterInput) : Tracked (loggedMachine.state powerOn inputs) :=
  Machine.state_of_step tracked_step tracked_powerOn inputs

end DiyPs3Controller.StartupSequence
