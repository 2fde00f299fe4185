import DiyPs3Controller.Ps2.StartupTranscript
import Mathlib.Tactic.IntervalCases

/-!
# The pointing device behind the driver

The mouse as the comments of `MouseDriver.c` describe it: what it answers to
each command, which sample rates it takes, how three of them in a row turn on
the wheel of a device that has one, and that it reports nothing before it is
told to. What it answers to anything else is left open.
-/

namespace DiyPs3Controller.PointingDevice

open MouseDriver StartupSequence StartupTranscript

/-- The setting that the next byte from the host is for. -/
inductive Setting
  | resolution
  | rate
  deriving DecidableEq, Repr

/-- The device; the sample rates set since the last reset have the latest first. -/
structure Device where
  wheel : Bool
  awaited : Option Setting
  resolution : U8
  rates : List U8
  twoToOne : Bool
  wheelMode : Bool
  reporting : Bool
  deriving DecidableEq, Repr

/-- The device after power-on or a reset, with its default settings. -/
def Device.fresh (wheel : Bool) : Device where
  wheel := wheel
  awaited := none
  resolution := 2#8
  rates := []
  twoToOne := false
  wheelMode := false
  reporting := false

/-- The sample rates that the device takes. -/
def validRates : List U8 := [10#8, 20#8, 40#8, 60#8, 80#8, 100#8, 200#8]

/-- The last rates that turn on the wheel, latest first. -/
def wheelRates : List U8 := [80#8, 100#8, 200#8]

variable (refusal : U8 → List U8)

/-- The device reads a byte from the host and answers it. -/
def receive (d : Device) (byte : U8) : Device × List U8 :=
  match d.awaited with
  | some .resolution =>
      if byte ≤ 3#8 then ({ d with awaited := none, resolution := byte }, [0xFA#8])
      else ({ d with awaited := none }, refusal byte)
  | some .rate =>
      if byte ∈ validRates then
        let rates := byte :: d.rates
        ({ d with
            awaited := none
            rates := rates
            wheelMode := d.wheelMode || (d.wheel && rates.take 3 == wheelRates) }, [0xFA#8])
      else ({ d with awaited := none }, refusal byte)
  | none =>
      if byte = 0xFF#8 then (Device.fresh d.wheel, [0xFA#8, 0xAA#8, 0x00#8])
      else if byte = 0xE6#8 then ({ d with twoToOne := false }, [0xFA#8])
      else if byte = 0xE7#8 then ({ d with twoToOne := true }, [0xFA#8])
      else if byte = 0xE8#8 then ({ d with awaited := some .resolution }, [0xFA#8])
      else if byte = 0xF2#8 then (d, [0xFA#8, if d.wheelMode then 0x03#8 else 0x00#8])
      else if byte = 0xF3#8 then ({ d with awaited := some .rate }, [0xFA#8])
      else if byte = 0xF4#8 then ({ d with reporting := true }, [0xFA#8])
      else (d, refusal byte)

/-- The device on one byte from the host after the other. -/
def deviceMachine : Machine Device U8 U8 where
  step := receive refusal

/-- A movement packet; bit 3 of its header is always set. -/
def Device.report (d : Device) (header x y z : U8) : List U8 :=
  (header ||| 0x08#8) :: x :: y :: if d.wheelMode then [z] else []

section Receive
variable {refusal} {d : Device}

theorem receive_reset (h : d.awaited = none) :
    receive refusal d 0xFF#8 = (Device.fresh d.wheel, [0xFA#8, 0xAA#8, 0x00#8]) := by
  simp [receive, h]

theorem receive_setRate (h : d.awaited = none) :
    receive refusal d 0xF3#8 = ({ d with awaited := some .rate }, [0xFA#8]) := by
  simp [receive, h]

/-- A valid rate becomes the latest one and may turn on the wheel. -/
theorem receive_rate (h : d.awaited = some .rate) {byte : U8} (hbyte : byte ∈ validRates) :
    receive refusal d byte =
      ({ d with
          awaited := none
          rates := byte :: d.rates
          wheelMode := d.wheelMode || (d.wheel && (byte :: d.rates).take 3 == wheelRates) },
        [0xFA#8]) := by
  simp only [receive, h, if_pos hbyte]

theorem receive_identify (h : d.awaited = none) :
    receive refusal d 0xF2#8 = (d, [0xFA#8, if d.wheelMode then 0x03#8 else 0x00#8]) := by
  simp [receive, h]

theorem receive_setResolution (h : d.awaited = none) :
    receive refusal d 0xE8#8 = ({ d with awaited := some .resolution }, [0xFA#8]) := by
  simp [receive, h]

theorem receive_resolution (h : d.awaited = some .resolution) {byte : U8} (hbyte : byte ≤ 3#8) :
    receive refusal d byte = ({ d with awaited := none, resolution := byte }, [0xFA#8]) := by
  simp only [receive, h, if_pos hbyte]

theorem receive_scaling (h : d.awaited = none) (oneToOne : Prop) [Decidable oneToOne] :
    receive refusal d (if oneToOne then 0xE6#8 else 0xE7#8) =
      ({ d with twoToOne := !decide oneToOne }, [0xFA#8]) := by
  by_cases hscale : oneToOne <;> simp [receive, h, hscale]

theorem receive_enable (h : d.awaited = none) :
    receive refusal d 0xF4#8 = ({ d with reporting := true }, [0xFA#8]) := by
  simp [receive, h]

/-- Only one command turns on the reports. -/
theorem receive_reporting {byte : U8} (hbyte : byte ≠ 0xF4#8) (h : d.reporting = false) :
    (receive refusal d byte).1.reporting = false := by
  unfold receive
  split
  · split_ifs <;> exact h
  · split_ifs <;> exact h
  · split_ifs
    any_goals exact h
    rfl

end Receive

variable (w : Bool) (c : Config)

/-- The device when the rows before row `k` have been answered. -/
def deviceAt (k : Nat) : Device :=
  (deviceMachine refusal).state (Device.fresh w) (sentBefore c k)

/-- What the device has sent by then, from the answer to the reset on. -/
def repliesAt (k : Nat) : List U8 :=
  [0xFA#8, 0xAA#8, 0x00#8] ++ (deviceMachine refusal).outputs (Device.fresh w) (sentBefore c k)

/-- What of it is still on the line when each row has read one byte. -/
def lineAt (k : Nat) : List U8 := (repliesAt refusal w c k).drop k

/-- The settings that the startup commands ask for. -/
def Device.configured : Device where
  wheel := w
  awaited := none
  resolution := c.resolution.setWidth 8
  rates := [c.frequency, 80#8, 100#8, 200#8]
  twoToOne := !decide (c.scale = 1#2)
  wheelMode := w
  reporting := true

/-- What the device answers to each of the startup commands. -/
def startupReplies : List (List U8) :=
  [[0xFA#8, 0xAA#8, 0x00#8], [0xFA#8, 0xAA#8, 0x00#8], [0xFA#8, 0xAA#8, 0x00#8],
    [0xFA#8], [0xFA#8], [0xFA#8], [0xFA#8], [0xFA#8], [0xFA#8],
    [0xFA#8, if w then 0x03#8 else 0x00#8],
    [0xFA#8], [0xFA#8], [0xFA#8], [0xFA#8], [0xFA#8], [0xFA#8]]

section Valid
variable {w c} (hrate : c.frequency ∈ validRates)
include hrate

/-- The startup commands leave the device configured, and it has answered each of them. -/
theorem startup_run :
    (deviceMachine refusal).state (Device.fresh w) (startupBytes c) = Device.configured w c ∧
      (deviceMachine refusal).turns (Device.fresh w) (startupBytes c) = startupReplies w := by
  have h200 : (200#8 : U8) ∈ validRates := by decide
  have h100 : (100#8 : U8) ∈ validRates := by decide
  have h80 : (80#8 : U8) ∈ validRates := by decide
  have hresolution : c.resolution.setWidth 8 ≤ 3#8 := by bv_omega
  constructor
  · simp [startupBytes, deviceMachine, receive_reset, receive_setRate, receive_rate,
      receive_identify, receive_setResolution, receive_resolution, receive_scaling,
      receive_enable, hrate, hresolution, h200, h100, h80, Device.configured, Device.fresh,
      wheelRates]
  · simp [startupBytes, deviceMachine, receive_reset, receive_setRate, receive_rate,
      receive_identify, receive_setResolution, receive_resolution, receive_scaling,
      receive_enable, hrate, hresolution, h200, h100, h80, startupReplies, Device.fresh,
      wheelRates]

end Valid

/-- How many bytes the rows before row `k` send. -/
def sends (k : Nat) : Nat := ((answers.take k).filter (· ≠ 0x00#8)).length

/-- Every answer but 0 sends one byte. -/
theorem reply_eq_none_iff {byte : U8} : reply c byte = none ↔ byte = 0x00#8 := by
  constructor
  · intro h
    simp only [reply] at h
    split_ifs at h with h1 h2 h3 h4
    bv_omega
  · rintro rfl
    rfl

theorem length_filterMap_reply (bytes : List U8) :
    (bytes.filterMap (reply c)).length = (bytes.filter (· ≠ 0x00#8)).length := by
  induction bytes with
  | nil => rfl
  | cons byte rest ih =>
      cases h : reply c byte with
      | none =>
          have hzero := (reply_eq_none_iff c).mp h
          rw [List.filterMap_cons_none h, ih, List.filter_cons_of_neg (by simp [hzero])]
      | some data =>
          have hne : byte ≠ 0x00#8 := by
            intro hzero
            rw [(reply_eq_none_iff c).mpr hzero] at h
            exact absurd h (by simp)
          rw [List.filterMap_cons_some h, List.filter_cons_of_pos (by simpa using hne),
            List.length_cons, List.length_cons, ih]

/-- The rows before row `k` send the first of the startup commands. -/
theorem sentBefore_take (k : Nat) : sentBefore c k = (startupBytes c).take (sends k) := by
  have hsplit : sentBefore c rows = sentBefore c k ++ (answers.drop k).filterMap (reply c) := by
    rw [sentBefore, sentBefore, ← List.filterMap_append, List.take_append_drop]
    rfl
  rw [← sentBefore_rows, hsplit, sends, ← length_filterMap_reply c]
  exact (List.take_left' rfl).symm

section Rows
variable {w c} (hrate : c.frequency ∈ validRates)
include hrate

theorem lineAt_eq (k : Nat) : lineAt refusal w c k =
    ([0xFA#8, 0xAA#8, 0x00#8] ++ ((startupReplies w).take (sends k)).flatten).drop k := by
  rw [lineAt, repliesAt, sentBefore_take, Machine.outputs_take, (startup_run refusal hrate).2]

/-- No startup command but the last turns on the reports. -/
theorem startupBytes_ne_enable : ∀ b ∈ (startupBytes c).take 15, b ≠ 0xF4#8 := by
  have hresolution : c.resolution.setWidth 8 ≠ 0xF4#8 := by bv_omega
  have hscaling : (if c.scale = 1#2 then 0xE6#8 else 0xE7#8) ≠ 0xF4#8 := by
    split_ifs <;> decide
  have hfrequency : c.frequency ≠ 0xF4#8 := by
    intro h
    rw [h] at hrate
    exact absurd hrate (by decide)
  simp only [startupBytes, List.take_succ_cons, List.take_zero, List.forall_mem_cons]
  simp [hresolution, hscaling, hfrequency]

theorem deviceAt_reporting {k : Nat} (hk : k < 25) :
    (deviceAt refusal w c k).reporting = false := by
  have hsends : sends k ≤ 15 := (by decide : ∀ k < 25, sends k ≤ 15) k hk
  have hquiet : ∀ b ∈ sentBefore c k, b ≠ 0xF4#8 := by
    intro b hb
    rw [sentBefore_take] at hb
    exact startupBytes_ne_enable hrate b (List.take_subset_take_left _ hsends hb)
  have hrun := Machine.run_of_step (M := deviceMachine refusal)
    (I := fun d => d.reporting = false) (N := (· ≠ 0xF4#8)) (Q := fun _ => True)
    (fun d b hd hb => ⟨receive_reporting hb hd, fun _ _ => trivial⟩)
    (rfl : (Device.fresh w).reporting = false) hquiet
  exact hrun.1

theorem deviceAt_configured {k : Nat} (hk : 25 ≤ k) (hle : k ≤ rows) :
    deviceAt refusal w c k = Device.configured w c := by
  have hsends : sends k = 16 := by
    obtain rfl | rfl : k = 25 ∨ k = 26 := by
      simp only [rows] at hle
      omega
    · decide
    · decide
  rw [deviceAt, sentBefore_take, hsends, List.take_of_length_le (by simp [startupBytes])]
  exact (startup_run refusal hrate).1

theorem lineAt_rows : lineAt refusal w c rows = [] := by
  rw [lineAt_eq refusal hrate]
  cases w <;> decide

end Rows

section Succ
variable {w c} {k : Nat} (hk : k < rows)
include hk

theorem deviceAt_succ : deviceAt refusal w c (k + 1) =
    (deviceMachine refusal).state (deviceAt refusal w c k)
      (reply c (msStateTable.getD (2 * k + 1) 0#8)).toList := by
  rw [deviceAt, sentBefore_succ c hk, Machine.state_append, ← deviceAt]

/-- Row `k` reads one byte, and the answer to what it sends comes behind the others. -/
theorem lineAt_succ {b : U8} {rest : List U8} (h : lineAt refusal w c k = b :: rest) :
    lineAt refusal w c (k + 1) = rest ++ (deviceMachine refusal).outputs (deviceAt refusal w c k)
      (reply c (msStateTable.getD (2 * k + 1) 0#8)).toList := by
  have hlength : k + 1 ≤ (repliesAt refusal w c k).length := by
    have hlt := congrArg List.length h
    rw [lineAt, List.length_drop, List.length_cons] at hlt
    omega
  have hrest : (repliesAt refusal w c k).drop (k + 1) = rest := by
    rw [← List.tail_drop, ← lineAt, h, List.tail_cons]
  rw [lineAt, repliesAt, sentBefore_succ c hk, Machine.outputs_append, ← List.append_assoc,
    ← deviceAt, ← repliesAt, List.drop_append_of_le_length hlength, hrest]

end Succ

/-- The line that row `k` finds, for the answers to the startup commands. -/
def Serves (line : List U8) (k : Nat) : Prop :=
  line ≠ [] ∧ accepts (msStateTable.getD (2 * k) 0#8) (line.headD 0#8) = true ∧
    (msStateTable.getD (2 * k + 1) 0#8 ≠ 0x00#8 → line.tail = [])

instance (line : List U8) (k : Nat) : Decidable (Serves line k) :=
  inferInstanceAs (Decidable (_ ∧ _))

/-- With row `k` next, the byte it waits for is next on the line, and nothing is
behind it if the row sends an answer. Only the type of the device can be wrong. -/
theorem serves_row : ∀ k < rows, ∀ w, (w = true ∨ k ≠ 19) →
    Serves (([0xFA#8, 0xAA#8, 0x00#8] ++ ((startupReplies w).take (sends k)).flatten).drop k)
      k := by
  decide +kernel

end DiyPs3Controller.PointingDevice
