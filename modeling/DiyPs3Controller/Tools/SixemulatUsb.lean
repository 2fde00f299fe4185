import DiyPs3Controller.Foundations.Machines
import DiyPs3Controller.Tools.LatencyResults

/-!
# The latency monitor of the USB bus

The monitor reads the lines of usbmon and looks for the presses of one button on
three devices. Each device has a slot for the time of its last press, and a sample
is taken as soon as all three slots are filled, whatever the order of the presses.
-/

namespace DiyPs3Controller.SixemulatUsb

/-! ## The text of a line -/

/-- `strstr(line, s)` finds `s`. -/
def strstr : List Char → List Char → Bool
  | [], s => s.isEmpty
  | c :: line, s => s.isPrefixOf (c :: line) || strstr line s

/-- `isspace` -/
def isSpace (c : Char) : Bool := c = ' ' || (9 ≤ c.toNat && c.toNat ≤ 13)

def decimal (digits : List Char) : Nat := digits.foldl (fun n c => 10 * n + (c.toNat - 48)) 0

/-- `%10u`: at most ten characters, an optional sign and digits. -/
def scanUnsigned (text : List Char) : Option U32 :=
  let field := (text.dropWhile isSpace).take 10
  let unsigned := if field.head? = some '-' ∨ field.head? = some '+' then field.tail else field
  let digits := unsigned.takeWhile Char.isDigit
  if digits = [] then none
  else if field.head? = some '-' then some (-BitVec.ofNat 32 (decimal digits))
  else some (BitVec.ofNat 32 (decimal digits))

/-- `sscanf(line, "%*[^ ]%*[ ]%10u", &t)`, none when nothing is stored. -/
def sscanf (line : List Char) : Option U32 :=
  let blanks := line.dropWhile (· ≠ ' ')
  if blanks = line ∨ blanks = [] then none
  else scanUnsigned (blanks.dropWhile (· = ' '))

/-- The texts by which the devices are found in a line. -/
structure Ids where
  mouse : List Char
  usbserial : List Char
  joystick : List Char

def mousePressed : List Char := "= 01".toList

def mouseReleased : List Char := "= 00".toList

/-- The report with r1 pressed, for the serial adapter and the joystick. -/
def r1Pressed : List Char := "08002000".toList

def r1Released : List Char := "08000000".toList

/-! ## The main loop -/

/-- `tmouse` and `mdown`, and the same for the other devices. -/
structure Slot where
  t : U32
  down : Bool
  deriving DecidableEq, Repr

/-- What a line does to the slot of its device. -/
def Slot.read (pressed released line : List Char) (s : Slot) : Slot :=
  if strstr line pressed then
    if s.down then s else ⟨(sscanf line).getD s.t, true⟩
  else if strstr line released then { s with down := false }
  else s

/-- The variables of the loop. -/
structure Monitor where
  i : Nat
  mouse : Slot
  usbserial : Slot
  joystick : Slot
  deriving DecidableEq, Repr

namespace Monitor

def init : Monitor := ⟨0, ⟨0#32, false⟩, ⟨0#32, false⟩, ⟨0#32, false⟩⟩

/-- The branches over the devices. -/
def readLine (ids : Ids) (line : List Char) (m : Monitor) : Monitor :=
  if strstr line ids.mouse then
    { m with mouse := m.mouse.read mousePressed mouseReleased line }
  else if strstr line ids.usbserial then
    { m with usbserial := m.usbserial.read r1Pressed r1Released line }
  else if strstr line ids.joystick then
    { m with joystick := m.joystick.read r1Pressed r1Released line }
  else m

/-- `tmouse && tusbserial && tjoystick` -/
def Full (m : Monitor) : Prop := m.mouse.t ≠ 0#32 ∧ m.usbserial.t ≠ 0#32 ∧ m.joystick.t ≠ 0#32

instance (m : Monitor) : Decidable m.Full :=
  inferInstanceAs (Decidable (m.mouse.t ≠ 0#32 ∧ m.usbserial.t ≠ 0#32 ∧ m.joystick.t ≠ 0#32))

def clear (m : Monitor) : Monitor :=
  { m with
    mouse := { m.mouse with t := 0#32 }
    usbserial := { m.usbserial with t := 0#32 }
    joystick := { m.joystick with t := 0#32 } }

end Monitor

/-- The three times and the latencies stored at index `i`. -/
structure Sample where
  tmouse : U32
  tusbserial : U32
  tjoystick : U32
  tdiff1 : U32
  tdiff2 : U32
  tdiff3 : U32
  deriving DecidableEq, Repr

def Monitor.sample (m : Monitor) : Sample where
  tmouse := m.mouse.t
  tusbserial := m.usbserial.t
  tjoystick := m.joystick.t
  tdiff1 := m.usbserial.t - m.mouse.t
  tdiff2 := m.joystick.t - m.usbserial.t
  tdiff3 := m.joystick.t - m.mouse.t

/-- The loop of `main`. It is left when the arrays are full. -/
def main (ids : Ids) : Machine Monitor (List Char) Sample where
  step m line :=
    if m.i = records then (m, [])
    else
      let m := m.readLine ids line
      if m.Full then
        if m.i + 1 = records then ({ m with i := m.i + 1 }, [m.sample])
        else ({ m.clear with i := m.i + 1 }, [m.sample])
      else (m, [])

/-- The latencies are exact and in order. -/
structure Sample.Sound (s : Sample) : Prop where
  mouseFirst : s.tmouse.toNat ≤ s.tusbserial.toNat
  joystickLast : s.tusbserial.toNat ≤ s.tjoystick.toNat
  tdiff1_eq : s.tmouse.toNat + s.tdiff1.toNat = s.tusbserial.toNat
  tdiff2_eq : s.tusbserial.toNat + s.tdiff2.toNat = s.tjoystick.toNat
  tdiff3_eq : s.tmouse.toNat + s.tdiff3.toNat = s.tjoystick.toNat
  sum : s.tdiff3.toNat = s.tdiff1.toNat + s.tdiff2.toNat

/-- As machine words the third latency is always the sum of the other two. -/
theorem sample_sum (m : Monitor) : m.sample.tdiff3 = m.sample.tdiff1 + m.sample.tdiff2 := by
  simp only [Monitor.sample]
  bv_omega

theorem sample_sound_iff (m : Monitor) :
    m.sample.Sound ↔
      m.mouse.t.toNat ≤ m.usbserial.t.toNat ∧ m.usbserial.t.toNat ≤ m.joystick.t.toNat := by
  constructor
  · intro h
    exact ⟨h.mouseFirst, h.joystickLast⟩
  · rintro ⟨hfirst, hlast⟩
    have htdiff1 : m.sample.tdiff1.toNat = m.usbserial.t.toNat - m.mouse.t.toNat :=
      BitVec.toNat_sub_of_le hfirst
    have htdiff2 : m.sample.tdiff2.toNat = m.joystick.t.toNat - m.usbserial.t.toNat :=
      BitVec.toNat_sub_of_le hlast
    have htdiff3 : m.sample.tdiff3.toNat = m.joystick.t.toNat - m.mouse.t.toNat :=
      BitVec.toNat_sub_of_le (Nat.le_trans hfirst hlast)
    refine ⟨hfirst, hlast, ?_, ?_, ?_, by omega⟩
    · exact htdiff1 ▸ Nat.add_sub_of_le hfirst
    · exact htdiff2 ▸ Nat.add_sub_of_le hlast
    · exact htdiff3 ▸ Nat.add_sub_of_le (Nat.le_trans hfirst hlast)

/-! ## Slots -/

/-- The time of a line, as it is stored. -/
def stamp (line : List Char) : Nat := ((sscanf line).getD 0#32).toNat

/-- The line is a press that the slot takes. -/
def Slot.Takes (pressed line : List Char) (s : Slot) : Prop :=
  strstr line pressed = true ∧ s.down = false

instance (pressed line : List Char) (s : Slot) : Decidable (s.Takes pressed line) :=
  inferInstanceAs (Decidable (strstr line pressed = true ∧ s.down = false))

section Slots
variable {pressed released line : List Char} {s : Slot}

/-- Only a press that is taken changes the time. -/
theorem Slot.read_t (pressed released line : List Char) (s : Slot) :
    (s.read pressed released line).t =
      if s.Takes pressed line then (sscanf line).getD s.t else s.t := by
  by_cases hpress : strstr line pressed = true
  · cases hdown : s.down <;> simp [Slot.read, Slot.Takes, hpress, hdown]
  · simp only [Slot.read, Slot.Takes, hpress, Bool.false_eq_true, if_false, false_and]
    split <;> rfl

variable {t : U32} (hstamp : sscanf line = some t)
include hstamp

theorem stamp_eq : stamp line = t.toNat := by
  rw [stamp, hstamp, Option.getD_some]

theorem Slot.read_t_of_takes (h : s.Takes pressed line) :
    (s.read pressed released line).t = t := by
  rw [Slot.read_t, if_pos h, hstamp, Option.getD_some]

omit hstamp in
theorem Slot.read_t_of_not_takes (h : ¬s.Takes pressed line) :
    (s.read pressed released line).t = s.t := by
  rw [Slot.read_t, if_neg h]

theorem Slot.read_t_le {bound : Nat} (hs : s.t.toNat ≤ bound) (ht : t.toNat ≤ bound) :
    (s.read pressed released line).t.toNat ≤ bound := by
  by_cases h : s.Takes pressed line
  · rw [Slot.read_t_of_takes hstamp h]
    exact ht
  · rw [Slot.read_t_of_not_takes h]
    exact hs

/-- An empty slot is filled exactly by a press. -/
theorem Slot.read_t_ne_zero_iff (hempty : s.t = 0#32) (ht : t ≠ 0#32) :
    (s.read pressed released line).t ≠ 0#32 ↔ s.Takes pressed line := by
  by_cases h : s.Takes pressed line
  · rw [Slot.read_t_of_takes hstamp h]
    simp [h, ht]
  · rw [Slot.read_t_of_not_takes h]
    simp [h, hempty]

/-- A line fills the last empty slot exactly by a press that this slot takes. -/
theorem Slot.fills_iff {others : Prop} (empty : ¬(s.t ≠ 0#32 ∧ others)) (ht : t ≠ 0#32) :
    (s.read pressed released line).t ≠ 0#32 ∧ others ↔ s.Takes pressed line ∧ others := by
  apply and_congr_left
  intro hothers
  apply Slot.read_t_ne_zero_iff hstamp _ ht
  apply Classical.not_not.mp
  intro hne
  exact empty ⟨hne, hothers⟩

end Slots

/-! ## The press that completes a sample -/

/-- If a line fills the last empty slot, it is a press of the joystick, and the press
of the mouse is not later than that of the serial adapter; or it is one of the other
presses, at the very time of the presses that should have come after it. -/
def InOrder (ids : Ids) (m : Monitor) (line : List Char) : Prop :=
  m.i ≠ records →
    if strstr line ids.mouse then
      m.mouse.Takes mousePressed line ∧ m.usbserial.t ≠ 0#32 ∧ m.joystick.t ≠ 0#32 →
        stamp line = m.usbserial.t.toNat ∧ m.usbserial.t = m.joystick.t
    else if strstr line ids.usbserial then
      m.usbserial.Takes r1Pressed line ∧ m.mouse.t ≠ 0#32 ∧ m.joystick.t ≠ 0#32 →
        stamp line = m.joystick.t.toNat
    else if strstr line ids.joystick then
      m.joystick.Takes r1Pressed line ∧ m.mouse.t ≠ 0#32 ∧ m.usbserial.t ≠ 0#32 →
        m.mouse.t.toNat ≤ m.usbserial.t.toNat
    else True

instance (ids : Ids) (m : Monitor) (line : List Char) : Decidable (InOrder ids m line) := by
  unfold InOrder
  infer_instance

/-- No slot holds a time after `bound`. -/
structure Monitor.Until (bound : Nat) (m : Monitor) : Prop where
  mouse : m.mouse.t.toNat ≤ bound
  usbserial : m.usbserial.t.toNat ≤ bound
  joystick : m.joystick.t.toNat ≤ bound

section Step
variable {ids : Ids} {m : Monitor} {line : List Char} {t : U32}
  (hstamp : sscanf line = some t)
include hstamp

theorem readLine_until {bound : Nat} (h : m.Until bound) (ht : t.toNat ≤ bound) :
    (m.readLine ids line).Until bound := by
  unfold Monitor.readLine
  split
  · exact ⟨Slot.read_t_le hstamp h.mouse ht, h.usbserial, h.joystick⟩
  · split
    · exact ⟨h.mouse, Slot.read_t_le hstamp h.usbserial ht, h.joystick⟩
    · split
      · exact ⟨h.mouse, h.usbserial, Slot.read_t_le hstamp h.joystick ht⟩
      · exact h

variable (ht : t ≠ 0#32) (empty : ¬m.Full) (earlier : m.Until t.toNat)
include ht empty earlier

theorem mouse_sound_iff :
    (({ m with mouse := m.mouse.read mousePressed mouseReleased line } : Monitor).Full →
      ({ m with mouse := m.mouse.read mousePressed mouseReleased line } : Monitor).sample.Sound) ↔
    (m.mouse.Takes mousePressed line ∧ m.usbserial.t ≠ 0#32 ∧ m.joystick.t ≠ 0#32 →
      stamp line = m.usbserial.t.toNat ∧ m.usbserial.t = m.joystick.t) := by
  have hfull : (m.mouse.read mousePressed mouseReleased line).t ≠ 0#32 ∧ _ ↔ _ :=
    Slot.fills_iff hstamp empty ht
  rw [sample_sound_iff, Monitor.Full, hfull, stamp_eq hstamp, ← BitVec.toNat_inj]
  apply imp_congr_right
  rintro ⟨htakes, -, -⟩
  simp only [Slot.read_t_of_takes hstamp htakes]
  have husbserial := earlier.usbserial
  have hjoystick := earlier.joystick
  omega

theorem usbserial_sound_iff :
    (({ m with usbserial := m.usbserial.read r1Pressed r1Released line } : Monitor).Full →
      ({ m with usbserial := m.usbserial.read r1Pressed r1Released line } : Monitor).sample.Sound) ↔
    (m.usbserial.Takes r1Pressed line ∧ m.mouse.t ≠ 0#32 ∧ m.joystick.t ≠ 0#32 →
      stamp line = m.joystick.t.toNat) := by
  have hempty : ¬(m.usbserial.t ≠ 0#32 ∧ m.mouse.t ≠ 0#32 ∧ m.joystick.t ≠ 0#32) := by
    rintro ⟨husbserial, hmouse, hjoystick⟩
    exact empty ⟨hmouse, husbserial, hjoystick⟩
  have hfull : (m.usbserial.read r1Pressed r1Released line).t ≠ 0#32 ∧ _ ↔ _ :=
    Slot.fills_iff hstamp hempty ht
  rw [sample_sound_iff, Monitor.Full, and_left_comm, hfull, stamp_eq hstamp]
  apply imp_congr_right
  rintro ⟨htakes, -, -⟩
  simp only [Slot.read_t_of_takes hstamp htakes]
  have hmouse := earlier.mouse
  have hjoystick := earlier.joystick
  omega

theorem joystick_sound_iff :
    (({ m with joystick := m.joystick.read r1Pressed r1Released line } : Monitor).Full →
      ({ m with joystick := m.joystick.read r1Pressed r1Released line } : Monitor).sample.Sound) ↔
    (m.joystick.Takes r1Pressed line ∧ m.mouse.t ≠ 0#32 ∧ m.usbserial.t ≠ 0#32 →
      m.mouse.t.toNat ≤ m.usbserial.t.toNat) := by
  have hempty : ¬(m.joystick.t ≠ 0#32 ∧ m.mouse.t ≠ 0#32 ∧ m.usbserial.t ≠ 0#32) := by
    rintro ⟨hjoystick, hmouse, husbserial⟩
    exact empty ⟨hmouse, husbserial, hjoystick⟩
  have hfull : (m.joystick.read r1Pressed r1Released line).t ≠ 0#32 ∧ _ ↔ _ :=
    Slot.fills_iff hstamp hempty ht
  rw [sample_sound_iff, Monitor.Full, ← and_assoc, and_comm (b := _ ≠ _), hfull]
  apply imp_congr_right
  rintro ⟨htakes, -, -⟩
  simp only [Slot.read_t_of_takes hstamp htakes]
  have husbserial := earlier.usbserial
  omega

/-- One line leads to a sound sample, if to any, exactly when it comes in order. -/
theorem readLine_sound_iff :
    (m.i ≠ records → (m.readLine ids line).Full → (m.readLine ids line).sample.Sound) ↔
      InOrder ids m line := by
  apply imp_congr_right
  intro _
  unfold Monitor.readLine
  by_cases hmouse : strstr line ids.mouse = true
  · rw [if_pos hmouse, if_pos hmouse]
    exact mouse_sound_iff hstamp ht empty earlier
  · rw [if_neg hmouse, if_neg hmouse]
    by_cases husbserial : strstr line ids.usbserial = true
    · rw [if_pos husbserial, if_pos husbserial]
      exact usbserial_sound_iff hstamp ht empty earlier
    · rw [if_neg husbserial, if_neg husbserial]
      by_cases hjoystick : strstr line ids.joystick = true
      · rw [if_pos hjoystick, if_pos hjoystick]
        exact joystick_sound_iff hstamp ht empty earlier
      · rw [if_neg hjoystick, if_neg hjoystick]
        exact iff_of_true (fun hfull => absurd hfull empty) trivial

end Step

/-! ## Whole runs -/

section Runs
variable {ids : Ids} {m : Monitor} {line : List Char}

/-- A step records the full slots. -/
theorem step_outputs (ids : Ids) (m : Monitor) (line : List Char) :
    ((main ids).step m line).2 =
      if m.i ≠ records ∧ (m.readLine ids line).Full then [(m.readLine ids line).sample]
      else [] := by
  simp only [main]
  split
  · simp [*]
  · split
    · split <;> simp [*]
    · simp [*]

theorem forall_step_outputs {Q : Sample → Prop} :
    (∀ o ∈ ((main ids).step m line).2, Q o) ↔
      (m.i ≠ records → (m.readLine ids line).Full → Q (m.readLine ids line).sample) := by
  rw [step_outputs, ← and_imp]
  split
  · rename_i h
    simp [h]
  · rename_i h
    simp [h]

/-- Before each line a slot is empty, unless the arrays are full. -/
def Monitor.Ready (m : Monitor) : Prop := m.i ≠ records → ¬m.Full

theorem step_ready (h : m.Ready) : ((main ids).step m line).1.Ready := by
  simp only [main]
  split
  · exact h
  · split
    · split
      · rename_i hlast
        exact fun hi => absurd hlast hi
      · exact fun _ hfull => hfull.1 rfl
    · rename_i hfull
      exact fun _ => hfull

theorem step_until {bound : Nat} {t : U32} (hstamp : sscanf line = some t) (h : m.Until bound)
    (ht : t.toNat ≤ bound) : ((main ids).step m line).1.Until bound := by
  have hread := @readLine_until ids _ _ _ hstamp _ h ht
  simp only [main]
  split
  · exact h
  · split
    · split
      · exact ⟨hread.mouse, hread.usbserial, hread.joystick⟩
      · exact ⟨Nat.zero_le _, Nat.zero_le _, Nat.zero_le _⟩
    · exact hread

/-- `i` counts the stored samples, and there is room for them. -/
def Counted (shown : List Sample) (m : Monitor) : Prop := shown.length = m.i ∧ m.i ≤ records

theorem readLine_i (ids : Ids) (line : List Char) (m : Monitor) :
    (m.readLine ids line).i = m.i := by
  unfold Monitor.readLine
  split_ifs <;> rfl

theorem step_counted {shown : List Sample} (h : Counted shown m) :
    Counted (shown ++ ((main ids).step m line).2) ((main ids).step m line).1 := by
  obtain ⟨hcount, hle⟩ := h
  have hi := readLine_i ids line m
  by_cases hend : m.i = records
  · simp only [main, if_pos hend, List.append_nil]
    exact ⟨hcount, hle⟩
  · have hlt : m.i + 1 ≤ records := by omega
    by_cases hfull : (m.readLine ids line).Full
    · by_cases hlast : m.i + 1 = records
      · simp [Counted, main, hend, hfull, hi, hlast, hcount]
      · simp [Counted, main, hend, hfull, hi, hlast, hcount, hlt]
    · simp [Counted, main, hend, hfull, hi, hcount, hle]

/-- Never more than `RECORDS` samples are stored. -/
theorem length_outputs_le (ids : Ids) (lines : List (List Char)) :
    ((main ids).outputs Monitor.init lines).length ≤ records := by
  have hstart : Counted [] Monitor.init := ⟨rfl, Nat.zero_le _⟩
  have hrun : Counted ((main ids).outputs Monitor.init lines)
      ((main ids).state Monitor.init lines) :=
    Machine.trace_of_step (fun _ _ _ h => step_counted h) hstart lines
  exact Nat.le_trans (Nat.le_of_eq hrun.1) hrun.2

/-- The three calls of `results` at the end cover the stored latencies by the same
condition on each array. -/
theorem results_of_run (ids : Ids) (lines : List (List Char)) (temp : U32) (tdiff : Sample → U32) :
    let recorded := ((main ids).outputs Monitor.init lines).map tdiff
    Latencies.Covers recorded (results temp (Latencies.samples recorded)) ↔
      (∀ d ∈ recorded, d ≠ 0#32) ∧ Latencies.total recorded < 2147483648 ∧ recorded.length ≠ 1 := by
  intro recorded
  have hfits : recorded.length ≤ (BitVec.ofNat 32 records).toNat := by
    rw [List.length_map]
    exact length_outputs_le ids lines
  exact Latencies.covers_statistics_iff hfits temp

/-- The lines have positive times that do not decrease. -/
structure Stamped (lines : List (List Char)) : Prop where
  positive : ∀ line ∈ lines, ∃ t, sscanf line = some t ∧ t ≠ 0#32
  ordered : lines.Pairwise fun before after => stamp before ≤ stamp after

/-- It is enough to know the times that are read from the lines. -/
theorem stamped_of_times (times : List U32) {lines : List (List Char)}
    (h : lines.map sscanf = times.map some) (positive : ∀ t ∈ times, t ≠ 0#32)
    (ordered : times.Pairwise fun before after => before.toNat ≤ after.toNat) :
    Stamped lines where
  positive := by
    intro line hline
    have hmem : sscanf line ∈ times.map some := h ▸ List.mem_map_of_mem hline
    obtain ⟨t, ht, hstamp⟩ := List.mem_map.mp hmem
    exact ⟨t, hstamp.symm, positive t ht⟩
  ordered := by
    have hmap : lines.map stamp = times.map BitVec.toNat := by
      calc
        lines.map stamp = (lines.map sscanf).map fun t => (t.getD 0#32).toNat := by
          rw [List.map_map]
          rfl
        _ = times.map BitVec.toNat := by
          rw [h, List.map_map]
          rfl
    have hstamps : (lines.map stamp).Pairwise (· ≤ ·) := hmap ▸ List.pairwise_map.mpr ordered
    exact List.pairwise_map.mp hstamps

theorem outputs_sound_iff_along {lines : List (List Char)} (ready : m.Ready)
    (stamped : Stamped lines) (earlier : ∀ line ∈ lines, m.Until (stamp line)) :
    (∀ o ∈ (main ids).outputs m lines, o.Sound) ↔ (main ids).Along (InOrder ids) m lines := by
  induction lines generalizing m with
  | nil => simp [Machine.Along]
  | cons line rest ih =>
      obtain ⟨hearlier, hrest⟩ := List.forall_mem_cons.mp earlier
      obtain ⟨hfirst, hordered⟩ := List.pairwise_cons.mp stamped.ordered
      obtain ⟨⟨t, hstamp, ht⟩, hpositive⟩ := List.forall_mem_cons.mp stamped.positive
      rw [stamp_eq hstamp] at hearlier hfirst
      have hstep : (∀ o ∈ ((main ids).step m line).2, o.Sound) ↔ InOrder ids m line := by
        rw [forall_step_outputs]
        by_cases hi : m.i = records
        · exact iff_of_true (fun hne => absurd hi hne) (fun hne => absurd hi hne)
        · exact readLine_sound_iff hstamp ht (ready hi) hearlier
      have hlater : ∀ next ∈ rest, ((main ids).step m line).1.Until (stamp next) := by
        intro next hnext
        exact step_until hstamp (hrest next hnext) (hfirst next hnext)
      rw [Machine.outputs_cons, List.forall_mem_append, hstep,
        ih (step_ready ready) ⟨hpositive, hordered⟩ hlater]
      rfl

end Runs

/-- All samples of a run are sound exactly when every line of it comes in order. -/
theorem samples_sound_iff (ids : Ids) (lines : List (List Char)) (stamped : Stamped lines) :
    (∀ o ∈ (main ids).outputs Monitor.init lines, o.Sound) ↔
      (main ids).Along (InOrder ids) Monitor.init lines := by
  apply outputs_sound_iff_along
  · exact fun _ hfull => hfull.1 rfl
  · exact stamped
  · intro line _
    exact ⟨Nat.zero_le _, Nat.zero_le _, Nat.zero_le _⟩

/-! ## Two clicks -/

def exampleIds : Ids := ⟨":1:002".toList, ":2:003".toList, ":3:004".toList⟩

/-- A click that passes the devices one after the other. -/
def clickInOrder : List (List Char) :=
  ["ffff8800 4 C Ii:1:002:1 0:8 4 = 01000000".toList,
    "ffff8800 5 S Bo:2:003:2 -115 4 = 08002000".toList,
    "ffff8800 7 C Ii:3:004:1 0:8 4 = 08002000".toList]

/-- The joystick and the serial adapter come before the mouse. -/
def clickReversed : List (List Char) :=
  ["ffff8800 4 C Ii:3:004:1 0:8 4 = 08002000".toList,
    "ffff8800 5 S Bo:2:003:2 -115 4 = 08002000".toList,
    "ffff8800 7 C Ii:1:002:1 0:8 4 = 01000000".toList]

theorem stamped_clickInOrder : Stamped clickInOrder :=
  stamped_of_times [4#32, 5#32, 7#32] (by decide +kernel) (by simp) (by simp)

theorem stamped_clickReversed : Stamped clickReversed :=
  stamped_of_times [4#32, 5#32, 7#32] (by decide +kernel) (by simp) (by simp)

theorem clickInOrder_sound :
    (main exampleIds).outputs Monitor.init clickInOrder =
        [⟨4#32, 5#32, 7#32, 1#32, 2#32, 3#32⟩] ∧
      ∀ o ∈ (main exampleIds).outputs Monitor.init clickInOrder, o.Sound :=
  ⟨by decide +kernel,
    (samples_sound_iff exampleIds clickInOrder stamped_clickInOrder).mpr (by decide +kernel)⟩

/-- The first latency is stored as two below zero. -/
theorem clickReversed_not_sound :
    Stamped clickReversed ∧
      (main exampleIds).outputs Monitor.init clickReversed =
        [⟨7#32, 5#32, 4#32, 4294967294#32, 4294967295#32, 4294967293#32⟩] ∧
      ¬∀ o ∈ (main exampleIds).outputs Monitor.init clickReversed, o.Sound := by
  have houtputs : (main exampleIds).outputs Monitor.init clickReversed =
      [⟨7#32, 5#32, 4#32, 4294967294#32, 4294967295#32, 4294967293#32⟩] := by decide +kernel
  refine ⟨stamped_clickReversed, houtputs, ?_⟩
  intro h
  rw [houtputs] at h
  have hsound := h _ (List.mem_singleton_self _)
  exact absurd hsound.mouseFirst (by decide)

end DiyPs3Controller.SixemulatUsb
