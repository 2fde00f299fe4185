import DiyPs3Controller.Tools.SixProxy
import Mathlib.Algebra.Order.Group.Int

/-!
# Dead zone removal by the proxy

Where no sum leaves the range of a `short`, the two corrections of a field are
one move away from its centre within its bounds. The keys set no limit to the
parameters, and a `short` holds a motion field from the wire as a signed number,
so that a sum can wrap around and pass the one bound that is tested after it.
-/

namespace DiyPs3Controller.SixProxy

open DeadZones

section Fitting
variable {centre radius lo hi val : Int}

theorem correctUp_eq (hfit : centre ≤ val → toShort (val + radius) = val + radius) :
    correctUp centre radius hi val = raised centre radius hi val := by
  unfold correctUp raised
  split_ifs with h
  · simp only [hfit h, gt_iff_lt]
    split_ifs <;> omega
  · rfl

theorem correctDown_eq (hfit : val < centre → toShort (val - radius) = val - radius) :
    correctDown centre radius lo val = lowered centre radius lo val := by
  unfold correctDown lowered
  split_ifs with h
  · simp only [hfit h]
    split_ifs <;> omega
  · rfl

/-- The corrections without a wrap-around. -/
theorem correct_eq_widened (hradius : 0 ≤ radius) (hcentre : centre ≤ hi)
    (hup : val + radius ≤ 32767) (hdown : -32768 ≤ val - radius) :
    correct centre radius lo hi val = widened centre radius lo hi val := by
  have hraised : correctUp centre radius hi val = raised centre radius hi val :=
    correctUp_eq fun _ => toShort_eq (by omega)
  have hlowered : correctDown centre radius lo (raised centre radius hi val) =
      lowered centre radius lo (raised centre radius hi val) := by
    apply correctDown_eq
    intro hbelow
    -- what is below the centre has not been raised
    have hval : raised centre radius hi val = val := by
      unfold raised at hbelow ⊢
      split_ifs at hbelow ⊢ <;> omega
    rw [hval]
    exact toShort_eq (by omega)
  rw [correct, hraised, hlowered]
  exact lowered_raised hradius hcentre

end Fitting

/-- Centres within the bounds of their fields, and radii of at most a byte. -/
structure Param.Tuned (param : Param) : Prop where
  lo_le_centre : ∀ f : Field, f.lo ≤ f.centre param
  centre_le_hi : ∀ f : Field, f.centre param ≤ f.hi
  radius_nonneg : ∀ f : Field, 0 ≤ f.radius param
  radius_le : ∀ f : Field, f.radius param ≤ 255

/-- The motion fields have ten bits. -/
def TenBit (data : Payload) : Prop := ∀ f : Field, f.IsMotion → f.value data ≤ 0x3FF

namespace Field

variable {param : Param} {data : Payload}

theorem value_nonneg (data : Payload) (f : Field) : 0 ≤ f.value data := by
  cases f <;> simp only [value, motionField] <;> omega

theorem value_le (h : TenBit data) (f : Field) : f.value data ≤ 0x3FF := by
  have hbyte (b : U8) : b.toNat ≤ 255 := Nat.le_of_lt_succ b.isLt
  cases f with
  | sixh => exact h .sixh (Or.inl rfl)
  | sixv => exact h .sixv (Or.inr rfl)
  | stkh =>
      have hstick := hbyte (data.get 11)
      simp only [value]
      omega
  | stkv =>
      have hstick := hbyte (data.get 12)
      simp only [value]
      omega

theorem stick_val_range (f : Field) (hf : ¬f.IsMotion) (data : Payload) :
    0 ≤ f.val data ∧ f.val data ≤ 0xFF := by
  have hstick (b : U8) : 0 ≤ toShort b.toNat ∧ toShort b.toNat ≤ 0xFF := by
    have hlt := b.isLt
    rw [toShort_eq (by omega)]
    omega
  cases f with
  | sixh => exact absurd (Or.inl rfl) hf
  | sixv => exact absurd (Or.inr rfl) hf
  | stkh => exact hstick (data.get 11)
  | stkv => exact hstick (data.get 12)

theorem val_eq_value (h : TenBit data) (f : Field) : f.val data = f.value data := by
  have hnonneg := f.value_nonneg data
  have hle := f.value_le h
  exact toShort_eq (by omega)

theorem hi_lt_capacity (f : Field) : 0 ≤ f.lo ∧ f.hi < f.capacity := by
  cases f <;> decide

/-- A field of a tuned proxy moves away from its centre. -/
theorem value_killDeadzone_eq_widened (hp : param.Tuned) (hd : TenBit data) (f : Field) :
    f.value (killDeadzone param data) =
      widened (f.centre param) (f.radius param) f.lo f.hi (f.value data) := by
  have hnonneg := f.value_nonneg data
  have hle := f.value_le hd
  have hradius := hp.radius_nonneg f
  have hradiusLe := hp.radius_le f
  have hcorrected : f.corrected param data =
      widened (f.centre param) (f.radius param) f.lo f.hi (f.value data) := by
    rw [corrected, f.val_eq_value hd]
    exact correct_eq_widened hradius (hp.centre_le_hi f) (by omega) (by omega)
  have hmem : widened (f.centre param) (f.radius param) f.lo f.hi (f.value data) ∈
      Set.Icc f.lo f.hi :=
    widened_mem_Icc hradius (hp.lo_le_centre f) (hp.centre_le_hi f)
  obtain ⟨hlo, hhi⟩ := f.hi_lt_capacity
  rw [value_killDeadzone, hcorrected]
  exact Int.emod_eq_of_lt (hlo.trans hmem.1) (hmem.2.trans_lt hhi)

end Field

/-- Of a tuned proxy each field is moved away from its centre, monotonically and
with a gap around the centre, and nothing else changes. -/
theorem killDeadzone_removes {param : Param} {data : Payload} (hp : param.Tuned)
    (hd : TenBit data) :
    (∀ f : Field, f.value (killDeadzone param data) =
      widened (f.centre param) (f.radius param) f.lo f.hi (f.value data)) ∧
    (∀ (f : Field) (data' : Payload), TenBit data' → f.value data ≤ f.value data' →
      f.value (killDeadzone param data) ≤ f.value (killDeadzone param data')) ∧
    (∀ f : Field, f.centre param - 1 - f.radius param < f.value (killDeadzone param data) →
      f.value (killDeadzone param data) < f.centre param + f.radius param →
      Clamped (f.centre param) (f.radius param) f.lo f.hi (f.value data)) ∧
    (∀ i : Fin 54, i ∉ [11, 12, 46, 47, 48, 49] →
      (killDeadzone param data).get i = data.get i) := by
  refine ⟨fun f => f.value_killDeadzone_eq_widened hp hd, ?_, ?_, fun i hi => ?_⟩
  · intro f data' hd' hle
    rw [f.value_killDeadzone_eq_widened hp hd, f.value_killDeadzone_eq_widened hp hd']
    exact widened_mono (hp.radius_nonneg f) (hp.lo_le_centre f) (hp.centre_le_hi f) hle
  · intro f hlow hhigh
    rw [f.value_killDeadzone_eq_widened hp hd] at hlow hhigh
    by_contra hfree
    rcases widened_gap hfree with h | h <;> omega
  · exact get_killDeadzone param data hi

theorem tuned_mainParam : mainParam.Tuned where
  lo_le_centre f := by cases f <;> decide
  centre_le_hi f := by cases f <;> decide
  radius_nonneg f := by cases f <;> decide
  radius_le f := by cases f <;> decide

/-- A report with the first motion field a little above its centre. -/
def tiltedReport : Payload :=
  Vector.ofFn fun i => if i.val = 46 then 0x02#8 else if i.val = 47 then 0x10#8 else 0#8

theorem tenBit_tiltedReport : TenBit tiltedReport := by
  intro f hf
  rcases hf with rfl | rfl <;> decide

theorem killDeadzone_removes_tilted :
    Field.value (killDeadzone mainParam tiltedReport) .sixh = 0x217 ∧
      Field.value (killDeadzone mainParam tiltedReport) .stkh = 0 ∧
      (killDeadzone mainParam tiltedReport).get 0 = tiltedReport.get 0 := by
  have h := killDeadzone_removes tuned_mainParam tenBit_tiltedReport
  exact ⟨(h.1 .sixh).trans (by decide), (h.1 .stkh).trans (by decide), h.2.2.2 0 (by decide)⟩

/-! ## Reports from the wire and keys without limit -/

/-- The sums that a correction assigns to `val`. -/
def sums (centre radius hi val : Int) : List Int :=
  (if val ≥ centre then [val + radius] else []) ++
    (if correctUp centre radius hi val < centre then [correctUp centre radius hi val - radius]
      else [])

/-- After the corrections each motion field is within its bounds, and each stick
byte is the corrected value, on the way to which no sum wraps around. -/
structure Contained (param : Param) (data : Payload) : Prop where
  motion : ∀ f : Field, f.IsMotion →
    f.lo ≤ f.value (killDeadzone param data) ∧ f.value (killDeadzone param data) ≤ f.hi
  stick : ∀ f : Field, ¬f.IsMotion →
    (∀ sum ∈ sums (f.centre param) (f.radius param) f.hi (f.val data), toShort sum = sum) ∧
      f.value (killDeadzone param data) = f.corrected param data

/-- The corrections keep a motion field, read as a signed number, in its bounds. Below
its centre it must not wrap around on its way down. At or above its centre it must not
wrap around to a value that is then left as it is, and where it falls below the centre
the second correction must bring it back to a value within the bounds. -/
def MotionKept (centre radius val : Int) : Prop :=
  if val < centre then toShort (val - radius) ≤ 0x2FF
  else if 0x2FF < toShort (val + radius) then
    centre ≤ 0x2FF ∨ toShort (0x2FF - radius) ≤ 0x2FF
  else if toShort (val + radius) < centre then val ≤ 0x2FF
  else 0x100 ≤ toShort (val + radius)

/-- The corrections keep a stick: no sum wraps around, and a negative radius takes it
neither past 255 from below the centre nor below 0 from above, unless it then
falls below the centre and is moved back. -/
def StickKept (centre radius val : Int) : Prop :=
  if val < centre then -32768 ≤ val - radius ∧ val - radius ≤ 0xFF
  else -32768 ≤ val + radius ∧ val + radius ≤ 32767 ∧ (0 ≤ val + radius ∨ val + radius < centre)

/-- The condition on the parameters and the field as it arrives. -/
def Field.Kept (param : Param) (data : Payload) (f : Field) : Prop :=
  if f.IsMotion then MotionKept (f.centre param) (f.radius param) (f.val data)
  else StickKept (f.centre param) (f.radius param) (f.val data)

section Kept
variable {centre radius lo hi val : Int}

theorem toShort_back (hval : -32768 ≤ val ∧ val ≤ 32767) :
    toShort (toShort (val + radius) - radius) = val :=
  calc toShort (toShort (val + radius) - radius)
      = toShort (val + radius - radius) := Int.bmod_sub_bmod
    _ = toShort val := by rw [Int.add_sub_cancel]
    _ = val := toShort_eq hval

/-- Below the centre only the second correction acts. -/
theorem correct_of_lt (h : val < centre) :
    correct centre radius lo hi val = max (toShort (val - radius)) lo := by
  rw [correct, correctUp, if_neg (by omega), correctDown, if_pos h]
  simp only
  split_ifs <;> omega

/-- What the upper bound has stopped is corrected again where the centre lies
above that bound. -/
theorem correct_of_stopped (h : centre ≤ val) (hstop : hi < toShort (val + radius)) :
    correct centre radius lo hi val =
      if hi < centre then max (toShort (hi - radius)) lo else hi := by
  rw [correct, correctUp, if_pos h]
  simp only
  rw [if_pos hstop, correctDown]
  simp only
  split_ifs <;> omega

/-- What has fallen below the centre goes back to where it was. -/
theorem correct_of_fallen (hval : -32768 ≤ val ∧ val ≤ 32767) (h : centre ≤ val)
    (hfree : toShort (val + radius) ≤ hi) (hfall : toShort (val + radius) < centre) :
    correct centre radius lo hi val = max val lo := by
  rw [correct, correctUp, if_pos h]
  simp only
  rw [if_neg (by omega), correctDown, if_pos hfall]
  simp only [toShort_back hval]
  split_ifs <;> omega

theorem correct_of_raised (h : centre ≤ val) (hfree : toShort (val + radius) ≤ hi)
    (hstay : centre ≤ toShort (val + radius)) :
    correct centre radius lo hi val = toShort (val + radius) := by
  rw [correct, correctUp, if_pos h]
  simp only
  rw [if_neg (by omega), correctDown, if_neg (by omega)]

theorem correctUp_of_le (h : centre ≤ val) :
    correctUp centre radius hi val =
      if hi < toShort (val + radius) then hi else toShort (val + radius) :=
  if_pos h

theorem sums_of_lt (h : val < centre) : sums centre radius hi val = [val - radius] := by
  have hup : correctUp centre radius hi val = val := if_neg (by omega)
  rw [sums, hup, if_neg (by omega), if_pos h]
  rfl

theorem forall_sums_of_le {P : Int → Prop} (h : centre ≤ val) :
    (∀ sum ∈ sums centre radius hi val, P sum) ↔
      P (val + radius) ∧ (correctUp centre radius hi val < centre →
        P (correctUp centre radius hi val - radius)) := by
  rw [sums, if_pos h, List.forall_mem_append, List.forall_mem_singleton]
  split_ifs with hdown <;> simp [hdown]

/-- A motion field is within its bounds exactly where the condition holds. -/
theorem correct_motion_iff (centre radius : Int) {val : Int} (hval : -32768 ≤ val ∧ val ≤ 32767) :
    (0x100 ≤ correct centre radius 0x100 0x2FF val % 65536 ∧
      correct centre radius 0x100 0x2FF val % 65536 ≤ 0x2FF) ↔
      MotionKept centre radius val := by
  have hrange := toShort_range (val - radius)
  have hrange' := toShort_range (0x2FF - radius)
  unfold MotionKept
  split_ifs with hbelow hstop hfall
  · rw [correct_of_lt hbelow]
    omega
  · rw [correct_of_stopped (by omega) hstop]
    split_ifs <;> omega
  · rw [correct_of_fallen hval (by omega) (by omega) hfall]
    omega
  · rw [correct_of_raised (by omega) (by omega) (by omega)]
    have hsum := toShort_range (val + radius)
    omega

/-- A stick is stored as it is corrected exactly where the condition holds. -/
theorem correct_stick_iff (centre radius : Int) {val : Int} (hval : 0 ≤ val ∧ val ≤ 0xFF) :
    ((∀ sum ∈ sums centre radius 0xFF val, toShort sum = sum) ∧
      correct centre radius 0x00 0xFF val % 256 = correct centre radius 0x00 0xFF val) ↔
      StickKept centre radius val := by
  have hshort : -32768 ≤ val ∧ val ≤ 32767 := by omega
  have hfits (x : Int) : toShort x = x ↔ -32768 ≤ x ∧ x ≤ 32767 :=
    ⟨fun h => h ▸ toShort_range x, toShort_eq⟩
  unfold StickKept
  split_ifs with hbelow
  · rw [sums_of_lt hbelow, List.forall_mem_singleton, hfits, correct_of_lt hbelow]
    constructor
    · rintro ⟨hfit, hbyte⟩
      rw [toShort_eq hfit] at hbyte
      omega
    · intro hkept
      rw [toShort_eq (by omega)]
      omega
  · have habove : centre ≤ val := by omega
    rw [forall_sums_of_le habove, correctUp_of_le habove]
    by_cases hstop : 0xFF < toShort (val + radius)
    · rw [if_pos hstop, correct_of_stopped habove hstop, if_neg (by omega), hfits]
      constructor
      · rintro ⟨⟨hfit, -⟩, -⟩
        rw [toShort_eq hfit] at hstop
        omega
      · intro hkept
        exact ⟨⟨by omega, fun hdown => by omega⟩, by decide⟩
    · rw [if_neg hstop]
      by_cases hfall : toShort (val + radius) < centre
      · rw [correct_of_fallen hshort habove (by omega) hfall, toShort_back hshort, hfits]
        constructor
        · rintro ⟨⟨hfit, -⟩, -⟩
          rw [toShort_eq hfit] at hfall
          omega
        · intro hkept
          rw [toShort_eq (by omega)]
          omega
      · rw [correct_of_raised habove (by omega) (by omega), hfits]
        constructor
        · rintro ⟨⟨hfit, -⟩, hbyte⟩
          rw [toShort_eq hfit] at hbyte hfall
          omega
        · intro hkept
          rw [toShort_eq (by omega)] at hfall hstop ⊢
          omega

end Kept

theorem Field.motion_iff {param : Param} {data : Payload} {f : Field} (hf : f.IsMotion) :
    (f.lo ≤ f.value (killDeadzone param data) ∧ f.value (killDeadzone param data) ≤ f.hi) ↔
      f.Kept param data := by
  rw [f.value_killDeadzone, corrected, Kept, if_pos hf, lo, hi, capacity, if_pos hf, if_pos hf,
    if_pos hf]
  exact correct_motion_iff (f.centre param) (f.radius param) (toShort_range _)

theorem Field.stick_iff {param : Param} {data : Payload} {f : Field} (hf : ¬f.IsMotion) :
    ((∀ sum ∈ sums (f.centre param) (f.radius param) f.hi (f.val data), toShort sum = sum) ∧
      f.value (killDeadzone param data) = f.corrected param data) ↔ f.Kept param data := by
  have hval := f.stick_val_range hf data
  rw [f.value_killDeadzone, corrected, Kept, if_neg hf, lo, hi, capacity, if_neg hf, if_neg hf,
    if_neg hf]
  exact correct_stick_iff (f.centre param) (f.radius param) hval

/-- With any parameters the fields are contained exactly where each one is kept. -/
theorem contained_iff_kept (param : Param) (data : Payload) :
    Contained param data ↔ ∀ f : Field, f.Kept param data := by
  constructor
  · intro h f
    by_cases hf : f.IsMotion
    · exact (Field.motion_iff hf).mp (h.motion f hf)
    · exact (Field.stick_iff hf).mp (h.stick f hf)
  · intro h
    exact
      { motion := fun f hf => (Field.motion_iff hf).mpr (h f)
        stick := fun f hf => (Field.stick_iff hf).mpr (h f) }

/-- After any keys the fields of a report are contained exactly where each one is
kept. -/
theorem contained_iff (keys : List (Option Char)) (data : Payload) :
    Contained (keyedParam keys) data ↔ ∀ f : Field, f.Kept (keyedParam keys) data :=
  contained_iff_kept (keyedParam keys) data

/-- A report whose first motion field is the least signed number. -/
def leastReport : Payload := Vector.ofFn fun i => if i.val = 46 then 0x80#8 else 0#8

theorem least_not_contained :
    ¬∀ (keys : List (Option Char)) (data : Payload), Contained (keyedParam keys) data := by
  intro h
  have hmotion := (h [] leastReport).motion .sixh (by decide)
  have hvalue : Field.value (killDeadzone (keyedParam []) leastReport) .sixh = 0x7FF9 := by decide
  rw [hvalue] at hmotion
  exact absurd hmotion.2 (by decide)

/-- A small radius wraps a sum around only next to the ends of a `short`. -/
theorem motionKept_iff {centre radius val : Int} (hcentre : 0x100 ≤ centre ∧ centre ≤ 0x2FF)
    (hradius : 0 ≤ radius ∧ radius ≤ 255) (hval : -32768 ≤ val ∧ val ≤ 32767) :
    MotionKept centre radius val ↔ -32768 ≤ val - radius ∧ val + radius ≤ 32767 := by
  have hdown := toShort_cases (x := val - radius) (by omega)
  have hup := toShort_cases (x := val + radius) (by omega)
  unfold MotionKept
  split_ifs <;> omega

theorem stickKept {centre radius val : Int} (hcentre : 0 ≤ centre ∧ centre ≤ 0xFF)
    (hradius : 0 ≤ radius ∧ radius ≤ 255) (hval : 0 ≤ val ∧ val ≤ 0xFF) :
    StickKept centre radius val := by
  unfold StickKept
  split_ifs <;> omega

/-- A tuned proxy contains every report whose motion fields are a radius away from
the ends of a `short`. -/
theorem contained_iff_of_tuned {param : Param} (hp : param.Tuned) (data : Payload) :
    Contained param data ↔ ∀ f : Field, f.IsMotion →
      -32768 ≤ f.val data - f.radius param ∧ f.val data + f.radius param ≤ 32767 := by
  have hradius (f : Field) := And.intro (hp.radius_nonneg f) (hp.radius_le f)
  have hcentre (f : Field) := And.intro (hp.lo_le_centre f) (hp.centre_le_hi f)
  have hmotion {f : Field} (hf : f.IsMotion) : f.Kept param data ↔
      -32768 ≤ f.val data - f.radius param ∧ f.val data + f.radius param ≤ 32767 := by
    have hbounds := hcentre f
    rw [Field.lo, Field.hi, if_pos hf, if_pos hf] at hbounds
    rw [Field.Kept, if_pos hf]
    exact motionKept_iff hbounds (hradius f) (toShort_range _)
  have hstick {f : Field} (hf : ¬f.IsMotion) : f.Kept param data := by
    have hbounds := hcentre f
    rw [Field.lo, Field.hi, if_neg hf, if_neg hf] at hbounds
    rw [Field.Kept, if_neg hf]
    exact stickKept hbounds (hradius f) (f.stick_val_range hf data)
  rw [contained_iff_kept]
  constructor
  · intro h f hf
    exact (hmotion hf).mp (h f)
  · intro h f
    by_cases hf : f.IsMotion
    · exact (hmotion hf).mpr (h f hf)
    · exact hstick hf

theorem contained_of_tenBit {param : Param} {data : Payload} (hp : param.Tuned)
    (hd : TenBit data) : Contained param data := by
  apply (contained_iff_of_tuned hp data).mpr
  intro f _
  have hnonneg := f.value_nonneg data
  have hle := f.value_le hd
  have hradius := hp.radius_nonneg f
  have hradiusLe := hp.radius_le f
  rw [f.val_eq_value hd]
  omega

/-- The motion fields of a packet are within their bounds, if it is a report. -/
def InBounds (data : List U8) : Prop :=
  ∀ report : Payload, data = report.toList → ∀ f : Field, f.IsMotion →
    f.lo ≤ f.value report ∧ f.value report ≤ f.hi

/-- The motion fields of a packet are kept, if it is a report. -/
def MotionKeptIn (param : Param) (data : List U8) : Prop :=
  ∀ report : Payload, data = report.toList → ∀ f : Field, f.IsMotion → f.Kept param report

theorem inBounds_corrected_iff (param : Param) (data : List U8) :
    InBounds (corrected param data) ↔ MotionKeptIn param data := by
  constructor
  · rintro h report rfl f hf
    exact (Field.motion_iff hf).mp (h _ (corrected_report param report) f hf)
  · intro h sent hsent f hf
    have hlen : data.length = 54 := by
      rw [← corrected_length_iff param, hsent, Vector.length_toList]
    have hdata : data = (⟨data.toArray, hlen⟩ : Payload).toList := rfl
    have hkill : sent = killDeadzone param ⟨data.toArray, hlen⟩ := by
      apply Vector.toList_inj.mp
      rw [← hsent, ← corrected_report, ← hdata]
    rw [hkill]
    exact (Field.motion_iff hf).mpr (h _ hdata f hf)

/-- Where the controller's reports are kept under the keys so far, the motion fields
of all reports that the console gets are within their bounds, and only there. -/
theorem mainLoop_inBounds_iff (first : AclPacket) {hps3 : U16} (hne : first.handle ≠ hps3)
    (turns : List Turn) :
    (∀ sent ∈ mainLoop.outputs (connected first hps3) turns,
      sent.handle = hps3 → InBounds sent.data) ↔
    mainLoop.Along (fun s _ => s.packet.handle = first.handle →
      MotionKeptIn s.param s.packet.data) (connected first hps3) turns := by
  let I (s : Proxy) : Prop := s.hsix = first.handle ∧ s.hps3 = hps3
  have out (s : Proxy) (turn : Turn) (hs : I s) :
      (∀ sent ∈ (mainLoop.step s turn).2, sent.handle = hps3 → InBounds sent.data) ↔
        (s.packet.handle = first.handle → MotionKeptIn s.param s.packet.data) := by
    obtain ⟨hhsix, hhps3⟩ := hs
    have hstep : (mainLoop.step s turn).2 = s.forward := rfl
    rw [← hhsix, ← hhps3] at hne
    rw [hstep, ← hhsix, ← hhps3]
    by_cases hsix : s.packet.handle = s.hsix
    · rw [forward_controller hne hsix, List.forall_mem_singleton, inBounds_corrected_iff]
      exact ⟨fun h _ => h rfl, fun h _ => h hsix⟩
    · have hnone : ∀ sent ∈ s.forward, sent.handle ≠ s.hps3 := by
        by_cases hps3 : s.packet.handle = s.hps3
        · rw [forward_console hne hps3, List.forall_mem_singleton]
          exact hne
        · rw [forward_other hsix hps3]
          exact List.forall_mem_nil _
      exact ⟨fun _ h => absurd h hsix, fun _ sent hsent h => absurd h (hnone sent hsent)⟩
  exact Machine.forall_outputs_iff_along (N := fun _ => True)
    (fun s turn hs _ _ => hs) (fun s turn hs _ => out s turn hs) ⟨rfl, rfl⟩ fun _ _ => trivial

end DiyPs3Controller.SixProxy
