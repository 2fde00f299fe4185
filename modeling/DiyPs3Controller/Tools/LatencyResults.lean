import DiyPs3Controller.Foundations.Loops
import DiyPs3Controller.Ps2.Avr

/-!
# The statistics of the latency tools

The tools that measure latencies share one function for their statistics. Its
loop runs over an array whose unused entries are zero, and takes the first zero
for the end of the samples. The array is unsigned while the sum, the worst value
and the average are of type `int`.
-/

namespace DiyPs3Controller

/-- `unsigned int`, and the bits of an `int`. -/
abbrev U32 := BitVec 32

namespace Latencies

open Loops

/-- An array with these values at its start and zeros behind them. -/
def samples (recorded : List U32) (j : Nat) : U32 := recorded.getD j 0#32

/-- The variables of the first loop. -/
structure Tally where
  i : U32
  sum : U32
  worst : U32

def Tally.start : Tally := ⟨0#32, 0#32, 0#32⟩

/-- `i<bound && tdiff[i]>0` -/
def goesOn (bound : U32) (tdiff : Nat → U32) (t : Tally) : Prop :=
  t.i.toNat < bound.toNat ∧ 0 < (tdiff t.i.toNat).toNat

instance (bound : U32) (tdiff : Nat → U32) : DecidablePred (goesOn bound tdiff) :=
  fun t => inferInstanceAs (Decidable (t.i.toNat < bound.toNat ∧ 0 < (tdiff t.i.toNat).toNat))

/-- One round. `tdiff[i] > worst` compares as unsigned. -/
def add (tdiff : Nat → U32) (t : Tally) : Tally where
  i := t.i + 1#32
  sum := t.sum + tdiff t.i.toNat
  worst := if t.worst.toNat < (tdiff t.i.toNat).toNat then tdiff t.i.toNat else t.worst

/-- The first loop. It cannot go on for more than `bound` rounds. -/
def tally (bound : U32) (tdiff : Nat → U32) : Tally :=
  runFor (goesOn bound tdiff) (add tdiff) bound.toNat Tally.start

/-- The division of two `int`s, none when the divisor is zero. -/
def divide (a b : U32) : Option U32 := if b = 0#32 then none else some (a.sdiv b)

/-- What is reported: `nbval`, `worst`, and `average` where the function gets there. -/
structure Report where
  nbval : Int
  worst : Int
  average : Option Int
  deriving DecidableEq, Repr

/-- The function up to the standard deviation. What the second loop leaves in
`temp` is only divided. The result is none when a division by zero is reached. -/
def statistics (bound : U32) (temp : U32) (tdiff : Nat → U32) : Option Report :=
  let t := tally bound tdiff
  let nbval := t.i
  if nbval.toInt < 2 then
    some { nbval := nbval.toInt, worst := t.worst.toInt, average := none }
  else do
    let average ← divide t.sum nbval
    let _ ← divide temp (nbval - 1#32)
    return { nbval := nbval.toInt, worst := t.worst.toInt, average := some average.toInt }

end Latencies

namespace SerialBench

/-- `worst`, and `average` where the function gets there; `nbval` is not printed. -/
structure Report where
  worst : Int
  average : Option Int
  deriving DecidableEq, Repr

/-- `results` of `serial_bench` -/
def results (temp : U32) (tdiff : Nat → U32) (cpt : U32) : Option Report :=
  (Latencies.statistics cpt temp tdiff).map fun r => ⟨r.worst, r.average⟩

end SerialBench

namespace SixemulatUsb

/-- `RECORDS` -/
def records : Nat := 1024

/-- `results` of `sixemulat_usb` -/
def results (temp : U32) (tdiff : Nat → U32) : Option Latencies.Report :=
  Latencies.statistics (BitVec.ofNat 32 records) temp tdiff

end SixemulatUsb

namespace Latencies

open Loops

/-- The exact sum of the latencies. -/
def total (recorded : List U32) : Nat := recorded.foldr (fun d n => d.toNat + n) 0

/-- The largest latency, 0 when there is none. -/
def greatest (recorded : List U32) : Nat := (recorded.map BitVec.toNat).foldl max 0

/-- The index of the first zero latency, else the number of latencies. -/
def firstZero (recorded : List U32) : Nat := recorded.findIdx (· == 0#32)

/-- The latencies before the first zero. -/
def beforeZero (recorded : List U32) : List U32 := recorded.take (firstZero recorded)

/-- The count, the worst value and, when there is a latency, the average that are
reported are those of all recorded latencies. -/
def Reported (recorded : List U32) (outcome : Option Report) : Prop :=
  ∃ r, outcome = some r ∧ r.nbval = recorded.length ∧ r.worst = greatest recorded ∧
    (recorded ≠ [] → r.average = some ((total recorded / recorded.length : Nat) : Int))

/-- The report covers all recorded latencies: moreover the accumulator is exact after
every round, and no division by zero is reached. -/
structure Covers (recorded : List U32) (outcome : Option Report) : Prop where
  accumulator : ∀ k ≤ recorded.length,
    ((add (samples recorded))^[k] Tally.start).sum.toInt = total (recorded.take k)
  reported : Reported recorded outcome

/-- The same where no count is reported; the rounds are those that the loop makes. -/
structure CoversUncounted (cpt : U32) (recorded : List U32) (outcome : Option SerialBench.Report) :
    Prop where
  accumulator : ∀ k, (∀ j < k, goesOn cpt (samples recorded)
      ((add (samples recorded))^[j] Tally.start)) →
    ((add (samples recorded))^[k] Tally.start).sum.toInt = total (recorded.take k)
  reported : ∃ r, outcome = some r ∧ r.worst = greatest recorded ∧
    (recorded ≠ [] → r.average = some ((total recorded / recorded.length : Nat) : Int))

/-- The latencies before the first zero fit an `int`, and when there is a latency, they
are two at least, none behind them is larger than all of them, and their average is
that of all. -/
structure ZeroHarmless (recorded : List U32) : Prop where
  small : total (beforeZero recorded) < 2147483648
  two : recorded ≠ [] → 2 ≤ (beforeZero recorded).length
  worst : greatest (beforeZero recorded) = greatest recorded
  average : recorded ≠ [] → total (beforeZero recorded) / (beforeZero recorded).length =
    total recorded / recorded.length

/-! ## Sums and maxima -/

@[simp] theorem total_nil : total [] = 0 := rfl

@[simp] theorem total_cons (d : U32) (rest : List U32) :
    total (d :: rest) = d.toNat + total rest := rfl

theorem total_append (xs ys : List U32) : total (xs ++ ys) = total xs + total ys := by
  induction xs with
  | nil => simp
  | cons d rest ih => simp [ih, Nat.add_assoc]

theorem total_take_le (recorded : List U32) (k : Nat) :
    total (recorded.take k) ≤ total recorded :=
  calc
    total (recorded.take k) ≤ total (recorded.take k) + total (recorded.drop k) :=
      Nat.le_add_right _ _
    _ = total recorded := by rw [← total_append, List.take_append_drop]

theorem length_le_total {recorded : List U32} (nonzero : ∀ d ∈ recorded, d ≠ 0#32) :
    recorded.length ≤ total recorded := by
  induction recorded with
  | nil => exact Nat.le_refl 0
  | cons d rest ih =>
      obtain ⟨hd, hrest⟩ := List.forall_mem_cons.mp nonzero
      have hpos : 0 < d.toNat := by
        apply Nat.pos_of_ne_zero
        intro hzero
        exact hd (BitVec.eq_of_toNat_eq hzero)
      have hlength := ih hrest
      rw [List.length_cons, total_cons]
      omega

theorem foldl_max_le_add_total (recorded : List U32) (a : Nat) :
    (recorded.map BitVec.toNat).foldl max a ≤ a + total recorded := by
  induction recorded generalizing a with
  | nil => exact Nat.le_refl a
  | cons d rest ih =>
      calc
        ((d :: rest).map BitVec.toNat).foldl max a ≤ max a d.toNat + total rest := ih _
        _ ≤ a + total (d :: rest) := by rw [total_cons]; omega

theorem greatest_le_total (recorded : List U32) : greatest recorded ≤ total recorded := by
  have h := foldl_max_le_add_total recorded 0
  rwa [Nat.zero_add] at h

/-! ## The values of an `int` -/

/-- A value that fits an `int` is read back as it is. -/
theorem toInt_ofNat_of_lt {n : Nat} (h : n < 2147483648) : (BitVec.ofNat 32 n).toInt = n := by
  have htoNat : (BitVec.ofNat 32 n).toNat = n := by
    rw [BitVec.toNat_ofNat]
    omega
  rw [BitVec.toInt_eq_toNat_of_lt (by omega), htoNat]

/-- A count or sum that is read back as it is fits an `int`. -/
theorem lt_of_toInt_ofNat {n m : Nat} (h : (BitVec.ofNat 32 n).toInt = m) : m < 2147483648 := by
  have hlt := BitVec.toInt_lt (x := BitVec.ofNat 32 n)
  omega

/-- The division of two values that fit is the floor of the quotient. -/
theorem toInt_sdiv_ofNat {a b : Nat} (ha : a < 2147483648) (hb : b < 2147483648) :
    ((BitVec.ofNat 32 a).sdiv (BitVec.ofNat 32 b)).toInt = (a / b : Nat) := by
  have hne : BitVec.ofNat 32 b ≠ -1#32 := by
    intro h
    have hminus : (b : Int) = -1 := by rw [← toInt_ofNat_of_lt hb, h]; rfl
    omega
  rw [BitVec.toInt_sdiv_of_ne_or_ne _ _ (Or.inr hne), toInt_ofNat_of_lt ha, toInt_ofNat_of_lt hb,
    Int.ofNat_tdiv]

/-- A quotient that is the floor tells that the dividend fits. -/
theorem lt_of_toInt_sdiv {a b : Nat} (hpos : 0 < b) (hb : b < 2147483648) (hle : b ≤ a)
    (h : ((BitVec.ofNat 32 a).sdiv (BitVec.ofNat 32 b)).toInt = (a / b : Nat)) :
    a < 2147483648 := by
  have hne : BitVec.ofNat 32 b ≠ -1#32 := by
    intro hminus
    have hminus' : (b : Int) = -1 := by rw [← toInt_ofNat_of_lt hb, hminus]; rfl
    omega
  have hone : 1 ≤ a / b := (Nat.one_le_div_iff hpos).mpr hle
  have hfloor : a < a / b * b + b := Nat.lt_div_mul_add hpos
  rw [BitVec.toInt_sdiv_of_ne_or_ne _ _ (Or.inr hne), toInt_ofNat_of_lt hb] at h
  have hwrapped : (BitVec.ofNat 32 a).toInt = a ∨ (BitVec.ofNat 32 a).toInt ≤ a - 4294967296 := by
    rw [BitVec.toInt_eq_toNat_cond, BitVec.toNat_ofNat]
    split <;> omega
  have hdividend : ((a / b * b : Nat) : Int) < (BitVec.ofNat 32 a).toInt + b := by
    have hle := Int.tdiv_mul_le (BitVec.ofNat 32 a).toInt (show (b : Int) ≠ 0 by omega)
    rw [Int.natCast_mul, ← h]
    split at hle <;> omega
  rcases hwrapped with hsame | hless
  · have hlt := BitVec.toInt_lt (x := BitVec.ofNat 32 a)
    omega
  · omega

/-! ## The divisions -/

/-- Below two samples the function returns before the average. -/
theorem statistics_of_lt_two {bound temp : U32} {tdiff : Nat → U32}
    (h : (tally bound tdiff).i.toInt < 2) :
    statistics bound temp tdiff = some
      { nbval := (tally bound tdiff).i.toInt, worst := (tally bound tdiff).worst.toInt,
        average := none } :=
  if_pos h

/-- From two samples on neither division has a zero divisor. -/
theorem statistics_of_two_le {bound temp : U32} {tdiff : Nat → U32}
    (h : 2 ≤ (tally bound tdiff).i.toInt) :
    statistics bound temp tdiff = some
      { nbval := (tally bound tdiff).i.toInt, worst := (tally bound tdiff).worst.toInt,
        average := some ((tally bound tdiff).sum.sdiv (tally bound tdiff).i).toInt } := by
  have hnbval : (tally bound tdiff).i ≠ 0#32 := by
    intro hzero
    rw [hzero] at h
    exact absurd h (by decide)
  have hless : (tally bound tdiff).i - 1#32 ≠ 0#32 := by
    intro hzero
    have hone : (tally bound tdiff).i = 1#32 := by bv_omega
    rw [hone] at h
    exact absurd h (by decide)
  simp [statistics, Int.not_lt.mpr h, divide, hnbval, hless]

theorem statistics_isSome (bound temp : U32) (tdiff : Nat → U32) :
    (statistics bound temp tdiff).isSome := by
  by_cases h : (tally bound tdiff).i.toInt < 2
  · rw [statistics_of_lt_two h, Option.isSome_some]
  · rw [statistics_of_two_le (Int.not_lt.mp h), Option.isSome_some]

theorem statistics_nbval {bound temp : U32} {tdiff : Nat → U32} {r : Report}
    (h : statistics bound temp tdiff = some r) : r.nbval = (tally bound tdiff).i.toInt := by
  by_cases htwo : (tally bound tdiff).i.toInt < 2
  · rw [statistics_of_lt_two htwo] at h
    cases h
    rfl
  · rw [statistics_of_two_le (Int.not_lt.mp htwo)] at h
    cases h
    rfl

/-! ## The rounds of the loop -/

section Rounds
variable (recorded : List U32)

theorem samples_of_lt {k : Nat} (hk : k < recorded.length) : samples recorded k = recorded[k] := by
  simp [samples, hk]

theorem samples_of_le {k : Nat} (hk : recorded.length ≤ k) : samples recorded k = 0#32 := by
  simp [samples, hk]

theorem add_i (tdiff : Nat → U32) (t : Tally) : (add tdiff t).i = t.i + 1#32 := rfl

theorem round_i (tdiff : Nat → U32) (k : Nat) :
    ((add tdiff)^[k] Tally.start).i = BitVec.ofNat 32 k :=
  counter_iterate (add_i tdiff) rfl k

theorem round_i_toNat (tdiff : Nat → U32) {k : Nat} (hk : k < 4294967296) :
    ((add tdiff)^[k] Tally.start).i.toNat = k :=
  counter_toNat (add_i tdiff) rfl hk

theorem total_take_succ {k : Nat} (hk : k < recorded.length) :
    total (recorded.take (k + 1)) = total (recorded.take k) + (samples recorded k).toNat := by
  rw [samples_of_lt recorded hk, List.take_succ_eq_append_getElem hk, total_append]
  rfl

theorem greatest_take_succ {k : Nat} (hk : k < recorded.length) :
    greatest (recorded.take (k + 1)) =
      max (greatest (recorded.take k)) (samples recorded k).toNat := by
  rw [samples_of_lt recorded hk, greatest, List.take_succ_eq_append_getElem hk, List.map_append,
    List.foldl_append]
  rfl

variable {recorded} (short : recorded.length < 4294967296)
include short

theorem round_sum {k : Nat} (hk : k ≤ recorded.length) :
    ((add (samples recorded))^[k] Tally.start).sum = BitVec.ofNat 32 (total (recorded.take k)) := by
  induction k with
  | zero => rfl
  | succ k ih =>
      have hi := round_i_toNat (samples recorded) (k := k) (by omega)
      rw [Function.iterate_succ_apply', total_take_succ recorded (by omega), BitVec.ofNat_add,
        BitVec.ofNat_toNat, BitVec.setWidth_eq, ← ih (by omega)]
      simp only [add, hi]

theorem round_worst {k : Nat} (hk : k ≤ recorded.length) :
    ((add (samples recorded))^[k] Tally.start).worst.toNat = greatest (recorded.take k) := by
  induction k with
  | zero => rfl
  | succ k ih =>
      have hi := round_i_toNat (samples recorded) (k := k) (by omega)
      rw [Function.iterate_succ_apply', greatest_take_succ recorded (by omega), ← ih (by omega)]
      simp only [add, hi]
      split <;> omega

end Rounds

/-! ## Where the loop ends -/

section End
variable {bound : U32} {recorded : List U32}

theorem firstZero_le : firstZero recorded ≤ recorded.length := List.findIdx_le_length

theorem firstZero_eq_length_iff :
    firstZero recorded = recorded.length ↔ ∀ d ∈ recorded, d ≠ 0#32 := by
  simp [firstZero, List.findIdx_eq_length]

theorem samples_pos {k : Nat} (hk : k < firstZero recorded) : 0 < (samples recorded k).toNat := by
  have hlen : k < recorded.length := Nat.lt_of_lt_of_le hk firstZero_le
  have hne := List.not_of_lt_findIdx hk
  rw [samples_of_lt recorded hlen]
  apply Nat.pos_of_ne_zero
  intro hzero
  have : recorded[k] = 0#32 := BitVec.eq_of_toNat_eq hzero
  simp [this] at hne

theorem samples_firstZero : samples recorded (firstZero recorded) = 0#32 := by
  by_cases hlen : firstZero recorded < recorded.length
  · have hzero := List.findIdx_getElem (p := (· == 0#32)) (w := hlen)
    rw [samples_of_lt recorded hlen]
    exact eq_of_beq hzero
  · exact samples_of_le recorded (Nat.le_of_not_lt hlen)

/-- The loop ends at the first zero. -/
theorem leftAfter_firstZero (fits : recorded.length ≤ bound.toNat) :
    LeftAfter (goesOn bound (samples recorded)) (add (samples recorded)) Tally.start
      (firstZero recorded) := by
  have hle := @firstZero_le recorded
  have hbound := bound.isLt
  constructor
  · intro k hk
    have hi := round_i_toNat (samples recorded) (k := k) (by omega)
    rw [goesOn, hi]
    exact ⟨by omega, samples_pos hk⟩
  · have hi := round_i_toNat (samples recorded) (k := firstZero recorded) (by omega)
    rw [goesOn, hi, samples_firstZero]
    simp

theorem tally_samples (fits : recorded.length ≤ bound.toNat) :
    tally bound (samples recorded) = (add (samples recorded))^[firstZero recorded] Tally.start :=
  (leftAfter_firstZero fits).runFor_eq (Nat.le_trans firstZero_le fits)

theorem length_beforeZero : (beforeZero recorded).length = firstZero recorded := by
  rw [beforeZero, List.length_take, Nat.min_eq_left firstZero_le]

theorem beforeZero_ne_zero : ∀ d ∈ beforeZero recorded, d ≠ 0#32 := by
  intro d hd hzero
  obtain ⟨k, hget⟩ := List.mem_iff_getElem?.mp hd
  rw [beforeZero, List.getElem?_take] at hget
  split at hget
  case isTrue hk =>
    have hpos := samples_pos hk
    rw [samples, List.getD_eq_getElem?_getD, hget, hzero] at hpos
    exact Nat.lt_irrefl 0 hpos
  case isFalse => cases hget

theorem beforeZero_eq_self (nonzero : ∀ d ∈ recorded, d ≠ 0#32) :
    beforeZero recorded = recorded := by
  rw [beforeZero, firstZero_eq_length_iff.mpr nonzero, List.take_length]

/-- The loop's variables when the latencies before the first zero fit an `int`. -/
theorem tally_of_small (fits : recorded.length ≤ bound.toNat)
    (small : total (beforeZero recorded) < 2147483648) :
    (tally bound (samples recorded)).i.toInt = (beforeZero recorded).length ∧
      (tally bound (samples recorded)).i = BitVec.ofNat 32 (beforeZero recorded).length ∧
      (tally bound (samples recorded)).sum = BitVec.ofNat 32 (total (beforeZero recorded)) ∧
      (tally bound (samples recorded)).worst.toInt = greatest (beforeZero recorded) := by
  have hbound := bound.isLt
  have hcount : (beforeZero recorded).length ≤ total (beforeZero recorded) :=
    length_le_total beforeZero_ne_zero
  have hshort : recorded.length < 4294967296 := by omega
  have hworst := round_worst hshort firstZero_le
  have hgreatest := greatest_le_total (beforeZero recorded)
  rw [← beforeZero] at hworst
  rw [tally_samples fits, length_beforeZero, round_i]
  rw [length_beforeZero] at hcount
  refine ⟨toInt_ofNat_of_lt (by omega), rfl, ?_, ?_⟩
  · exact round_sum hshort firstZero_le
  · rw [BitVec.toInt_eq_toNat_of_lt (by omega), hworst]

/-- The count that is read back tells that the loop has met no zero. -/
theorem nonzero_of_count (fits : recorded.length ≤ bound.toNat)
    (count : (tally bound (samples recorded)).i.toInt = recorded.length) :
    ∀ d ∈ recorded, d ≠ 0#32 := by
  have hle := @firstZero_le recorded
  rw [tally_samples fits, round_i] at count
  have hlength := lt_of_toInt_ofNat count
  rw [toInt_ofNat_of_lt (by omega)] at count
  exact firstZero_eq_length_iff.mp (Int.ofNat.inj count)

/-- What is reported is right exactly when no latency is zero, their sum fits an `int` and
there is not just one. -/
theorem reported_statistics_iff (fits : recorded.length ≤ bound.toNat) (temp : U32) :
    Reported recorded (statistics bound temp (samples recorded)) ↔
      (∀ d ∈ recorded, d ≠ 0#32) ∧ total recorded < 2147483648 ∧ recorded.length ≠ 1 := by
  have hbound := bound.isLt
  constructor
  · rintro ⟨r, hr, hcount, -, haverage⟩
    have hnbval := statistics_nbval hr
    rw [hcount] at hnbval
    have nonzero := nonzero_of_count fits hnbval.symm
    by_cases hnil : recorded = []
    · rw [hnil]
      exact ⟨List.forall_mem_nil _, by decide, by decide⟩
    have htwo : 2 ≤ recorded.length := by
      by_contra hless
      rw [statistics_of_lt_two (by omega)] at hr
      cases hr
      cases haverage hnil
    have hi : (tally bound (samples recorded)).i = BitVec.ofNat 32 recorded.length := by
      rw [tally_samples fits, firstZero_eq_length_iff.mpr nonzero, round_i]
    have hsum : (tally bound (samples recorded)).sum = BitVec.ofNat 32 (total recorded) := by
      rw [tally_samples fits, firstZero_eq_length_iff.mpr nonzero,
        round_sum (by omega) (Nat.le_refl _), List.take_length]
    have hlength : recorded.length < 2147483648 := lt_of_toInt_ofNat (hi ▸ hnbval.symm)
    rw [statistics_of_two_le (by omega)] at hr
    obtain rfl := Option.some.inj hr
    have hfloor := Option.some.inj (haverage hnil)
    rw [hi, hsum] at hfloor
    exact ⟨nonzero, lt_of_toInt_sdiv (by omega) hlength (length_le_total nonzero) hfloor, by omega⟩
  · rintro ⟨nonzero, small, hone⟩
    have hcount := length_le_total nonzero
    have hall := tally_of_small fits (by rw [beforeZero_eq_self nonzero]; exact small)
    rw [beforeZero_eq_self nonzero] at hall
    obtain ⟨hnbval, hi, hsum, hworst⟩ := hall
    by_cases htwo : recorded.length < 2
    · refine ⟨_, statistics_of_lt_two (by omega), hnbval, hworst, fun hne => ?_⟩
      exact absurd (List.length_pos_iff.mpr hne) (by omega)
    · refine ⟨_, statistics_of_two_le (by omega), hnbval, hworst, fun _ => ?_⟩
      rw [hsum, hi, toInt_sdiv_ofNat small (by omega)]

/-- The report covers the samples exactly when it is right. -/
theorem covers_statistics_iff (fits : recorded.length ≤ bound.toNat) (temp : U32) :
    Covers recorded (statistics bound temp (samples recorded)) ↔
      (∀ d ∈ recorded, d ≠ 0#32) ∧ total recorded < 2147483648 ∧ recorded.length ≠ 1 := by
  have hbound := bound.isLt
  rw [← reported_statistics_iff fits temp]
  refine ⟨fun h => h.reported, fun h => ⟨fun k hk => ?_, h⟩⟩
  rw [round_sum (by omega) hk]
  have small := ((reported_statistics_iff fits temp).mp h).2.1
  exact toInt_ofNat_of_lt (Nat.lt_of_le_of_lt (total_take_le recorded k) small)

/-- The loop makes its rounds up to the first zero. -/
theorem rounds_le_firstZero (fits : recorded.length ≤ bound.toNat) {k : Nat}
    (h : ∀ j < k, goesOn bound (samples recorded) ((add (samples recorded))^[j] Tally.start)) :
    k ≤ firstZero recorded :=
  Nat.le_of_not_lt fun hless => (leftAfter_firstZero fits).2 (h _ hless)

/-- What is reported without the count is right, and reached without a wrap of the
accumulator, exactly when the first zero does no harm. -/
theorem covers_uncounted_iff {cpt : U32} (fits : recorded.length ≤ cpt.toNat) (temp : U32) :
    CoversUncounted cpt recorded (SerialBench.results temp (samples recorded) cpt) ↔
      ZeroHarmless recorded := by
  have hbound := cpt.isLt
  have hshort : recorded.length < 4294967296 := by omega
  constructor
  · rintro ⟨hexact, r, hr, hworst, haverage⟩
    have hlast := hexact (firstZero recorded) (leftAfter_firstZero fits).1
    rw [round_sum hshort firstZero_le] at hlast
    have small : total (beforeZero recorded) < 2147483648 := lt_of_toInt_ofNat hlast
    obtain ⟨hnbval, hi, hsum, hlargest⟩ := tally_of_small fits small
    have hcount : (beforeZero recorded).length ≤ total (beforeZero recorded) :=
      length_le_total beforeZero_ne_zero
    by_cases htwo : 2 ≤ (beforeZero recorded).length
    · rw [SerialBench.results, statistics_of_two_le (by omega)] at hr
      obtain rfl := Option.some.inj hr
      rw [hlargest] at hworst
      refine ⟨small, fun _ => htwo, Int.ofNat.inj hworst, fun hne => ?_⟩
      have hfloor := Option.some.inj (haverage hne)
      rw [hsum, hi, toInt_sdiv_ofNat small (by omega)] at hfloor
      exact Int.ofNat.inj hfloor
    · rw [SerialBench.results, statistics_of_lt_two (by omega)] at hr
      obtain rfl := Option.some.inj hr
      rw [hlargest] at hworst
      refine ⟨small, fun hne => ?_, Int.ofNat.inj hworst, fun hne => ?_⟩
      · cases haverage hne
      · cases haverage hne
  · intro h
    obtain ⟨hnbval, hi, hsum, hlargest⟩ := tally_of_small fits h.small
    have hcount : (beforeZero recorded).length ≤ total (beforeZero recorded) :=
      length_le_total beforeZero_ne_zero
    have hsmall := h.small
    constructor
    · intro k hk
      have hle := rounds_le_firstZero fits hk
      have htake : recorded.take k = (beforeZero recorded).take k := by
        rw [beforeZero, List.take_take, Nat.min_eq_left hle]
      rw [round_sum hshort (Nat.le_trans hle firstZero_le), htake]
      exact toInt_ofNat_of_lt (Nat.lt_of_le_of_lt (total_take_le _ k) h.small)
    · by_cases hnil : recorded = []
      · have hnone : (beforeZero recorded).length = 0 := by rw [hnil]; rfl
        rw [SerialBench.results, statistics_of_lt_two (by omega)]
        exact ⟨_, rfl, hlargest.trans (congrArg Nat.cast h.worst), fun hne => absurd hnil hne⟩
      · have htwo := h.two hnil
        rw [SerialBench.results, statistics_of_two_le (by omega)]
        refine ⟨_, rfl, hlargest.trans (congrArg Nat.cast h.worst), fun _ => ?_⟩
        rw [hsum, hi, toInt_sdiv_ofNat h.small (by omega), h.average hnil]

end End

/-- The statistics of `sixemulat_usb` cover the recorded latencies exactly when none of
them is zero, their sum fits an `int` and there is not just one. Those of
`serial_bench`, which reports no count, cover them exactly when the first zero does no
harm to the worst value and the average. -/
theorem results_cover_iff (recorded : List U32) (temp : U32) :
    (∀ cpt : U32, recorded.length ≤ cpt.toNat →
      (CoversUncounted cpt recorded (SerialBench.results temp (samples recorded) cpt) ↔
        ZeroHarmless recorded)) ∧
    (recorded.length ≤ SixemulatUsb.records →
      (Covers recorded (SixemulatUsb.results temp (samples recorded)) ↔
        (∀ d ∈ recorded, d ≠ 0#32) ∧ total recorded < 2147483648 ∧ recorded.length ≠ 1)) := by
  constructor
  · intro cpt fits
    exact covers_uncounted_iff fits temp
  · intro fits
    have hbound : recorded.length ≤ (BitVec.ofNat 32 SixemulatUsb.records).toNat := fits
    exact covers_statistics_iff hbound temp

/-- Two samples of full length with both tools, and a zero that does no harm. -/
theorem results_cover_two :
    CoversUncounted 2#32 [7#32, 4#32] (SerialBench.results 5#32 (samples [7#32, 4#32]) 2#32) ∧
      CoversUncounted 3#32 [1#32, 2#32, 0#32]
        (SerialBench.results 5#32 (samples [1#32, 2#32, 0#32]) 3#32) ∧
      Covers [7#32, 4#32] (SixemulatUsb.results 5#32 (samples [7#32, 4#32])) :=
  ⟨((results_cover_iff [7#32, 4#32] 5#32).1 2#32 (by decide)).mpr
      ⟨by decide, by decide, by decide, by decide⟩,
    ((results_cover_iff [1#32, 2#32, 0#32] 5#32).1 3#32 (by decide)).mpr
      ⟨by decide, by decide, by decide, by decide⟩,
    ((results_cover_iff [7#32, 4#32] 5#32).2 (by decide)).mpr
      ⟨by simp, by simp [total], by simp⟩⟩

/-- A zero hides the samples behind it, a sum beyond the range of `int` is negative,
and for a single sample no average is reported. -/
theorem results_not_covering :
    (SixemulatUsb.results 0#32 (samples [5#32, 0#32, 7#32]) = some ⟨1, 5, none⟩ ∧
      ¬Covers [5#32, 0#32, 7#32] (SixemulatUsb.results 0#32 (samples [5#32, 0#32, 7#32]))) ∧
    (SerialBench.results 0#32 (samples [2147483647#32, 3#32]) 2#32 =
        some ⟨2147483647, some (-1073741823)⟩ ∧
      ¬CoversUncounted 2#32 [2147483647#32, 3#32]
        (SerialBench.results 0#32 (samples [2147483647#32, 3#32]) 2#32)) ∧
    ¬CoversUncounted 1#32 [9#32] (SerialBench.results 0#32 (samples [9#32]) 1#32) := by
  refine ⟨⟨rfl, ?_⟩, ⟨rfl, ?_⟩, ?_⟩
  · intro h
    exact ((covers_statistics_iff (by decide) _).mp h).1 0#32 (by decide) rfl
  · intro h
    exact absurd ((covers_uncounted_iff (by decide) _).mp h).small (by decide)
  · intro h
    exact absurd (((covers_uncounted_iff (by decide) _).mp h).two (by decide)) (by decide)

end Latencies

end DiyPs3Controller
