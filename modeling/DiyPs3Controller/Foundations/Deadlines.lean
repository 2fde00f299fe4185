import Mathlib.Algebra.Group.Nat.Defs
import Mathlib.Order.Monotone.Basic

/-!
# Deadlines polled through a wrapped counter

A deadline lies `delay` ticks ahead of the start. Polls sample a counter of `w`
bits, and a poll fires when the sample equals the wrapped deadline. Ticks may be
skipped between two polls, so that the first poll behind the deadline need not
be one that fires.
-/

namespace DiyPs3Controller.Deadlines

/-- The first index with the property. -/
structure First (P : Nat → Prop) (k : Nat) : Prop where
  holds : P k
  before : ∀ j < k, ¬P j

/-- A property that holds somewhere has a first index. -/
theorem exists_first {P : Nat → Prop} {j : Nat} (hj : P j) : ∃ i ≤ j, First P i := by
  induction j using Nat.strong_induction_on with
  | h j ih =>
      by_cases hearlier : ∃ i < j, P i
      · obtain ⟨i, hij, hi⟩ := hearlier
        obtain ⟨k, hki, hfirst⟩ := ih i hij hi
        exact ⟨k, Nat.le_trans hki (Nat.le_of_lt hij), hfirst⟩
      · exact ⟨j, Nat.le_refl j, hj, fun i hij hi => hearlier ⟨i, hij, hi⟩⟩

variable (w start delay : Nat) (elapsed : Nat → Nat)

/-- The deadline has passed at this poll, less than one turn of the counter ago. -/
def Due (k : Nat) : Prop := delay ≤ elapsed k ∧ elapsed k < 2 ^ w

/-- The sample of this poll equals the wrapped deadline. -/
def Fires (k : Nat) : Prop :=
  BitVec.ofNat w (start + elapsed k) = BitVec.ofNat w start + BitVec.ofNat w delay

variable {w start delay} {elapsed} {k : Nat}

/-- A poll fires when the ticks since the start, as the counter has them, are the delay. -/
theorem fires_iff (hdelay : delay < 2 ^ w) :
    Fires w start delay elapsed k ↔ elapsed k % 2 ^ w = delay := by
  rw [Fires, BitVec.ofNat_add, BitVec.add_right_inj, BitVec.toNat_inj.symm, BitVec.toNat_ofNat,
    BitVec.toNat_ofNat, Nat.mod_eq_of_lt hdelay]

/-- A poll that is due fires only at the deadline itself. -/
theorem Due.fires_iff (hdue : Due w delay elapsed k) :
    Fires w start delay elapsed k ↔ elapsed k = delay := by
  have hdelay : delay < 2 ^ w := Nat.lt_of_le_of_lt hdue.1 hdue.2
  rw [Deadlines.fires_iff hdelay, Nat.mod_eq_of_lt hdue.2]

/-- No poll fires before the deadline. -/
theorem not_fires_of_lt (hdelay : delay < 2 ^ w) (hlt : elapsed k < delay) :
    ¬Fires w start delay elapsed k := by
  rw [Deadlines.fires_iff hdelay, Nat.mod_eq_of_lt (Nat.lt_trans hlt hdelay)]
  exact Nat.ne_of_lt hlt

/-- Before the first poll that is due the deadline has not passed. -/
theorem First.lt_delay (monotone : Monotone elapsed) (hfirst : First (Due w delay elapsed) k)
    {j : Nat} (hj : j < k) : elapsed j < delay := by
  have hle : elapsed j ≤ elapsed k := monotone (Nat.le_of_lt hj)
  apply Nat.lt_of_not_le
  intro hpassed
  exact hfirst.before j hj ⟨hpassed, Nat.lt_of_le_of_lt hle hfirst.holds.2⟩

/-- Among the polls of a counter that never goes back, the first one that is due
is the first one that fires exactly when it meets the deadline. -/
theorem First.fires_iff (monotone : Monotone elapsed) (hfirst : First (Due w delay elapsed) k) :
    First (Fires w start delay elapsed) k ↔ elapsed k = delay := by
  have hdelay : delay < 2 ^ w := Nat.lt_of_le_of_lt hfirst.holds.1 hfirst.holds.2
  constructor
  · intro hfires
    exact hfirst.holds.fires_iff.mp hfires.holds
  · intro hmeets
    constructor
    · exact hfirst.holds.fires_iff.mpr hmeets
    · intro j hj
      exact not_fires_of_lt hdelay (hfirst.lt_delay monotone hj)

end DiyPs3Controller.Deadlines
