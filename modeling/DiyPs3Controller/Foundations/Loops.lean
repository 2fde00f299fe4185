import Mathlib.Algebra.Group.Nat.Defs
import Mathlib.Logic.Function.Iterate

/-!
# Loops with a counter of fixed width

A loop is its guard and its body, and the rounds are iterates of the body. A
counter of `w` bits that is compared with a bound counts up to the bound only if
the bound fits the counter; else the loop is never left.
-/

namespace DiyPs3Controller.Loops

variable {σ : Type*} {guard : σ → Prop} {body : σ → σ} {s : σ}

/-- The loop is left after exactly `n` rounds. -/
structure LeftAfter (guard : σ → Prop) (body : σ → σ) (s : σ) (n : Nat) : Prop where
  runs : ∀ k < n, guard (body^[k] s)
  leaves : ¬guard (body^[n] s)

/-- The loop is never left. -/
def Endless (guard : σ → Prop) (body : σ → σ) (s : σ) : Prop := ∀ k, guard (body^[k] s)

theorem Endless.not_leftAfter (h : Endless guard body s) (n : Nat) :
    ¬LeftAfter guard body s n :=
  fun hleft => hleft.leaves (h n)

theorem leftAfter_succ_iff {n : Nat} :
    LeftAfter guard body s (n + 1) ↔ guard s ∧ LeftAfter guard body (body s) n := by
  constructor
  · intro h
    refine ⟨h.runs 0 (Nat.succ_pos n), ?_, h.leaves⟩
    intro k hk
    exact h.runs (k + 1) (Nat.succ_lt_succ hk)
  · rintro ⟨hfirst, hrest⟩
    refine ⟨?_, hrest.leaves⟩
    intro k hk
    cases k with
    | zero => exact hfirst
    | succ k => exact hrest.runs k (Nat.lt_of_succ_lt_succ hk)

/-- The loop stopped after `fuel` rounds, if it is not left before. -/
def runFor (guard : σ → Prop) [DecidablePred guard] (body : σ → σ) : Nat → σ → σ
  | 0, s => s
  | fuel + 1, s => if guard s then runFor guard body fuel (body s) else s

/-- With enough fuel the loop ends where it is left. -/
theorem LeftAfter.runFor_eq [DecidablePred guard] {n fuel : Nat} (h : LeftAfter guard body s n)
    (hfuel : n ≤ fuel) : runFor guard body fuel s = body^[n] s := by
  induction fuel generalizing n s with
  | zero =>
      have hn : n = 0 := Nat.le_zero.mp hfuel
      subst hn
      rfl
  | succ fuel ih =>
      cases n with
      | zero => exact if_neg h.leaves
      | succ n =>
          have hsplit := leftAfter_succ_iff.mp h
          rw [runFor, if_pos hsplit.1]
          exact ih hsplit.2 (Nat.le_of_succ_le_succ hfuel)

/-- A bound beyond the counter's range is never reached. -/
theorem endless_of_le {w bound : Nat} {counter : σ → BitVec w}
    (guard_iff : ∀ s, guard s ↔ (counter s).toNat < bound) (hbound : 2 ^ w ≤ bound) (s : σ) :
    Endless guard body s := by
  intro k
  rw [guard_iff]
  exact Nat.lt_of_lt_of_le (BitVec.isLt _) hbound

section Counter
variable {w bound : Nat} {counter : σ → BitVec w}
  (count : ∀ s, counter (body s) = counter s + 1#w) (start : counter s = 0#w)
include count start

/-- After `k` rounds the counter is at `k`, as far as it can count. -/
theorem counter_iterate (k : Nat) : counter (body^[k] s) = BitVec.ofNat w k := by
  induction k with
  | zero => exact start
  | succ k ih => rw [Function.iterate_succ_apply', count, ih, BitVec.ofNat_add]

theorem counter_toNat {k : Nat} (hk : k < 2 ^ w) : (counter (body^[k] s)).toNat = k := by
  rw [counter_iterate count start, BitVec.toNat_ofNat, Nat.mod_eq_of_lt hk]

variable (guard_iff : ∀ s, guard s ↔ (counter s).toNat < bound)
include guard_iff

/-- A bound that the counter reaches is the number of rounds. -/
theorem leftAfter_bound (hbound : bound < 2 ^ w) : LeftAfter guard body s bound where
  runs := by
    intro k hk
    rw [guard_iff, counter_toNat count start (Nat.lt_trans hk hbound)]
    exact hk
  leaves := by
    rw [guard_iff, counter_toNat count start hbound]
    exact Nat.lt_irrefl bound

/-- The number of rounds is the bound exactly when the counter can reach it. -/
theorem leftAfter_bound_iff : LeftAfter guard body s bound ↔ bound < 2 ^ w := by
  constructor
  · intro hleft
    apply Nat.lt_of_not_le
    intro hbound
    exact (endless_of_le guard_iff hbound s).not_leftAfter bound hleft
  · exact leftAfter_bound count start guard_iff

end Counter

end DiyPs3Controller.Loops
