import Mathlib.Algebra.Order.Group.Defs
import Mathlib.Algebra.Order.Sub.Basic
import Mathlib.Order.Interval.Set.Basic

/-!
# Dead zones

The values at and above a centre move up by a radius, the others move down by
it, and a bound on each side stops them. On both sides of the centre values next
to it come out a radius away from it, unless a bound has stopped them.
-/

namespace DiyPs3Controller.DeadZones

variable {α : Type*} [AddCommGroup α] [LinearOrder α]

/-- The upper half moves up, at most to `hi`. -/
def raised (c r hi v : α) : α := if c ≤ v then min (v + r) hi else v

/-- The lower half moves down, at least to `lo`. -/
def lowered (c r lo v : α) : α := if v < c then max (v - r) lo else v

/-- Each half moves away from the centre, within the bounds. -/
def widened (c r lo hi v : α) : α := if c ≤ v then min (v + r) hi else max (v - r) lo

/-- A bound has stopped the value. -/
def Clamped (c r lo hi v : α) : Prop := (c ≤ v ∧ hi < v + r) ∨ (v < c ∧ v - r < lo)

variable {c r lo hi v w : α}

theorem widened_of_le (h : c ≤ v) : widened c r lo hi v = min (v + r) hi := if_pos h

theorem widened_of_lt (h : v < c) : widened c r lo hi v = max (v - r) lo :=
  if_neg (not_le_of_gt h)

variable [IsOrderedAddMonoid α]

theorem le_widened (hr : 0 ≤ r) (hhi : c ≤ hi) (h : c ≤ v) : c ≤ widened c r lo hi v := by
  rw [widened_of_le h]
  exact le_min (le_add_of_le_of_nonneg h hr) hhi

theorem widened_le (hr : 0 ≤ r) (hlo : lo ≤ c) (h : v < c) : widened c r lo hi v ≤ c := by
  rw [widened_of_lt h]
  exact max_le ((sub_le_self v hr).trans h.le) hlo

/-- One correction after the other: the second leaves what the first has raised. -/
theorem lowered_raised (hr : 0 ≤ r) (hhi : c ≤ hi) :
    lowered c r lo (raised c r hi v) = widened c r lo hi v := by
  rcases le_or_gt c v with h | h
  · have hraised : raised c r hi v = widened c r lo hi v := by
      rw [widened_of_le h]
      exact if_pos h
    rw [hraised]
    exact if_neg (not_lt_of_ge (le_widened hr hhi h))
  · have hraised : raised c r hi v = v := if_neg (not_le_of_gt h)
    rw [hraised, widened_of_lt h]
    exact if_pos h

theorem widened_mem_Icc (hr : 0 ≤ r) (hlo : lo ≤ c) (hhi : c ≤ hi) :
    widened c r lo hi v ∈ Set.Icc lo hi := by
  rcases le_or_gt c v with h | h
  · constructor
    · exact hlo.trans (le_widened hr hhi h)
    · rw [widened_of_le h]
      exact min_le_right _ _
  · constructor
    · rw [widened_of_lt h]
      exact le_max_right _ _
    · exact (widened_le hr hlo h).trans hhi

theorem widened_mono (hr : 0 ≤ r) (hlo : lo ≤ c) (hhi : c ≤ hi) :
    Monotone (widened c r lo hi) := by
  intro v w hvw
  rcases le_or_gt c v with hv | hv
  · rw [widened_of_le hv, widened_of_le (hv.trans hvw)]
    exact min_le_min_right hi (add_le_add_left hvw r)
  · rcases le_or_gt c w with hw | hw
    · exact (widened_le hr hlo hv).trans (le_widened hr hhi hw)
    · rw [widened_of_lt hv, widened_of_lt hw]
      exact max_le_max_right lo (sub_le_sub_right hvw r)

/-- No value comes out closer to the centre than the radius, unless a bound has
stopped it. -/
theorem widened_gap (h : ¬Clamped c r lo hi v) :
    c + r ≤ widened c r lo hi v ∨ widened c r lo hi v < c - r := by
  rcases le_or_gt c v with hv | hv
  · left
    have hfree : v + r ≤ hi := not_lt.mp fun hlt => h (Or.inl ⟨hv, hlt⟩)
    rw [widened_of_le hv, min_eq_left hfree]
    exact add_le_add_left hv r
  · right
    have hfree : lo ≤ v - r := not_lt.mp fun hlt => h (Or.inr ⟨hv, hlt⟩)
    rw [widened_of_lt hv, max_eq_left hfree]
    exact sub_lt_sub_right hv r

end DiyPs3Controller.DeadZones
