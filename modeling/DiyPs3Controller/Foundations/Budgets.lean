import DiyPs3Controller.Foundations.Machines

/-!
# Budgets and ranks of runs

The steps of a run may be charged. A budget that pays for every step bounds the
cost of every run, and a rank that falls until a machine has settled bounds the
number of steps before that.
-/

namespace DiyPs3Controller.Budgets

variable {σ ι ω : Type*} (M : Machine σ ι ω)

/-- What the steps of a run cost. -/
def cost (charge : σ → ι → Nat) (s : σ) : List ι → Nat
  | [] => 0
  | i :: rest => charge s i + cost charge (M.step s i).1 rest

/-- A run in which one of the outputs is what costs. -/
theorem cost_count [DecidableEq ω] (o : ω) (s : σ) (inputs : List ι) :
    cost M (fun s i => (M.step s i).2.count o) s inputs = (M.outputs s inputs).count o := by
  induction inputs generalizing s with
  | nil => rfl
  | cons i rest ih => rw [cost, ih, Machine.outputs_cons, List.count_append]

variable {M} {charge : σ → ι → Nat} {I settled : σ → Prop}

section
variable (keep : ∀ s i, I s → I (M.step s i).1)
include keep

/-- A budget that pays for every step, with one more for each input that earns,
and what is left pay for the run. -/
theorem cost_le_add_countP {budget : σ → Nat} {earns : ι → Bool}
    (pay : ∀ s i, I s →
      charge s i + budget (M.step s i).1 ≤ budget s + if earns i then 1 else 0)
    {s : σ} (hs : I s) (inputs : List ι) :
    cost M charge s inputs ≤ budget s + inputs.countP earns := by
  induction inputs generalizing s with
  | nil => exact Nat.zero_le _
  | cons i rest ih =>
      calc cost M charge s (i :: rest)
        _ = charge s i + cost M charge (M.step s i).1 rest := rfl
        _ ≤ charge s i + (budget (M.step s i).1 + rest.countP earns) :=
          Nat.add_le_add_left (ih (keep s i hs)) _
        _ = charge s i + budget (M.step s i).1 + rest.countP earns := (Nat.add_assoc _ _ _).symm
        _ ≤ budget s + (if earns i then 1 else 0) + rest.countP earns :=
          Nat.add_le_add_right (pay s i hs) _
        _ = budget s + (i :: rest).countP earns := by
          rw [List.countP_cons, Nat.add_assoc, Nat.add_comm (if earns i then 1 else 0)]

/-- A budget that pays for every step and what is left pays for the run. -/
theorem cost_le {budget : σ → Nat}
    (pay : ∀ s i, I s → charge s i + budget (M.step s i).1 ≤ budget s)
    {s : σ} (hs : I s) (inputs : List ι) : cost M charge s inputs ≤ budget s := by
  have hnone : inputs.countP (fun _ => false) = 0 := List.countP_eq_zero.mpr (by simp)
  calc cost M charge s inputs
    _ ≤ budget s + inputs.countP (fun _ => false) := cost_le_add_countP keep pay hs inputs
    _ = budget s := by rw [hnone, Nat.add_zero]

/-- A machine that has settled stays so. -/
theorem settled_run (stay : ∀ s i, I s → settled s → settled (M.step s i).1)
    {s : σ} (hs : I s) (hsettled : settled s) (inputs : List ι) : settled (M.state s inputs) := by
  have hboth : I (M.state s inputs) ∧ settled (M.state s inputs) :=
    Machine.state_of_step (I := fun s => I s ∧ settled s)
      (fun s i h => ⟨keep s i h.1, stay s i h.1 h.2⟩) ⟨hs, hsettled⟩ inputs
  exact hboth.2

/-- A machine settles within as many steps as its rank, if every step before
lowers the rank. -/
theorem settled_of_rank_le {rank : σ → Nat}
    (stay : ∀ s i, I s → settled s → settled (M.step s i).1)
    (descend : ∀ s i, I s → ¬settled s → rank (M.step s i).1 < rank s)
    (zero : ∀ s, I s → rank s = 0 → settled s)
    {s : σ} (hs : I s) (inputs : List ι) (hrank : rank s ≤ inputs.length) :
    settled (M.state s inputs) := by
  induction inputs generalizing s with
  | nil => exact zero s hs (Nat.le_zero.mp hrank)
  | cons i rest ih =>
      by_cases hsettled : settled s
      · exact settled_run keep stay hs hsettled (i :: rest)
      · apply ih (keep s i hs)
        have hlower := descend s i hs hsettled
        rw [List.length_cons] at hrank
        omega

end

end DiyPs3Controller.Budgets
