import DiyPs3Controller.Foundations.Machines

/-!
# Registers that show the last value written

An input writes a register or leaves it alone. After a list of inputs such a
register holds the last value that one of them wrote, whatever stands between
the writes, and a part of a machine's state that every step either overwrites
or keeps is such a register.
-/

namespace DiyPs3Controller

variable {ι α β σ ω : Type*}

/-- The last value that the inputs write, or the value before them. -/
def lastWrite (w : ι → Option α) (a : α) (inputs : List ι) : α :=
  (inputs.filterMap w).getLast?.getD a

section Writes
variable (w : ι → Option α) (a : α)

@[simp] theorem lastWrite_nil : lastWrite w a [] = a := rfl

theorem lastWrite_append (xs ys : List ι) :
    lastWrite w a (xs ++ ys) = lastWrite w (lastWrite w a xs) ys := by
  unfold lastWrite
  rw [List.filterMap_append, List.getLast?_append]
  cases (ys.filterMap w).getLast? <;> rfl

@[simp] theorem lastWrite_singleton (i : ι) : lastWrite w a [i] = (w i).getD a := by
  cases h : w i <;> simp [lastWrite, h]

@[simp] theorem lastWrite_concat (xs : List ι) (i : ι) :
    lastWrite w a (xs ++ [i]) = (w i).getD (lastWrite w a xs) := by
  rw [lastWrite_append, lastWrite_singleton]

theorem lastWrite_cons (i : ι) (rest : List ι) :
    lastWrite w a (i :: rest) = lastWrite w ((w i).getD a) rest := by
  rw [← List.singleton_append, lastWrite_append, lastWrite_singleton]

/-- Inputs that write nothing leave the value. -/
theorem lastWrite_of_none {inputs : List ι} (h : ∀ i ∈ inputs, w i = none) :
    lastWrite w a inputs = a := by
  have hnil : inputs.filterMap w = [] := List.filterMap_eq_nil_iff.mpr h
  rw [lastWrite, hnil]
  rfl

/-- Inputs that write nothing may be dropped. -/
theorem lastWrite_filter {p : ι → Bool} (h : ∀ i, p i = false → w i = none) (inputs : List ι) :
    lastWrite w a (inputs.filter p) = lastWrite w a inputs := by
  have hw : (fun i => if p i = true then w i else none) = w := by
    funext i
    cases hp : p i with
    | true => rfl
    | false => exact (h i hp).symm
  rw [lastWrite, lastWrite, List.filterMap_filter, hw]

end Writes

/-- What every step overwrites or keeps is, after a run, the last value written. -/
theorem Machine.state_lastWrite {M : Machine σ ι ω} {read : σ → α} {w : ι → Option α}
    (step : ∀ s i, read (M.step s i).1 = (w i).getD (read s)) (s : σ) (inputs : List ι) :
    read (M.state s inputs) = lastWrite w (read s) inputs := by
  induction inputs generalizing s with
  | nil => rfl
  | cons i rest ih => rw [Machine.state_cons, ih, step, lastWrite_cons]

end DiyPs3Controller
