import DiyPs3Controller.Foundations.Machines

/-!
# Progress in rounds

Several parties take turns in any order. Each allowed input leaves the state
alone or lowers a measure, and as long as the goal is not reached one of the
needed inputs lowers it. Then the goal is reached after as many rounds as the
measure says, where a round is any list of allowed inputs with all the needed
ones among them.
-/

namespace DiyPs3Controller.Machine

variable {σ ι ω : Type*}

/-- The allowed inputs never lead away from the goal, and the needed ones lead to it. -/
structure Progressing (M : Machine σ ι ω) (I goal : σ → Prop) (measure : σ → Nat)
    (allowed : ι → Prop) (needed : List ι) : Prop where
  keeps : ∀ s i, I s → allowed i → I (M.step s i).1
  stays : ∀ s i, I s → allowed i → goal s → goal (M.step s i).1
  lowers : ∀ s i, I s → allowed i → (M.step s i).1 = s ∨ measure (M.step s i).1 < measure s
  helps : ∀ s, I s → ¬ goal s → ∃ i ∈ needed, measure (M.step s i).1 < measure s

/-- Allowed inputs with all the needed ones among them. -/
def Round (allowed : ι → Prop) (needed inputs : List ι) : Prop :=
  (∀ i ∈ inputs, allowed i) ∧ ∀ i ∈ needed, i ∈ inputs

variable {M : Machine σ ι ω} {I goal : σ → Prop} {measure : σ → Nat} {allowed : ι → Prop}
  {needed : List ι} (h : Progressing M I goal measure allowed needed)
include h

/-- What a run of allowed inputs keeps, and that it moves the state only downwards. -/
theorem Progressing.run {s : σ} (hs : I s) {inputs : List ι} (ha : ∀ i ∈ inputs, allowed i) :
    I (M.state s inputs) ∧ (goal s → goal (M.state s inputs)) ∧
      (M.state s inputs = s ∨ measure (M.state s inputs) < measure s) := by
  induction inputs generalizing s with
  | nil => exact ⟨hs, id, Or.inl rfl⟩
  | cons i rest ih =>
      obtain ⟨hi, hrest⟩ := List.forall_mem_cons.mp ha
      obtain ⟨hinv, hgoal, hdown⟩ := ih (h.keeps s i hs hi) hrest
      refine ⟨hinv, fun hg => hgoal (h.stays s i hs hi hg), ?_⟩
      rw [state_cons]
      rcases h.lowers s i hs hi with hsame | hlower
      · rw [hsame] at hdown ⊢
        exact hdown
      · right
        rcases hdown with hsame | hless
        · rwa [hsame]
        · exact Nat.lt_trans hless hlower

/-- A round lowers the measure as long as the goal is not reached. -/
theorem Progressing.round {s : σ} (hs : I s) {inputs : List ι}
    (hround : Round allowed needed inputs) (hg : ¬ goal s) :
    measure (M.state s inputs) < measure s := by
  obtain ⟨ha, hn⟩ := hround
  obtain ⟨i, hi, hlower⟩ := h.helps s hs hg
  obtain ⟨before, after, rfl⟩ := List.append_of_mem (hn i hi)
  obtain ⟨hbefore, hafter⟩ := List.forall_mem_append.mp ha
  obtain ⟨hallowed, hafter⟩ := List.forall_mem_cons.mp hafter
  obtain ⟨hinv, -, hfirst⟩ := h.run hs hbefore
  obtain ⟨-, -, hlast⟩ := h.run (h.keeps _ i hinv hallowed) hafter
  have hrest : measure (M.state (M.step (M.state s before) i).1 after) ≤
      measure (M.step (M.state s before) i).1 := by
    rcases hlast with hsame | hless
    · exact Nat.le_of_eq (congrArg measure hsame)
    · exact Nat.le_of_lt hless
  rw [state_append, state_cons]
  refine Nat.lt_of_le_of_lt hrest ?_
  rcases hfirst with hsame | hless
  · rwa [hsame]
  · rcases h.lowers _ i hinv hallowed with hsame | hless'
    · rwa [hsame]
    · exact Nat.lt_trans hless' hless

/-- After as many rounds as the measure says the goal is reached. -/
theorem Progressing.rounds {s : σ} (hs : I s) {rounds : List (List ι)}
    (hrounds : ∀ inputs ∈ rounds, Round allowed needed inputs)
    (hmany : measure s ≤ rounds.length) : goal (M.state s rounds.flatten) := by
  induction rounds generalizing s with
  | nil =>
      by_contra hg
      obtain ⟨i, -, hlower⟩ := h.helps s hs hg
      exact Nat.not_lt_zero _ (Nat.lt_of_lt_of_le hlower hmany)
  | cons inputs rest ih =>
      obtain ⟨hround, hrest⟩ := List.forall_mem_cons.mp hrounds
      obtain ⟨hinv, hgoal, -⟩ := h.run hs hround.1
      rw [List.flatten_cons, state_append]
      by_cases hg : goal s
      · refine (h.run hinv ?_).2.1 (hgoal hg)
        intro i hi
        obtain ⟨later, hlater, hmem⟩ := List.mem_flatten.mp hi
        exact (hrest later hlater).1 i hmem
      · apply ih hinv hrest
        have hlower := h.round hs hround hg
        rw [List.length_cons] at hmany
        omega

end DiyPs3Controller.Machine
