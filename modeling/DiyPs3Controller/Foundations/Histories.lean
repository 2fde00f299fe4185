import Mathlib.Data.List.Induction

/-!
# Histories of inputs

A history is the list of the inputs so far, the last one at its end. What is
said of every prefix or of every splitting of a history is extended by one
input at a time. A latch is set by some inputs and cleared by others.
-/

namespace DiyPs3Controller.Histories

variable {ι : Type*}

/-- What holds at every input of a history holds at those of the history before
the last input, and at the last input. -/
theorem forall_split_concat {C : List ι → ι → Prop} {history : List ι} {x : ι} :
    (∀ before i after, history ++ [x] = before ++ i :: after → C before i) ↔
      (∀ before i after, history = before ++ i :: after → C before i) ∧ C history x := by
  constructor
  · intro h
    constructor
    · intro before i after hsplit
      exact h before i (after ++ [x]) (by rw [hsplit, List.append_assoc, List.cons_append])
    · exact h history x [] rfl
  · rintro ⟨hbefore, hlast⟩ before i after hsplit
    rcases List.eq_nil_or_concat after with rfl | ⟨after, y, rfl⟩
    · obtain ⟨rfl, hx⟩ := List.append_inj' hsplit rfl
      obtain rfl := (List.cons.inj hx).1
      exact hlast
    · have hinit : history ++ [x] = (before ++ i :: after) ++ [y] := by
        rw [hsplit, List.concat_eq_append, List.append_assoc, List.cons_append]
      exact hbefore before i after (List.append_inj' hinit rfl).1

/-- What holds of every prefix holds of the prefixes of the history before the
last input, and of the whole history. -/
theorem forall_prefix_concat {T : List ι → Prop} {history : List ι} {x : ι} :
    (∀ before after, history ++ [x] = before ++ after → T before) ↔
      (∀ before after, history = before ++ after → T before) ∧ T (history ++ [x]) := by
  constructor
  · intro h
    constructor
    · intro before after hsplit
      exact h before (after ++ [x]) (by rw [hsplit, List.append_assoc])
    · exact h (history ++ [x]) [] (List.append_nil _).symm
  · rintro ⟨hbefore, hlast⟩ before after hsplit
    rcases List.eq_nil_or_concat after with rfl | ⟨after, y, rfl⟩
    · rw [List.append_nil] at hsplit
      rwa [← hsplit]
    · have hinit : history ++ [x] = (before ++ after) ++ [y] := by
        rw [hsplit, List.concat_eq_append, List.append_assoc]
      exact hbefore before after (List.append_inj' hinit rfl).1

/-- A property of histories that a guard on the last input decides, as long as
it has held before, holds of every prefix exactly when the guard held at every
input. -/
theorem forall_prefix_iff {T : List ι → Prop} {C : List ι → ι → Prop} (start : T [])
    (step : ∀ before i, T before → (T (before ++ [i]) ↔ C before i)) (history : List ι) :
    (∀ before after, history = before ++ after → T before) ↔
      ∀ before i after, history = before ++ i :: after → C before i := by
  induction history using List.reverseRecOn with
  | nil =>
      constructor
      · intro _ before i after hsplit
        simp at hsplit
      · intro _ before after hsplit
        rw [(List.nil_eq_append_iff.mp hsplit).1]
        exact start
  | append_singleton history x ih =>
      rw [forall_prefix_concat, forall_split_concat, ← ih]
      apply and_congr_right
      intro hbefore
      exact step history x (hbefore history [] (List.append_nil _).symm)

/-- If a guard holds at some input of a history, it holds at a last one. -/
theorem exists_last_split {C : List ι → ι → Prop} {history : List ι}
    (h : ∃ before i after, history = before ++ i :: after ∧ C before i) :
    ∃ before i after, history = before ++ i :: after ∧ C before i ∧
      ∀ pre j post, after = pre ++ j :: post → ¬C (before ++ i :: pre) j := by
  induction history using List.reverseRecOn with
  | nil =>
      obtain ⟨before, i, after, hsplit, -⟩ := h
      simp at hsplit
  | append_singleton history x ih =>
      by_cases hlast : C history x
      · refine ⟨history, x, [], rfl, hlast, ?_⟩
        intro pre j post hsplit
        simp at hsplit
      · have hearlier : ∃ before i after, history = before ++ i :: after ∧ C before i := by
          by_contra hnone
          push Not at hnone
          have hall := forall_split_concat (C := fun before i => ¬C before i)
            |>.mpr ⟨hnone, hlast⟩
          obtain ⟨before, i, after, hsplit, hC⟩ := h
          exact hall before i after hsplit hC
        obtain ⟨before, i, after, rfl, hC, hafter⟩ := ih hearlier
        refine ⟨before, i, after ++ [x], ?_, hC, forall_split_concat.mpr ⟨hafter, hlast⟩⟩
        rw [List.append_assoc, List.cons_append]

/-- Some input has set the latch, and none after it has cleared it. -/
def Latched (sets clears : ι → Prop) (history : List ι) : Prop :=
  ∃ before i after, history = before ++ i :: after ∧ sets i ∧ ∀ j ∈ after, ¬clears j

theorem not_latched_nil (sets clears : ι → Prop) : ¬Latched sets clears [] := by
  rintro ⟨before, i, after, hsplit, -⟩
  simp at hsplit

/-- The last input sets the latch, or leaves it as it was. -/
theorem latched_concat_iff {sets clears : ι → Prop} {history : List ι} {x : ι} :
    Latched sets clears (history ++ [x]) ↔
      sets x ∨ ¬clears x ∧ Latched sets clears history := by
  constructor
  · rintro ⟨before, i, after, hsplit, hset, hafter⟩
    rcases List.eq_nil_or_concat after with rfl | ⟨after, y, rfl⟩
    · obtain ⟨rfl, hx⟩ := List.append_inj' hsplit rfl
      obtain rfl := (List.cons.inj hx).1
      exact Or.inl hset
    · have hinit : history ++ [x] = (before ++ i :: after) ++ [y] := by
        rw [hsplit, List.concat_eq_append, List.append_assoc, List.cons_append]
      obtain ⟨rfl, hx⟩ := List.append_inj' hinit rfl
      obtain rfl := (List.cons.inj hx).1
      rw [List.concat_eq_append, List.forall_mem_append] at hafter
      exact Or.inr ⟨hafter.2 x (List.mem_singleton_self x), before, i, after, rfl, hset, hafter.1⟩
  · rintro (hset | ⟨hclear, before, i, after, rfl, hset, hafter⟩)
    · exact ⟨history, x, [], rfl, hset, List.forall_mem_nil _⟩
    · refine ⟨before, i, after ++ [x], ?_, hset, ?_⟩
      · rw [List.append_assoc, List.cons_append]
      · exact List.forall_mem_append.mpr ⟨hafter, List.forall_mem_singleton.mpr hclear⟩

end DiyPs3Controller.Histories
