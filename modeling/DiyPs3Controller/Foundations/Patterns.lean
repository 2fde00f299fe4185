import Mathlib.Data.List.Forall2
import DiyPs3Controller.Foundations.Machines

/-!
# Patterns in a stream

A scanner waits for the items of a pattern one after the other and lets pass
whatever it does not wait for. It takes each item at the first chance, and by
that misses nothing: it has found the pattern as soon as the stream holds it.
-/

namespace DiyPs3Controller.Patterns

variable {α ι : Type*} (fits : ι → α → Prop) [∀ i a, Decidable (fits i a)]

/-- The state is what is still waited for; the outputs are the items found. -/
def scanner : Machine (List α) ι α where
  step
    | [], _ => ([], [])
    | a :: rest, i => if fits i a then (rest, [a]) else (a :: rest, [])

/-- Some inputs fit the pattern, one after the other, with any others between them. -/
def Holds (inputs : List ι) (pattern : List α) : Prop :=
  ∃ chosen : List ι, chosen.Sublist inputs ∧ List.Forall₂ fits chosen pattern

variable {fits} {a : α} {i : ι} {pattern rest : List α} {inputs : List ι}

theorem step_fits (h : fits i a) : (scanner fits).step (a :: rest) i = (rest, [a]) :=
  if_pos h

theorem step_waits (h : ¬ fits i a) : (scanner fits).step (a :: rest) i = (a :: rest, []) :=
  if_neg h

omit [∀ i a, Decidable (fits i a)] in
/-- What holds a pattern holds the rest of it. -/
theorem Holds.tail (h : Holds fits inputs (a :: rest)) : Holds fits inputs rest := by
  obtain ⟨chosen, hsub, hfits⟩ := h
  cases hfits with
  | cons _ hrest => exact ⟨_, (List.sublist_cons_self _ _).trans hsub, hrest⟩

omit [∀ i a, Decidable (fits i a)] in
theorem holds_cons_of_fits (h : fits i a) :
    Holds fits (i :: inputs) (a :: rest) ↔ Holds fits inputs rest := by
  constructor
  · rintro ⟨chosen, hsub, hfits⟩
    cases hfits with
    | cons hfirst hrest => exact ⟨_, hsub.tail, hrest⟩
  · rintro ⟨chosen, hsub, hfits⟩
    exact ⟨i :: chosen, hsub.cons_cons i, .cons h hfits⟩

omit [∀ i a, Decidable (fits i a)] in
theorem holds_cons_of_waits (h : ¬ fits i a) :
    Holds fits (i :: inputs) (a :: rest) ↔ Holds fits inputs (a :: rest) := by
  constructor
  · rintro ⟨chosen, hsub, hfits⟩
    cases hfits with
    | cons hfirst hrest =>
        cases hsub with
        | cons _ hsub => exact ⟨_, hsub, .cons hfirst hrest⟩
        | cons_cons _ hsub => exact absurd hfirst h
  · rintro ⟨chosen, hsub, hfits⟩
    exact ⟨chosen, hsub.cons i, hfits⟩

omit [∀ i a, Decidable (fits i a)] in
/-- Items that are waited for by one of their parts form a pattern of these parts. -/
theorem holds_map {β : Type*} {fits : ι → β → Prop} (f : α → β) (pattern : List α) :
    Holds (fun i a => fits i (f a)) inputs pattern ↔ Holds fits inputs (pattern.map f) :=
  exists_congr fun _ => and_congr_right fun _ => List.forall₂_map_right_iff.symm

/-- What is found and what is waited for are the pattern. -/
theorem scanner_split (pattern : List α) (inputs : List ι) :
    (scanner fits).outputs pattern inputs ++ (scanner fits).state pattern inputs = pattern := by
  induction inputs generalizing pattern with
  | nil => rfl
  | cons i later ih =>
      rw [Machine.outputs_cons, Machine.state_cons, List.append_assoc, ih]
      cases pattern with
      | nil => rfl
      | cons a rest =>
          by_cases h : fits i a
          · rw [step_fits h]
            rfl
          · rw [step_waits h]
            rfl

/-- The scanner is through exactly when the stream holds the pattern. -/
theorem scanner_done_iff (pattern : List α) (inputs : List ι) :
    (scanner fits).state pattern inputs = [] ↔ Holds fits inputs pattern := by
  induction inputs generalizing pattern with
  | nil =>
      constructor
      · rintro rfl
        exact ⟨[], List.Sublist.refl [], .nil⟩
      · rintro ⟨chosen, hsub, hfits⟩
        obtain rfl := List.sublist_nil.mp hsub
        cases hfits
        rfl
  | cons i later ih =>
      rw [Machine.state_cons]
      cases pattern with
      | nil => exact (ih []).trans ⟨fun ⟨c, h, hf⟩ => ⟨c, h.cons i, hf⟩,
          fun _ => ⟨[], List.nil_sublist _, .nil⟩⟩
      | cons a rest =>
          by_cases h : fits i a
          · rw [step_fits h, ih, holds_cons_of_fits h]
          · rw [step_waits h, ih, holds_cons_of_waits h]

end DiyPs3Controller.Patterns
