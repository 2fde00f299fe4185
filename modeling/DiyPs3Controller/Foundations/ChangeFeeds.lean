import DiyPs3Controller.Foundations.Machines
import Mathlib.Data.List.Destutter

/-!
# Feeds of changes

A sender is offered values one after the other. It sends a value that differs
from the last one it has sent, and any value that it is urged to send. What it
sends are the values offered to it, up to repetitions.
-/

namespace DiyPs3Controller.ChangeFeeds

variable {α : Type*} [DecidableEq α]

/-- The state is the last value sent; an offer is a value and whether it must be sent. -/
def sender : Machine α (α × Bool) α where
  step last offer :=
    if offer.1 ≠ last ∨ offer.2 = true then (offer.1, [offer.1]) else (last, [])

theorem sender_silent {last : α} {offer : α × Bool} (h : ¬(offer.1 ≠ last ∨ offer.2 = true)) :
    sender.step last offer = (last, []) := if_neg h

theorem sender_sends {last : α} {offer : α × Bool} (h : offer.1 ≠ last ∨ offer.2 = true) :
    sender.step last offer = (offer.1, [offer.1]) := if_pos h

/-- The last value sent is remembered. -/
theorem sender_last (last : α) (offers : List (α × Bool)) :
    (last :: sender.outputs last offers).getLast? = some (sender.state last offers) := by
  induction offers generalizing last with
  | nil => rfl
  | cons offer rest ih =>
      rw [Machine.outputs_cons, Machine.state_cons]
      by_cases h : offer.1 ≠ last ∨ offer.2 = true
      · rw [sender_sends h, List.singleton_append, List.getLast?_cons_cons]
        exact ih offer.1
      · rw [sender_silent h]
        exact ih last

/-- Without repetitions, the values sent are the values offered. -/
theorem sender_destutter (last : α) (offers : List (α × Bool)) :
    (last :: sender.outputs last offers).destutter (· ≠ ·) =
      (last :: offers.map Prod.fst).destutter (· ≠ ·) := by
  induction offers generalizing last with
  | nil => rfl
  | cons offer rest ih =>
      rw [Machine.outputs_cons, List.map_cons, List.destutter_cons_cons (rest.map Prod.fst)]
      by_cases hchanged : offer.1 ≠ last
      · have hne : last ≠ offer.1 := hchanged.symm
        rw [sender_sends (Or.inl hchanged), List.singleton_append, List.destutter_cons_cons,
          if_pos hne, if_pos hne]
        exact congrArg (last :: ·) (ih offer.1)
      · have heq : offer.1 = last := not_not.mp hchanged
        have hnot : ¬last ≠ offer.1 := not_not.mpr heq.symm
        rw [if_neg hnot]
        by_cases hurged : offer.2 = true
        · rw [sender_sends (Or.inr hurged), List.singleton_append, List.destutter_cons_cons,
            if_neg hnot, heq]
          exact ih last
        · rw [sender_silent (not_or.mpr ⟨hchanged, hurged⟩)]
          exact ih last

end DiyPs3Controller.ChangeFeeds
