import Mathlib.Data.List.Basic

/-!
# Offers to a channel

A sender offers its items one by one, and the channel takes or refuses each of
them. What is delivered is what was taken, in the order of the offers.
-/

namespace DiyPs3Controller.Channels

variable {α : Type*}

/-- An item offered to a channel, and whether the channel took it. -/
structure Offer (α : Type*) where
  item : α
  taken : Bool

/-- All items offered, in order. -/
def offered (offers : List (Offer α)) : List α := offers.map Offer.item

/-- The items that the channel took, in order. -/
def delivered (offers : List (Offer α)) : List α := (offers.filter Offer.taken).map Offer.item

@[simp] theorem offered_append (xs ys : List (Offer α)) :
    offered (xs ++ ys) = offered xs ++ offered ys :=
  List.map_append

/-- Nothing is made up, doubled or put in another order. -/
theorem delivered_sublist (offers : List (Offer α)) :
    (delivered offers).Sublist (offered offers) := by
  apply List.Sublist.map
  exact List.filter_sublist

/-- All that was offered arrives exactly when nothing was refused. -/
theorem delivered_eq_offered_iff (offers : List (Offer α)) :
    delivered offers = offered offers ↔ ∀ o ∈ offers, o.taken = true := by
  constructor
  · intro h
    have hlen : (offers.filter Offer.taken).length = offers.length := by
      simpa [delivered, offered] using congrArg List.length h
    exact List.length_filter_eq_length_iff.mp hlen
  · intro h
    rw [delivered, List.filter_eq_self.mpr h, offered]

end DiyPs3Controller.Channels
