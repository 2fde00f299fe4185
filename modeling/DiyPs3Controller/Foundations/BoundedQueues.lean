import DiyPs3Controller.Foundations.Machines

/-!
# Bounded queues

A queue of at most `capacity` items. An item that finds it full is dropped, and
an empty queue answers with a value that stands for no item.
-/

namespace DiyPs3Controller.BoundedQueues

variable {α : Type*} {capacity : Nat}

/-- The items in the order in which they were added, oldest first. -/
@[ext]
structure BoundedQueue (α : Type*) (capacity : Nat) where
  items : List α
  length_le : items.length ≤ capacity

namespace BoundedQueue

def empty : BoundedQueue α capacity := ⟨[], Nat.zero_le capacity⟩

/-- Add an item at the end, if there is room. -/
def add (q : BoundedQueue α capacity) (x : α) : BoundedQueue α capacity :=
  if h : q.items.length < capacity then
    ⟨q.items ++ [x], by rw [List.length_append]; exact h⟩
  else q

/-- Take the oldest item away. -/
def remove (q : BoundedQueue α capacity) : BoundedQueue α capacity :=
  ⟨q.items.tail, by
    rw [List.length_tail]
    exact Nat.le_trans (Nat.sub_le _ 1) q.length_le⟩

@[simp] theorem items_empty : (empty : BoundedQueue α capacity).items = [] := rfl

theorem items_add_of_lt {q : BoundedQueue α capacity} (h : q.items.length < capacity) (x : α) :
    (q.add x).items = q.items ++ [x] := by
  rw [add, dif_pos h]

theorem add_of_full {q : BoundedQueue α capacity} (h : ¬q.items.length < capacity) (x : α) :
    q.add x = q := by
  rw [add, dif_neg h]

@[simp] theorem items_remove (q : BoundedQueue α capacity) : q.remove.items = q.items.tail := rfl

end BoundedQueue

/-- The operations of a queue. -/
inductive Operation (α : Type*)
  | add (x : α)
  | get
  | has
  deriving DecidableEq, Repr

/-- What an operation returns. -/
inductive Result (α : Type*)
  | item (x : α)
  | flag (b : Bool)
  deriving DecidableEq, Repr

/-- The queue as a machine: adding returns the item whether it was taken or not,
getting returns the oldest item. -/
def queueMachine (capacity : Nat) (none : α) :
    Machine (BoundedQueue α capacity) (Operation α) (Result α) where
  step q
    | .add x => (q.add x, [.item x])
    | .get => (q.remove, [.item (q.items.head?.getD none)])
    | .has => (q, [.flag !q.items.isEmpty])

end DiyPs3Controller.BoundedQueues
