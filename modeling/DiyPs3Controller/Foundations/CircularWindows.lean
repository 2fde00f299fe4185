import Mathlib.Data.Nat.ModEq
import Mathlib.Data.List.Basic

/-!
# Circular windows

A ring of cells is read through a window: so many entries from a start slot
on, going back to slot zero after the last one. Writing behind the window
appends to it, and moving its start by one slot drops its first entry.
-/

namespace DiyPs3Controller.CircularWindows

variable {α : Type*} [Inhabited α]

/-- The slot `k` places after `start` in a ring of `size` slots. -/
def slot (size start k : Nat) : Nat := (start + k) % size

/-- The `len` entries from `start` on. -/
def window (cells : List α) (size start len : Nat) : List α :=
  (List.range len).map fun k => cells.getD (slot size start k) default

@[simp] theorem window_length (cells : List α) (size start len : Nat) :
    (window cells size start len).length = len := by
  simp [window]

@[simp] theorem window_zero (cells : List α) (size start : Nat) :
    window cells size start 0 = [] := rfl

theorem slot_lt {size start k : Nat} (h : 0 < size) : slot size start k < size :=
  Nat.mod_lt _ h

/-- Two offsets inside one turn of the ring are two slots. -/
theorem slot_ne {size start j k : Nat} (hj : j < k) (hk : k < size) :
    slot size start k ≠ slot size start j := by
  intro h
  have hmod : k ≡ j [MOD size] := Nat.ModEq.add_left_cancel' start h
  have heq : k = j := hmod.eq_of_lt_of_lt hk (by omega)
  omega

theorem slot_slot (size start j k : Nat) :
    slot size (slot size start j) k = slot size start (j + k) := by
  simp [slot, Nat.add_assoc]

/-- Writing the slot behind a window that leaves room appends the entry. -/
theorem window_set (cells : List α) {size start len : Nat} (x : α)
    (hlen : len < size) (hcells : size ≤ cells.length) :
    window (cells.set (slot size start len) x) size start (len + 1) =
      window cells size start len ++ [x] := by
  have hslot : slot size start len < cells.length :=
    (slot_lt (by omega)).trans_le hcells
  simp only [window, List.range_succ, List.map_append, List.map_cons, List.map_nil]
  congr 1
  · apply List.map_congr_left
    intro k hk
    have hne : slot size start len ≠ slot size start k := slot_ne (List.mem_range.mp hk) hlen
    simp [List.getElem?_set_ne hne]
  · simp [hslot]

/-- The first entry of a window, and the window one slot further on. -/
theorem window_succ (cells : List α) {size start : Nat} (len : Nat) (hstart : start < size) :
    window cells size start (len + 1) =
      cells.getD start default :: window cells size (slot size start 1) len := by
  simp only [window, List.range_succ_eq_map, List.map_cons, List.map_map]
  congr 1
  · simp [slot, Nat.mod_eq_of_lt hstart]
  · apply List.map_congr_left
    intro k _
    simp [slot_slot, Nat.add_comm 1 k]

end DiyPs3Controller.CircularWindows
