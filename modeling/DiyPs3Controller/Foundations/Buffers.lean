import Mathlib.Data.List.Basic

/-!
# Copies into fixed buffers

A buffer is a list of its cells. A copy replaces the cells from an offset on, a
transfer sends the first cells, and a fixed array that is overwritten from its
start keeps what lies beyond the new data.
-/

namespace DiyPs3Controller.Buffers

variable {α : Type*}

/-- The buffer with `bytes` copied over its cells from `offset` on. -/
def copyAt (buf : List α) (offset : Nat) (bytes : List α) : List α :=
  buf.take offset ++ bytes ++ buf.drop (offset + bytes.length)

section CopyAt
variable {buf : List α} {offset : Nat} {bytes : List α}

theorem length_copyAt (h : offset + bytes.length ≤ buf.length) :
    (copyAt buf offset bytes).length = buf.length := by
  simp only [copyAt, List.length_append, List.length_take, List.length_drop]
  omega

/-- Up to the end of the copy, the buffer is what stood before and the copy. -/
theorem take_copyAt {stop : Nat} (hstop : offset + bytes.length = stop)
    (h : offset ≤ buf.length) :
    (copyAt buf offset bytes).take stop = buf.take offset ++ bytes := by
  have hlen : (buf.take offset ++ bytes).length = stop := by
    simp [Nat.min_eq_left h, hstop]
  rw [copyAt, ← hlen, List.take_left]

/-- What was copied is read back from its place. -/
theorem take_drop_copyAt {k : Nat} (hk : bytes.length = k) (h : offset ≤ buf.length) :
    ((copyAt buf offset bytes).drop offset).take k = bytes := by
  have hstop : offset + bytes.length = offset + k := by rw [hk]
  have hpre : (buf.take offset).length = offset := by simp [Nat.min_eq_left h]
  calc ((copyAt buf offset bytes).drop offset).take k
      = ((copyAt buf offset bytes).take (offset + k)).drop offset := by
        rw [List.drop_take, Nat.add_sub_cancel_left]
    _ = (buf.take offset ++ bytes).drop offset := by rw [take_copyAt hstop h]
    _ = bytes := List.drop_left' hpre

/-- Behind the copy the buffer is as before. -/
theorem drop_copyAt {stop : Nat} (hstop : offset + bytes.length ≤ stop)
    (h : offset ≤ buf.length) : (copyAt buf offset bytes).drop stop = buf.drop stop := by
  have hlen : (buf.take offset ++ bytes).length = offset + bytes.length := by
    simp [Nat.min_eq_left h]
  have hnil : (buf.take offset ++ bytes).drop stop = [] :=
    List.drop_of_length_le (by rw [hlen]; exact hstop)
  rw [copyAt, List.drop_append, hnil, List.nil_append, hlen, List.drop_drop,
    Nat.add_sub_cancel' hstop]

end CopyAt

/-- The first `n` cells of memory at a buffer, `none` past its end or where a
cell was never written. -/
def firstCells (buf : List (Option α)) (n : Nat) : List (Option α) :=
  (List.range n).map fun i => buf[i]?.join

@[simp] theorem length_firstCells (buf : List (Option α)) (n : Nat) :
    (firstCells buf n).length = n := by
  simp [firstCells]

theorem getElem?_firstCells (buf : List (Option α)) {n i : Nat} (hi : i < n) :
    (firstCells buf n)[i]? = some buf[i]?.join := by
  simp [firstCells, hi]

theorem firstCells_eq_take {buf : List (Option α)} {n : Nat} (h : n ≤ buf.length) :
    firstCells buf n = buf.take n := by
  apply List.ext_getElem?
  intro i
  by_cases hi : i < n
  · rw [getElem?_firstCells buf hi, List.getElem?_take_of_lt hi,
      List.getElem?_eq_getElem (Nat.lt_of_lt_of_le hi h)]
    rfl
  · rw [List.getElem?_eq_none (by simp; omega), List.getElem?_eq_none (by simp; omega)]

/-- A field of what was sent, cut where the transfer ends. -/
theorem field_firstCells {buf : List (Option α)} {n : Nat} (h : n ≤ buf.length)
    (offset k : Nat) :
    ((firstCells buf n).drop offset).take k = ((buf.drop offset).take k).take (n - offset) := by
  rw [firstCells_eq_take h, List.drop_take, List.take_take, List.take_take, Nat.min_comm]

/-- A field that was copied into the buffer. -/
theorem field_firstCells_copyAt {buf bytes : List α} {offset k n : Nat}
    (hk : bytes.length = k) (hfit : offset + k ≤ buf.length) (hn : n ≤ buf.length) :
    ((firstCells ((copyAt buf offset bytes).map some) n).drop offset).take k =
      (bytes.map some).take (n - offset) := by
  have hlen : (copyAt buf offset bytes).length = buf.length := by
    apply length_copyAt
    rw [hk]
    exact hfit
  have hcopied : ((copyAt buf offset bytes).drop offset).take k = bytes :=
    take_drop_copyAt hk (Nat.le_trans (Nat.le_add_right offset k) hfit)
  rw [field_firstCells (by rw [List.length_map, hlen]; exact hn), ← List.map_drop,
    ← List.map_take, hcopied]

/-- The transfer shows only cells that were written exactly when it is no longer
than they are. -/
theorem forall_firstCells_written_iff (bytes : List α) (rest n : Nat) :
    (∀ cell ∈ firstCells (bytes.map some ++ List.replicate rest none) n, cell ≠ none) ↔
      n ≤ bytes.length := by
  constructor
  · intro h
    apply Nat.le_of_not_lt
    intro hlong
    have hcell := getElem?_firstCells (bytes.map some ++ List.replicate rest none) hlong
    have hnone : (bytes.map some ++ List.replicate rest none)[bytes.length]?.join = none := by
      rw [List.getElem?_append_right (by simp), List.getElem?_replicate]
      split <;> rfl
    rw [hnone] at hcell
    exact h none (List.mem_of_getElem? hcell) rfl
  · intro hn cell hcell
    rw [firstCells_eq_take (by simp; omega), List.take_append_of_le_length (by simpa using hn)]
      at hcell
    obtain ⟨b, -, rfl⟩ := List.mem_map.mp (List.mem_of_mem_take hcell)
    exact Option.some_ne_none b

/-- The array with `data` written over its cells from `start` on. -/
def overwrite {n : Nat} (old : Vector α n) (start : Nat) (data : List α) : Vector α n :=
  Vector.ofFn fun j => if j.val < start then old[j] else data[j.val - start]?.getD old[j]

section Overwrite
variable {n : Nat} (old : Vector α n)

theorem getElem_overwrite (start : Nat) (data : List α) {j : Nat} (hj : j < n) :
    (overwrite old start data)[j] =
      if j < start then old[j] else data[j - start]?.getD old[j] := by
  simp [overwrite]

@[simp] theorem overwrite_nil (start : Nat) : overwrite old start [] = old := by
  apply Vector.ext
  intro j hj
  simp [getElem_overwrite]

/-- Writing cell by cell. -/
theorem overwrite_cons {start : Nat} (h : start < n) (b : α) (data : List α) :
    overwrite old start (b :: data) = overwrite (old.set start b) (start + 1) data := by
  apply Vector.ext
  intro j hj
  rw [getElem_overwrite, getElem_overwrite, Vector.getElem_set]
  rcases Nat.lt_trichotomy j start with hlt | rfl | hgt
  · rw [if_pos hlt, if_pos (by omega), if_neg (by omega)]
  · simp
  · have hsub : j - start = (j - (start + 1)) + 1 := by omega
    rw [if_neg (by omega), if_neg (by omega), if_neg (by omega), hsub, List.getElem?_cons_succ]

/-- What the new data reaches no longer depends on the old array. -/
theorem getElem_overwrite_zero {data : List α} {j : Nat} (hj : j < n) :
    (overwrite old 0 data)[j] = data[j]?.getD old[j] := by
  simp [getElem_overwrite]

/-- Data that fits is read back from the start of the array. -/
theorem take_toList_overwrite {data : List α} (h : data.length ≤ n) :
    (overwrite old 0 data).toList.take data.length = data := by
  apply List.ext_getElem
  · simp [h]
  · intro i hi hdata
    simp [getElem_overwrite_zero, List.getElem?_eq_getElem hdata]

end Overwrite

/-- `k` cells of the array from `offset` on. -/
def slice {n : Nat} (buf : Vector α n) (offset k : Nat) (h : offset + k ≤ n) : Vector α k :=
  Vector.ofFn fun i => buf[offset + i.val]

/-- Cells that the new data covers are the data's. -/
theorem toList_slice_overwrite {n : Nat} (old : Vector α n) {data : List α} {offset k : Nat}
    (h : offset + k ≤ n) (hdata : offset + k ≤ data.length) :
    (slice (overwrite old 0 data) offset k h).toList = (data.drop offset).take k := by
  apply List.ext_getElem
  · simp only [Vector.length_toList, List.length_take, List.length_drop]
    omega
  · intro i hi _
    have hk : i < k := by simpa using hi
    have hlt : offset + i < data.length := by omega
    simp [slice, getElem_overwrite_zero, List.getElem?_eq_getElem hlt]

end DiyPs3Controller.Buffers
