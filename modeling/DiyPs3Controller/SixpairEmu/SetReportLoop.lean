import DiyPs3Controller.Foundations.Loops
import DiyPs3Controller.SixpairEmu.Requests

/-!
# The copy loop of a SetReport

The loop counts with 8 bits up to a 16-bit length and writes through a pointer
into an array of 64 bytes. Here it runs on the memory from the array on, so that
what it does outside the array can be seen; inside, it is `readDataStage`.
-/

namespace DiyPs3Controller.SixpairEmu

open Buffers Loops

/-- The loop's variables: its counter, the memory from `last_set_data` on by
offset, and how many bytes `Endpoint_Read_Byte` has given so far. -/
structure Copy where
  i : U8
  memory : Nat → U8
  reads : Nat

/-- `i < USB_ControlRequest.wLength` -/
def copyGuard (wLength : U16) (c : Copy) : Prop := c.i.toNat < wLength.toNat

/-- `last_set_data[i] = Endpoint_Read_Byte()` and `i++`. -/
def copyByte (bytes : Nat → U8) (c : Copy) : Copy where
  i := c.i + 1#8
  memory := Function.update c.memory c.i.toNat (bytes c.reads)
  reads := c.reads + 1

/-- `i = 0` -/
def copyStart (memory : Nat → U8) : Copy where
  i := 0#8
  memory
  reads := 0

/-- The loop ends after `wLength` rounds, every byte is written inside the array,
and what lies behind the array is left alone. -/
structure CopiesInBounds (wLength : U16) (bytes memory : Nat → U8) : Prop where
  rounds : LeftAfter (copyGuard wLength) (copyByte bytes) (copyStart memory) wLength.toNat
  inside : ∀ k < wLength.toNat, ((copyByte bytes)^[k] (copyStart memory)).i.toNat < 64
  others : ∀ offset, 64 ≤ offset →
    ((copyByte bytes)^[wLength.toNat] (copyStart memory)).memory offset = memory offset

section Loop
variable (wLength : U16) (bytes memory : Nat → U8)

theorem copyByte_i (c : Copy) : (copyByte bytes c).i = c.i + 1#8 := rfl

theorem copy_i {k : Nat} (hk : k < 256) :
    ((copyByte bytes)^[k] (copyStart memory)).i.toNat = k :=
  counter_toNat (copyByte_i bytes) rfl hk

theorem copy_reads (k : Nat) : ((copyByte bytes)^[k] (copyStart memory)).reads = k := by
  induction k with
  | zero => rfl
  | succ k ih =>
      rw [Function.iterate_succ_apply']
      exact congrArg (· + 1) ih

/-- What the first rounds have written, and nothing else. -/
theorem copy_memory {k : Nat} (hk : k ≤ 256) (offset : Nat) :
    ((copyByte bytes)^[k] (copyStart memory)).memory offset =
      if offset < k then bytes offset else memory offset := by
  induction k with
  | zero => rfl
  | succ k ih =>
      have hi := copy_i bytes memory (k := k) (by omega)
      rw [Function.iterate_succ_apply']
      simp only [copyByte, hi, copy_reads]
      by_cases hoffset : offset = k
      · simp [hoffset]
      · rw [Function.update_of_ne hoffset, ih (by omega)]
        have hlt : offset < k + 1 ↔ offset < k := by omega
        simp only [hlt]

/-- From 256 bytes on the counter never reaches the length. -/
theorem copy_endless (h : 256 ≤ wLength.toNat) :
    Endless (copyGuard wLength) (copyByte bytes) (copyStart memory) :=
  @endless_of_le _ _ _ 8 _ Copy.i (fun _ => Iff.rfl) h _

theorem copy_rounds_iff :
    LeftAfter (copyGuard wLength) (copyByte bytes) (copyStart memory) wLength.toNat ↔
      wLength.toNat < 256 :=
  leftAfter_bound_iff (copyByte_i bytes) rfl fun _ => Iff.rfl

/-- The copy of a SetReport ends inside its array exactly for lengths up to 64. -/
theorem copiesInBounds_iff : CopiesInBounds wLength bytes memory ↔ wLength.toNat ≤ 64 := by
  constructor
  · intro h
    apply Nat.le_of_not_lt
    intro hlong
    have hinside := h.inside 64 hlong
    rw [copy_i bytes memory (by decide)] at hinside
    exact absurd hinside (by decide)
  · intro hshort
    refine ⟨(copy_rounds_iff wLength bytes memory).mpr (by omega), ?_, ?_⟩
    · intro k hk
      rw [copy_i bytes memory (by omega)]
      omega
    · intro offset hoffset
      rw [copy_memory bytes memory (by omega), if_neg (by omega)]

end Loop

/-- A host may send 65 bytes: the last one lands behind the array. From 256 bytes
on the loop is never left. -/
theorem longSetReport_outside :
    ¬CopiesInBounds 65#16 (fun _ => 0xFF#8) (fun _ => 0#8) ∧
      ((copyByte fun _ => 0xFF#8)^[65] (copyStart fun _ => 0#8)).memory 64 = 0xFF#8 ∧
      Endless (copyGuard 256#16) (copyByte fun _ => 0xFF#8) (copyStart fun _ => 0#8) := by
  refine ⟨?_, ?_, ?_⟩
  · intro h
    have hinside := h.inside 64 (by decide)
    rw [copy_i _ _ (by decide)] at hinside
    exact absurd hinside (by decide)
  · rw [copy_memory _ _ (by decide), if_pos (by decide)]
  · exact copy_endless _ _ _ (by decide)

/-! ## The loop on the array alone -/

/-- A data stage that is too long first leaves the array at index 64. -/
theorem readDataStage_outside {wLength : U16} (long : 64 < wLength.toNat) (bank : List U8)
    (i : U8) (buf : Vector U8 64) (hi : i.toNat ≤ 64)
    (count : i.toNat + bank.length = wLength.toNat) :
    readDataStage wLength i buf bank = .error (.outsideArray 64#8) := by
  induction bank generalizing i buf with
  | nil =>
      simp only [List.length_nil] at count
      omega
  | cons b bank ih =>
      simp only [List.length_cons] at count
      rw [readDataStage, if_pos (by omega)]
      by_cases hlt : i.toNat < 64
      · have hnext : (i + 1).toNat = i.toNat + 1 := by bv_omega
        rw [dif_pos hlt, ih _ _ (by omega) (by omega)]
      · have hend : i = 64#8 := by bv_omega
        rw [dif_neg hlt, hend]

/-- On the array alone the loop fails where it would first leave the array, and
else ends with what the loop on the whole memory has in the array. -/
theorem readDataStage_copyLoop {wLength : U16} {bank : List U8}
    (count : bank.length = wLength.toNat) (buf : Vector U8 64) {memory : Nat → U8}
    (same : ∀ j (hj : j < 64), memory j = buf[j]) :
    if wLength.toNat ≤ 64 then
      ∃ buf', readDataStage wLength 0#8 buf bank = .ok buf' ∧ ∀ j (hj : j < 64),
        buf'[j] = ((copyByte (bank.getD · 0#8))^[wLength.toNat] (copyStart memory)).memory j
    else readDataStage wLength 0#8 buf bank = .error (.outsideArray 64#8) := by
  by_cases short : wLength.toNat ≤ 64
  · rw [if_pos short]
    refine ⟨_, readDataStage_eq short bank 0#8 buf (by simp [count]), ?_⟩
    intro j hj
    rw [copy_memory _ _ (by omega)]
    simp only [BitVec.toNat_ofNat, Nat.zero_mod, getElem_overwrite_zero, ← count]
    by_cases hbank : j < bank.length
    · simp [hbank]
    · simp [hbank, same j hj]
  · rw [if_neg short]
    exact readDataStage_outside (Nat.lt_of_not_le short) bank 0#8 buf (by decide) (by simp [count])

/-- The handler finishes every request but a SetReport longer than the array. -/
theorem handled_iff_fits (d : Device) (r : ControlRequest) :
    (∃ next, unhandledControlRequest d r = .ok next) ↔ r.Fits := by
  constructor
  · rintro ⟨next, hnext⟩ hset
    apply Nat.le_of_not_lt
    intro long
    have hdata := ControlRequest.data_length_of_isSetReport hset
    have hne : r.data ≠ [] := by
      intro hnil
      rw [hnil, List.length_nil] at hdata
      omega
    rw [unhandledControlRequest_setReport d hset, setReport, if_neg hne,
      readDataStage_outside long r.data 0#8 d.lastSetData (by decide) (by simp [hdata])] at hnext
    cases hnext
  · intro fits
    obtain ⟨d', sent, hrun, -⟩ := unhandledControlRequest_handled fits d
    exact ⟨_, hrun⟩

end DiyPs3Controller.SixpairEmu
