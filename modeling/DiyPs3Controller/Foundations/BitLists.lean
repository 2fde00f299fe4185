import Mathlib.Data.List.Basic

/-!
# Bit lists, least significant bit first

A word spelled out as a list of levels, and the word a list of levels spells.
The parity of a list is the parity of its number of set bits.
-/

namespace DiyPs3Controller.BitLists

variable {w : Nat}

/-- The bits of a word, least significant bit first. -/
def toLsb (v : BitVec w) : List Bool := (List.range w).map v.getLsbD

/-- The word whose bits are the given levels, least significant bit first. -/
def ofLsb : List Bool → BitVec w
  | [] => 0
  | d :: rest => (BitVec.ofBool d).setWidth w ||| (ofLsb rest <<< 1)

/-- Whether an odd number of the levels is set. -/
def oddOnes (bits : List Bool) : Bool := bits.count true % 2 == 1

@[simp] theorem toLsb_length (v : BitVec w) : (toLsb v).length = w := by
  simp [toLsb]

@[simp] theorem getElem_ofLsb (bits : List Bool) (i : Nat) (h : i < w) :
    (ofLsb bits : BitVec w)[i] = bits.getD i false := by
  induction bits generalizing i with
  | nil => simp [ofLsb]
  | cons d rest ih =>
      cases i with
      | zero => cases d <;> simp [ofLsb]
      | succ i => simp [ofLsb, ih i (by omega)]

/-- Spelling a word and reading it back gives the word. -/
@[simp] theorem ofLsb_toLsb (v : BitVec w) : ofLsb (toLsb v) = v := by
  apply BitVec.eq_of_getElem_eq
  intro i hi
  simp [toLsb, hi]

/-- A list of the word's width is the spelling of the word it gives. -/
theorem toLsb_ofLsb {bits : List Bool} (h : bits.length = w) :
    toLsb (ofLsb bits : BitVec w) = bits := by
  apply List.ext_getElem
  · simp [h]
  · intro i h₁ h₂
    have hi : i < w := h ▸ h₂
    simp [toLsb, hi, h₂]

/-- One more level below a spelled word shifts the word up by one. -/
theorem ofLsb_cons_shiftLeft (d : Bool) (rest : List Bool) (i : Nat) :
    (ofLsb (d :: rest) : BitVec w) <<< i =
      (BitVec.ofBool d).setWidth w <<< i ||| (ofLsb rest : BitVec w) <<< (i + 1) := by
  rw [ofLsb, BitVec.shiftLeft_or_distrib, ← BitVec.shiftLeft_add, Nat.add_comm 1 i]

theorem oddOnes_append_singleton (bits : List Bool) (d : Bool) :
    oddOnes (bits ++ [d]) = (oddOnes bits ^^ d) := by
  cases d
  · simp [oddOnes]
  · rcases Nat.mod_two_eq_zero_or_one (bits.count true) with h | h <;>
      simp [oddOnes, Nat.add_mod, h]

end DiyPs3Controller.BitLists
