import DiyPs3Controller.Foundations.BitLists

/-!
# Machine words and the avr-libc macros on them

The fixed-width types of the firmware, and the documented value of the three
macros that the clock interrupts apply to the pin register.
-/

namespace DiyPs3Controller

/-- `uint8_t` -/
abbrev U8 := BitVec 8

/-- `uint16_t` -/
abbrev U16 := BitVec 16

namespace Avr

open BitLists

/-- `bit_is_set(reg, bit)`: the register masked with the bit, not a truth value. -/
def bitIsSet (reg : U8) (bit : Nat) : U8 := reg &&& (1#8 <<< bit)

/-- `bit_is_clear(reg, bit)` -/
def bitIsClear (reg : U8) (bit : Nat) : Bool := (reg &&& (1#8 <<< bit)) == 0#8

/-- `parity_even_bit(v)`: 1 when `v` has an odd number of ones, else 0. -/
def parityEvenBit (v : U8) : U8 := if oddOnes (toLsb v) then 1#8 else 0#8

/-- The level of one line of a pin register. -/
def line (bit : Nat) (pin : U8) : Bool := pin.getLsbD bit

theorem bitIsSet_eq {bit : Nat} (hb : bit < 8) (pin : U8) :
    bitIsSet pin bit = if line bit pin then 1#8 <<< bit else 0#8 := by
  apply BitVec.eq_of_getLsbD_eq
  intro i hi
  by_cases h : i = bit
  · subst h
    cases hp : line i pin <;> simp_all [bitIsSet, line]
  · cases hp : line bit pin
    · simp [bitIsSet, hi]
      omega
    · simp [bitIsSet, hi]
      omega

theorem shiftLeft_ne_zero : ∀ bit < 8, (1#8 <<< bit) ≠ 0#8 := by
  decide

theorem bitIsSet_ne_zero_iff {bit : Nat} (hb : bit < 8) (pin : U8) :
    bitIsSet pin bit ≠ 0#8 ↔ line bit pin = true := by
  rw [bitIsSet_eq hb]
  cases line bit pin
  · simp
  · simpa using shiftLeft_ne_zero bit hb

theorem bitIsClear_iff {bit : Nat} (hb : bit < 8) (pin : U8) :
    bitIsClear pin bit = true ↔ line bit pin = false := by
  have h := bitIsSet_ne_zero_iff hb pin
  simp only [bitIsClear, beq_iff_eq]
  cases hp : line bit pin <;> simp_all [bitIsSet]

end Avr

end DiyPs3Controller
