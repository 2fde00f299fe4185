import Mathlib.Data.List.DropRight

/-!
# Lenient hexadecimal numerals

A number parser that takes whitespace around a numeral, a sign and the prefix
`0x`. What counts as whitespace and as a digit beyond the ASCII characters is
left to an alphabet. Among the texts of two characters the parser takes four
kinds, and only one of them has two digits.
-/

namespace DiyPs3Controller.Numerals

/-- The value of a hexadecimal digit of ASCII, in either case. -/
def asciiDigit (c : Char) : Option Nat :=
  if 48 ≤ c.toNat ∧ c.toNat ≤ 57 then some (c.toNat - 48)
  else if 97 ≤ c.toNat ∧ c.toNat ≤ 102 then some (c.toNat - 87)
  else if 65 ≤ c.toNat ∧ c.toNat ≤ 70 then some (c.toNat - 55)
  else none

/-- What the parser knows of the characters. -/
structure Alphabet where
  isSpace : Char → Bool
  digit : Char → Option Nat
  digit_ascii : ∀ c : Char, c.toNat < 128 → digit c = asciiDigit c
  digit_lt : ∀ {c : Char} {v : Nat}, digit c = some v → v < 16
  isSpace_of_digit : ∀ {c : Char} {v : Nat}, digit c = some v → isSpace c = false
  isSpace_plus : isSpace '+' = false
  isSpace_minus : isSpace '-' = false

theorem asciiDigit_bounds {c : Char} {v : Nat} (h : asciiDigit c = some v) :
    v < 16 ∧ 48 ≤ c.toNat ∧ c.toNat < 128 := by
  unfold asciiDigit at h
  split_ifs at h <;> cases h <;> omega

theorem Alphabet.digit_of_asciiDigit (a : Alphabet) {c : Char} {v : Nat}
    (h : asciiDigit c = some v) : a.digit c = some v :=
  (a.digit_ascii c (asciiDigit_bounds h).2.2).trans h

/-- The ASCII characters alone. -/
def ascii : Alphabet where
  isSpace c := c = ' ' || (9 ≤ c.toNat && c.toNat ≤ 13)
  digit := asciiDigit
  digit_ascii _ _ := rfl
  digit_lt h := (asciiDigit_bounds h).1
  isSpace_of_digit {c v} h := by
    have hbounds := (asciiDigit_bounds h).2.1
    have hspace : c ≠ ' ' := by
      rintro rfl
      exact absurd hbounds (by decide)
    simp only [hspace, decide_false, Bool.false_or, Bool.and_eq_false_iff, decide_eq_false_iff_not]
    omega
  isSpace_plus := by decide
  isSpace_minus := by decide

/-- `strip()` -/
def strip (a : Alphabet) (s : List Char) : List Char :=
  (s.dropWhile a.isSpace).rdropWhile a.isSpace

/-- The sign, and what follows it. -/
def signed : List Char → Bool × List Char
  | [] => (false, [])
  | c :: s => if c = '+' then (false, s) else if c = '-' then (true, s) else (false, c :: s)

/-- What follows the prefix, if there is one. -/
def unprefixed : List Char → List Char
  | b :: c :: s => if b = '0' ∧ (c = 'x' ∨ c = 'X') then s else b :: c :: s
  | s => s

/-- The value of one digit or more. -/
def magnitude (a : Alphabet) (s : List Char) : Option Nat :=
  if s = [] then none
  else (s.mapM a.digit).map fun digits => digits.foldl (fun value d => 16 * value + d) 0

/-- The value of a numeral without whitespace. -/
def number (a : Alphabet) (s : List Char) : Option Int :=
  (magnitude a (unprefixed (signed s).2)).map fun value : Nat =>
    if (signed s).1 then -(value : Int) else value

/-- `int(s, 16)`, with nothing for a `ValueError`. -/
def int16 (a : Alphabet) (s : List Char) : Option Int := number a (strip a s)

/-- The numerals of two characters. -/
inductive Pair (a : Alphabet) : Char → Char → Int → Prop
  | digits {b c : Char} {x y : Nat} (hb : a.digit b = some x) (hc : a.digit c = some y) :
      Pair a b c (16 * x + y)
  | plus {c : Char} {y : Nat} (hc : a.digit c = some y) : Pair a '+' c y
  | minus {c : Char} {y : Nat} (hc : a.digit c = some y) : Pair a '-' c (-y)
  | leading {b c : Char} {y : Nat} (hb : a.isSpace b) (hc : a.digit c = some y) : Pair a b c y
  | trailing {b c : Char} {x : Nat} (hb : a.digit b = some x) (hc : a.isSpace c) : Pair a b c x

section Pairs
variable {a : Alphabet} {b c : Char} {v : Int}

theorem digit_plus (a : Alphabet) : a.digit '+' = none := a.digit_ascii '+' (by decide)

theorem digit_minus (a : Alphabet) : a.digit '-' = none := a.digit_ascii '-' (by decide)

theorem digit_x (a : Alphabet) : a.digit 'x' = none := a.digit_ascii 'x' (by decide)

theorem digit_X (a : Alphabet) : a.digit 'X' = none := a.digit_ascii 'X' (by decide)

theorem magnitude_singleton (a : Alphabet) (c : Char) : magnitude a [c] = a.digit c := by
  cases hc : a.digit c <;> simp [magnitude, hc]

theorem magnitude_pair (a : Alphabet) (b c : Char) :
    magnitude a [b, c] = (a.digit b).bind fun x => (a.digit c).map fun y => 16 * x + y := by
  cases hb : a.digit b <;> cases hc : a.digit c <;> simp [magnitude, hb, hc]

/-- A digit is not a sign. -/
theorem ne_sign_of_digit {x : Nat} (h : a.digit c = some x) : c ≠ '+' ∧ c ≠ '-' := by
  constructor
  · rintro rfl
    rw [digit_plus] at h
    cases h
  · rintro rfl
    rw [digit_minus] at h
    cases h

theorem number_singleton (a : Alphabet) (c : Char) :
    number a [c] = (a.digit c).map fun y : Nat => (y : Int) := by
  by_cases hplus : c = '+'
  · subst hplus
    rw [digit_plus]
    rfl
  by_cases hminus : c = '-'
  · subst hminus
    rw [digit_minus]
    rfl
  have hsigned : signed [c] = (false, [c]) := by
    rw [signed, if_neg hplus, if_neg hminus]
  rw [number, hsigned, unprefixed.eq_def, magnitude_singleton]
  rfl

theorem number_plus (a : Alphabet) (c : Char) :
    number a ['+', c] = (a.digit c).map fun y : Nat => (y : Int) := by
  have hsigned : signed ['+', c] = (false, [c]) := rfl
  rw [number, hsigned, unprefixed.eq_def, magnitude_singleton]
  rfl

theorem number_minus (a : Alphabet) (c : Char) :
    number a ['-', c] = (a.digit c).map fun y : Nat => -(y : Int) := by
  have hsigned : signed ['-', c] = (true, [c]) := rfl
  rw [number, hsigned, unprefixed.eq_def, magnitude_singleton]
  rfl

theorem number_pair (a : Alphabet) (hplus : b ≠ '+') (hminus : b ≠ '-') :
    number a [b, c] = (magnitude a [b, c]).map fun y : Nat => (y : Int) := by
  have hsigned : signed [b, c] = (false, [b, c]) := by
    rw [signed, if_neg hplus, if_neg hminus]
  rw [number, hsigned]
  by_cases hprefix : b = '0' ∧ (c = 'x' ∨ c = 'X')
  · -- the prefix alone is no numeral, and its letter is no digit
    have hnone : a.digit c = none := by
      rcases hprefix.2 with rfl | rfl
      · exact digit_x a
      · exact digit_X a
    have hrest : unprefixed [b, c] = [] := if_pos hprefix
    rw [hrest, magnitude_pair, hnone]
    cases a.digit b <;> rfl
  · have hrest : unprefixed [b, c] = [b, c] := if_neg hprefix
    rw [hrest]
    rfl

theorem strip_pair (a : Alphabet) (b c : Char) :
    strip a [b, c] =
      if a.isSpace b then (if a.isSpace c then [] else [c])
      else if a.isSpace c then [b] else [b, c] := by
  cases hb : a.isSpace b <;> cases hc : a.isSpace c <;>
    simp [strip, List.dropWhile, List.rdropWhile, hb, hc]

/-- What the parser makes of two characters. -/
theorem int16_pair_iff : int16 a [b, c] = some v ↔ Pair a b c v := by
  have hplus : ¬a.isSpace '+' := by rw [a.isSpace_plus]; decide
  have hminus : ¬a.isSpace '-' := by rw [a.isSpace_minus]; decide
  have hdigit {c : Char} {x : Nat} (h : a.digit c = some x) : ¬a.isSpace c := by
    rw [a.isSpace_of_digit h]
    decide
  constructor
  · intro h
    rw [int16, strip_pair] at h
    split_ifs at h with hb hc hc
    · cases h
    · rw [number_singleton] at h
      obtain ⟨y, hy, rfl⟩ := Option.map_eq_some_iff.mp h
      exact Pair.leading hb hy
    · rw [number_singleton] at h
      obtain ⟨x, hx, rfl⟩ := Option.map_eq_some_iff.mp h
      exact Pair.trailing hx hc
    · by_cases hp : b = '+'
      · subst hp
        rw [number_plus] at h
        obtain ⟨y, hy, rfl⟩ := Option.map_eq_some_iff.mp h
        exact Pair.plus hy
      by_cases hm : b = '-'
      · subst hm
        rw [number_minus] at h
        obtain ⟨y, hy, rfl⟩ := Option.map_eq_some_iff.mp h
        exact Pair.minus hy
      rw [number_pair a hp hm, magnitude_pair] at h
      obtain ⟨value, hvalue, rfl⟩ := Option.map_eq_some_iff.mp h
      obtain ⟨x, hx, hrest⟩ := Option.bind_eq_some_iff.mp hvalue
      obtain ⟨y, hy, rfl⟩ := Option.map_eq_some_iff.mp hrest
      exact Pair.digits hx hy
  · intro h
    rw [int16, strip_pair]
    cases h with
    | digits hb hc =>
        obtain ⟨hp, hm⟩ := ne_sign_of_digit hb
        rw [if_neg (hdigit hb), if_neg (hdigit hc), number_pair a hp hm, magnitude_pair, hb, hc]
        rfl
    | plus hc =>
        rw [if_neg hplus, if_neg (hdigit hc), number_plus, hc]
        rfl
    | minus hc =>
        rw [if_neg hminus, if_neg (hdigit hc), number_minus, hc]
        rfl
    | leading hb hc =>
        rw [if_pos hb, if_neg (hdigit hc), number_singleton, hc]
        rfl
    | trailing hb hc =>
        rw [if_neg (hdigit hb), if_pos hc, number_singleton, hb]
        rfl

/-- A sign makes a numeral of two characters small, and can make it negative. -/
theorem Pair.range (h : Pair a b c v) : -15 ≤ v ∧ v ≤ 255 := by
  cases h with
  | digits hb hc =>
      have hx := a.digit_lt hb
      have hy := a.digit_lt hc
      omega
  | plus hc | minus hc | leading _ hc =>
      have hy := a.digit_lt hc
      omega
  | trailing hb _ =>
      have hx := a.digit_lt hb
      omega

end Pairs

end DiyPs3Controller.Numerals
