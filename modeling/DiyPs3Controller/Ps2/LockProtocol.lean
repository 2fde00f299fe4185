import DiyPs3Controller.Ps2.Avr
import Mathlib.Data.List.Perm.Basic

/-!
# The lock LED handshake

The handshake between a driver and a keyboard, without the driver's other
variables: one remembered request, the bytes in flight towards the driver, and
the bits requested and toggled so far. A request handled while an earlier one
is remembered overwrites it; no other move loses a request.
-/

namespace DiyPs3Controller.LockProtocol

/-- The lock keys. -/
inductive LockKey
  | scroll
  | num
  | caps
  deriving DecidableEq, Repr

namespace LockKey

/-- The code that the key sends. -/
def code : LockKey → U8
  | .scroll => 0x7E#8
  | .num => 0x77#8
  | .caps => 0x58#8

/-- The LED bit of the key. -/
def bit : LockKey → U8
  | .scroll => 0x01#8
  | .num => 0x02#8
  | .caps => 0x04#8

/-- The key that sends a code. -/
def ofCode? (b : U8) : Option LockKey :=
  if b = 0x7E#8 then some .scroll
  else if b = 0x77#8 then some .num
  else if b = 0x58#8 then some .caps
  else none

@[simp] theorem ofCode?_code (key : LockKey) : ofCode? key.code = some key := by
  cases key <;> rfl

@[simp] theorem ofCode?_acknowledge : ofCode? 0xFA#8 = none := rfl

end LockKey

/-- The handshake as both sides have it. -/
structure Handshake where
  inFlight : List U8
  pending : Option U8
  leds : U8
  keyboardLeds : U8
  requested : List U8
  toggled : List U8

/-- The exclusive or of a list of bits. -/
def xorAll (bits : List U8) : U8 := bits.foldr (· ^^^ ·) 0#8

theorem xorAll_perm {xs ys : List U8} (h : xs.Perm ys) : xorAll xs = xorAll ys :=
  h.foldr_eq' (fun x _ y _ z => by rw [← BitVec.xor_assoc, BitVec.xor_comm y x, BitVec.xor_assoc]) _

theorem xorAll_concat (bits : List U8) (bit : U8) :
    xorAll (bits ++ [bit]) = xorAll bits ^^^ bit := by
  induction bits with
  | nil => simp [xorAll]
  | cons b rest ih =>
      have hrest : xorAll (rest ++ [bit]) = xorAll rest ^^^ bit := ih
      simp only [xorAll, List.cons_append, List.foldr_cons] at hrest ⊢
      rw [hrest, BitVec.xor_assoc]

/-- The moves of the handshake; the index tells whether a request is handled. -/
inductive Moves (v : Handshake) : Bool → Handshake → Prop
  | stay : Moves v false v
  | press (key : LockKey) :
      Moves v false
        { v with inFlight := v.inFlight ++ [key.code], requested := v.requested ++ [key.bit] }
  | heartbeat (key : LockKey) :
      Moves v true
        { v with
            inFlight := v.inFlight ++ [0xFA#8]
            pending := some key.bit
            requested := v.requested ++ [key.bit] }
  | lock (key : LockKey) (rest : List U8) (h : v.inFlight = key.code :: rest) :
      Moves v true { v with inFlight := rest ++ [0xFA#8], pending := some key.bit }
  | acknowledge (bit : U8) (rest : List U8) (h : v.inFlight = 0xFA#8 :: rest)
      (hp : v.pending = some bit) :
      Moves v false
        { v with
            inFlight := rest ++ [0xFA#8]
            pending := none
            leds := v.leds ^^^ bit
            keyboardLeds := v.leds ^^^ bit
            toggled := v.toggled ++ [bit] }
  | ignore (rest : List U8) (h : v.inFlight = 0xFA#8 :: rest) (hp : v.pending = none) :
      Moves v false { v with inFlight := rest }

/-- The bits of the lock codes among the bytes in flight. -/
def lockBits (bytes : List U8) : List U8 :=
  bytes.filterMap fun b => (LockKey.ofCode? b).map LockKey.bit

@[simp] theorem lockBits_append (xs ys : List U8) :
    lockBits (xs ++ ys) = lockBits xs ++ lockBits ys :=
  List.filterMap_append

@[simp] theorem lockBits_acknowledge (rest : List U8) : lockBits (0xFA#8 :: rest) = lockBits rest :=
  rfl

@[simp] theorem lockBits_code (key : LockKey) (rest : List U8) :
    lockBits (key.code :: rest) = key.bit :: lockBits rest := by
  simp [lockBits]

@[simp] theorem lockBits_nil : lockBits [] = [] := rfl

/-- The bits that are still to be toggled: the remembered one and those in flight. -/
def Handshake.outstanding (v : Handshake) : List U8 := v.pending.toList ++ lockBits v.inFlight

/-- Every request so far is toggled or outstanding. -/
def Conserved (v : Handshake) : Prop := (v.toggled ++ v.outstanding).Perm v.requested

/-- How many requests are toggled or outstanding. -/
def Handshake.accounted (v : Handshake) : Nat := (v.toggled ++ v.outstanding).length

/-- The two sides agree, and a remembered request has its acknowledgement under way. -/
structure Coherent (v : Handshake) : Prop where
  leds : v.leds = xorAll v.toggled
  keyboardLeds : v.keyboardLeds = v.leds
  underway : v.pending ≠ none → 0xFA#8 ∈ v.inFlight

section Moves
variable {handles : Bool} {v w : Handshake}

theorem moves_coherent (hm : Moves v handles w) (h : Coherent v) : Coherent w := by
  cases hm with
  | stay => exact h
  | press key => exact ⟨h.leds, h.keyboardLeds, fun hp => List.mem_append_left _ (h.underway hp)⟩
  | heartbeat key => exact ⟨h.leds, h.keyboardLeds, fun _ => by simp⟩
  | lock key rest hflight => exact ⟨h.leds, h.keyboardLeds, fun _ => by simp⟩
  | acknowledge bit rest hflight hp =>
      refine ⟨?_, rfl, fun hne => absurd rfl hne⟩
      rw [xorAll_concat, h.leds]
  | ignore rest hflight hp => exact ⟨h.leds, h.keyboardLeds, fun hne => absurd hp hne⟩

/-- A move loses a request exactly when it handles one while another is remembered. -/
theorem moves_accounted (hm : Moves v handles w) :
    w.accounted + (if handles = true ∧ v.pending ≠ none then 1 else 0) + v.requested.length =
      v.accounted + w.requested.length := by
  cases hm with
  | stay => simp
  | press key =>
      simp [Handshake.accounted, Handshake.outstanding]
      omega
  | heartbeat key =>
      cases hp : v.pending <;> simp [Handshake.accounted, Handshake.outstanding, hp]
      all_goals omega
  | lock key rest hflight =>
      cases hp : v.pending <;>
        simp [Handshake.accounted, Handshake.outstanding, hp, hflight]
      all_goals omega
  | acknowledge bit rest hflight hp =>
      simp [Handshake.accounted, Handshake.outstanding, hp, hflight]
  | ignore rest hflight hp => simp [Handshake.accounted, Handshake.outstanding, hp, hflight]

/-- A move that handles no request while another is remembered keeps every request in account. -/
theorem moves_conserved (hm : Moves v handles w) (hone : handles = true → v.pending = none)
    (h : Conserved v) : Conserved w := by
  unfold Conserved Handshake.outstanding at h ⊢
  rw [List.perm_iff_count] at h ⊢
  intro bit
  have hbit := h bit
  cases hm with
  | stay => exact hbit
  | press key =>
      simp only [List.count_append, lockBits_append, lockBits_code, lockBits_nil] at hbit ⊢
      omega
  | heartbeat key =>
      simp only [hone rfl, List.count_append, lockBits_append, lockBits_acknowledge, lockBits_nil,
        Option.toList_none, Option.toList_some, List.count_nil] at hbit ⊢
      omega
  | lock key rest hflight =>
      simp only [hone rfl, hflight, List.count_append, lockBits_append, lockBits_code,
        lockBits_acknowledge, lockBits_nil, Option.toList_none, Option.toList_some, List.count_nil,
        List.count_cons] at hbit ⊢
      omega
  | acknowledge toggled rest hflight hp =>
      simp only [hp, hflight, List.count_append, lockBits_append, lockBits_acknowledge,
        lockBits_nil, Option.toList_none, Option.toList_some, List.count_nil] at hbit ⊢
      omega
  | ignore rest hflight hp =>
      simp only [hp, hflight, List.count_append, lockBits_acknowledge] at hbit ⊢
      omega

/-- Fewer requests are toggled or outstanding than were made. -/
def Short (v : Handshake) : Prop := v.accounted < v.requested.length

theorem moves_short (hm : Moves v handles w) (h : Short v) : Short w := by
  have hcount := moves_accounted hm
  unfold Short at h ⊢
  omega

/-- A request handled while another is remembered is missing from then on. -/
theorem moves_loses (hm : Moves v true w) (hp : v.pending ≠ none)
    (h : v.accounted ≤ v.requested.length) : Short w := by
  have hcount := moves_accounted hm
  rw [if_pos ⟨rfl, hp⟩] at hcount
  unfold Short
  omega

theorem moves_bounded (hm : Moves v handles w) (h : v.accounted ≤ v.requested.length) :
    w.accounted ≤ w.requested.length := by
  have hcount := moves_accounted hm
  omega

end Moves

/-- With nothing in flight nothing is outstanding. -/
theorem outstanding_quiet {v : Handshake} (h : Coherent v) (hflight : v.inFlight = []) :
    v.outstanding = [] := by
  have hpending : v.pending = none := by
    by_contra hne
    have hmem := h.underway hne
    rw [hflight] at hmem
    exact absurd hmem List.not_mem_nil
  simp [Handshake.outstanding, hpending, hflight]

end DiyPs3Controller.LockProtocol
