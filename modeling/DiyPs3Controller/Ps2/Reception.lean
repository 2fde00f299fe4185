import DiyPs3Controller.Foundations.Machines
import DiyPs3Controller.Ps2.RingBuffer

/-!
# The receiving side of a PS/2 line

`MS_ClockInterrupt` and `KB_ClockInterrupt` run the same body over their own
variables and their own data bit, and `SendByte` and `KB_Send` clear those
variables in the same way. The shared body is written once here, with the
data bit as a parameter. A send is taken to return: its handshake with the
device is not part of this model, its effect on the variables is.
-/

namespace DiyPs3Controller.Reception

open Avr BitLists RingBuffer

/-- The interrupt variables: `ms_driver` of the mouse driver, and `kb_bit_n`,
`kb_buffer`, `kb_error` and `kb_ringbuffer` of the keyboard driver. -/
structure Receiver where
  bitN : U8
  buffer : U8
  error : U8
  ringbuffer : Ring
  deriving DecidableEq

/-- The calls a clock interrupt makes. -/
inductive RxCall
  | sendByte (data : U8)
  | addElement (data : U8)
  deriving DecidableEq, Repr

/-- The byte that a call adds to the ring buffer. -/
def RxCall.added? : RxCall → Option U8
  | .sendByte _ => none
  | .addElement data => some data

/-- The variables after `MS_Init` or `KB_Init`. -/
def initial (size : U8) : Receiver where
  bitN := 1#8
  buffer := 0#8
  error := 0#8
  ringbuffer := Ring.empty size

/-- "Clear the ISR state variables", the first lines of `SendByte` and `KB_Send`. -/
def clearIsr (r : Receiver) : Receiver := { r with buffer := 0#8, error := 0#8, bitN := 1#8 }

/-- The shared error exit of the parity and the stop bit check. -/
def askResend (r : Receiver) : Receiver × List RxCall :=
  if r.error = 0#8 then ({ clearIsr r with error := 1#8 }, [.sendByte 0xFE#8])
  else ({ r with error := 1#8 }, [])

/-- The body of the clock interrupt for one reading of the pin register. -/
def clockInterrupt (dataBit : Nat) (r : Receiver) (pin : U8) : Receiver × List RxCall :=
  if r.bitN = 1#8 ∧ bitIsSet pin dataBit ≠ 0#8 then (r, [])
  else if 2#8 ≤ r.bitN ∧ r.bitN ≤ 9#8 then
    let buffer := if bitIsSet pin dataBit ≠ 0#8
      then r.buffer ||| (1#8 <<< (r.bitN - 2#8).toNat) else r.buffer
    ({ r with buffer := buffer, bitN := r.bitN + 1#8 }, [])
  else if r.bitN = 10#8 then
    if bitIsSet pin dataBit = parityEvenBit r.buffer then askResend r
    else ({ r with bitN := r.bitN + 1#8 }, [])
  else if r.bitN = 11#8 then
    if bitIsClear pin dataBit then askResend r
    else
      ({ ringbuffer := r.ringbuffer.addElement r.buffer
         buffer := 0#8
         bitN := 0#8 + 1#8
         error := 0#8 }, [.addElement r.buffer])
  else ({ r with bitN := r.bitN + 1#8 }, [])

/-- The clock interrupt as a machine over readings of the pin register. -/
def lineMachine (dataBit : Nat) : Machine Receiver U8 RxCall := ⟨clockInterrupt dataBit⟩

/-- A sample fails the parity check or the stop bit check. -/
def CheckFails (dataBit : Nat) (r : Receiver) (pin : U8) : Prop :=
  (r.bitN = 10#8 ∧ bitIsSet pin dataBit = parityEvenBit r.buffer) ∨
    (r.bitN = 11#8 ∧ bitIsClear pin dataBit = true)

instance (dataBit : Nat) (r : Receiver) (pin : U8) : Decidable (CheckFails dataBit r pin) :=
  inferInstanceAs (Decidable (_ ∨ _))

/-- Whether the parity comparison rejects a byte followed by the given level. -/
def parityRejects (dataBit : Nat) (v : U8) (level : Bool) : Bool :=
  (if level then 1#8 <<< dataBit else 0#8) == parityEvenBit v

namespace Receiver

/-- Waiting for a start bit with nothing collected. -/
def Idle (r : Receiver) : Prop := r.bitN = 1#8 ∧ r.buffer = 0#8

instance (r : Receiver) : Decidable r.Idle := inferInstanceAs (Decidable (_ ∧ _))

end Receiver

@[simp] theorem clearIsr_idle (r : Receiver) : (clearIsr r).Idle := ⟨rfl, rfl⟩

@[simp] theorem initial_idle (size : U8) : (initial size).Idle := ⟨rfl, rfl⟩

section Steps
variable {d : Nat} (hd : d < 8) {r : Receiver} {pin : U8}
include hd

theorem clock_idle_high (hr : r.bitN = 1#8) (hp : line d pin = true) :
    clockInterrupt d r pin = (r, []) := by
  simp [clockInterrupt, hr, (bitIsSet_ne_zero_iff hd pin).mpr hp]

theorem clock_start (hr : r.bitN = 1#8) (hp : line d pin = false) :
    clockInterrupt d r pin = ({ r with bitN := 2#8 }, []) := by
  have hset : bitIsSet pin d = 0#8 := by simp [bitIsSet_eq hd, hp]
  simp [clockInterrupt, hr, hset]

theorem clock_data (hlo : 2 ≤ r.bitN.toNat) (hhi : r.bitN.toNat ≤ 9) :
    clockInterrupt d r pin =
      ({ r with
          buffer := r.buffer |||
            ((BitVec.ofBool (line d pin)).setWidth 8 <<< (r.bitN.toNat - 2))
          bitN := r.bitN + 1#8 }, []) := by
  have hne : r.bitN ≠ 1#8 := by bv_omega
  have hrange : 2#8 ≤ r.bitN ∧ r.bitN ≤ 9#8 := by bv_omega
  have hsub : (r.bitN - 2#8).toNat = r.bitN.toNat - 2 := by bv_omega
  have hset := bitIsSet_ne_zero_iff hd pin
  cases hp : line d pin <;>
    simp_all [clockInterrupt]

theorem clock_parity_ok (hr : r.bitN = 10#8)
    (hp : parityRejects d r.buffer (line d pin) = false) :
    clockInterrupt d r pin = ({ r with bitN := 11#8 }, []) := by
  have hset : bitIsSet pin d ≠ parityEvenBit r.buffer := by
    simpa [parityRejects, bitIsSet_eq hd] using hp
  simp [clockInterrupt, hr, hset]

theorem clock_stop_ok (hr : r.bitN = 11#8) (hp : line d pin = true) :
    clockInterrupt d r pin =
      ({ ringbuffer := r.ringbuffer.addElement r.buffer
         buffer := 0#8
         bitN := 1#8
         error := 0#8 }, [.addElement r.buffer]) := by
  have hclear : bitIsClear pin d = false := by
    simpa [hp] using mt (bitIsClear_iff hd pin).mp
  simp [clockInterrupt, hr, hclear]

omit hd in
theorem clock_rejected (h : CheckFails d r pin) : clockInterrupt d r pin = askResend r := by
  rcases h with ⟨hr, hp⟩ | ⟨hr, hp⟩ <;> simp [clockInterrupt, hr, hp]

theorem checkFails_parity (hr : r.bitN = 10#8) :
    CheckFails d r pin ↔ parityRejects d r.buffer (line d pin) = true := by
  simp [CheckFails, hr, parityRejects, bitIsSet_eq hd]

theorem checkFails_stop (hr : r.bitN = 11#8) :
    CheckFails d r pin ↔ line d pin = false := by
  simp [CheckFails, hr, bitIsClear_iff hd]

end Steps

/-- Two receivers that differ at most in what they have queued. -/
structure SameCore (r t : Receiver) : Prop where
  bitN : r.bitN = t.bitN
  buffer : r.buffer = t.buffer
  error : r.error = t.error

theorem askResend_core {r t : Receiver} (h : SameCore r t) :
    SameCore (askResend r).1 (askResend t).1 ∧ (askResend r).2 = (askResend t).2 := by
  unfold askResend
  rw [h.error]
  split
  · exact ⟨⟨rfl, rfl, rfl⟩, rfl⟩
  · exact ⟨⟨h.bitN, h.buffer, rfl⟩, rfl⟩

/-- What is queued has no part in how a sample is read. -/
theorem clockInterrupt_core (d : Nat) {r t : Receiver} (h : SameCore r t) (pin : U8) :
    SameCore (clockInterrupt d r pin).1 (clockInterrupt d t pin).1 ∧
      (clockInterrupt d r pin).2 = (clockInterrupt d t pin).2 := by
  have hask := askResend_core h
  unfold clockInterrupt
  simp only [h.bitN, h.buffer]
  split_ifs
  · exact ⟨h, rfl⟩
  · exact ⟨⟨rfl, rfl, h.error⟩, rfl⟩
  · exact ⟨⟨rfl, rfl, h.error⟩, rfl⟩
  · exact hask
  · exact ⟨⟨rfl, rfl, h.error⟩, rfl⟩
  · exact hask
  · exact ⟨⟨rfl, rfl, rfl⟩, rfl⟩
  · exact ⟨⟨rfl, rfl, h.error⟩, rfl⟩

/-- A sample queues the bytes it lists, which is at most one. -/
theorem clockInterrupt_ringbuffer (d : Nat) (r : Receiver) (pin : U8) :
    (∃ b, (clockInterrupt d r pin).2.filterMap RxCall.added? = [b] ∧
      (clockInterrupt d r pin).1.ringbuffer = r.ringbuffer.addElement b) ∨
    ((clockInterrupt d r pin).2.filterMap RxCall.added? = [] ∧
      (clockInterrupt d r pin).1.ringbuffer = r.ringbuffer) := by
  have hask : (askResend r).2.filterMap RxCall.added? = [] ∧
      (askResend r).1.ringbuffer = r.ringbuffer := by
    unfold askResend
    split <;> exact ⟨rfl, rfl⟩
  unfold clockInterrupt
  split_ifs
  · exact Or.inr ⟨rfl, rfl⟩
  · exact Or.inr ⟨rfl, rfl⟩
  · exact Or.inr ⟨rfl, rfl⟩
  · exact Or.inr hask
  · exact Or.inr ⟨rfl, rfl⟩
  · exact Or.inr hask
  · exact Or.inl ⟨r.buffer, rfl, rfl⟩
  · exact Or.inr ⟨rfl, rfl⟩

end DiyPs3Controller.Reception
