import DiyPs3Controller.Ps2.LineDrivers

/-!
# The keyboard parity check

The check compares the masked pin register with a parity of zero or one. On
the keyboard line the mask is two, so a high parity bit never compares equal
and the check can refuse a frame only while the parity bit is low.
-/

namespace DiyPs3Controller.ParityCheck

open Avr BitLists RingBuffer Reception Frames LineDrivers KeyboardDriver

/-- No byte of the samples is queued and the device is asked to send again. -/
def Refused {σ : Type} (L : LineDriver σ) (s : σ) (pins : List U8) : Prop :=
  (∀ b, .addElement b ∉ L.machine.outputs s pins) ∧
    (L.rx (L.machine.state s pins)).ringbuffer = (L.rx s).ringbuffer ∧
    .sendByte 0xFE#8 ∈ L.machine.outputs s pins

theorem refused_iff {σ : Type} (L : LineDriver σ) (s : σ) (pins : List U8) :
    Refused L s pins ↔
      (∀ b, .addElement b ∉ (lineMachine L.dataBit).outputs (L.rx s) pins) ∧
        ((lineMachine L.dataBit).state (L.rx s) pins).ringbuffer = (L.rx s).ringbuffer ∧
        .sendByte 0xFE#8 ∈ (lineMachine L.dataBit).outputs (L.rx s) pins := by
  rw [Refused, L.outputs_eq s pins, L.rx_state s pins]

/-- A high parity bit passes the keyboard check behind every byte. -/
theorem parityRejects_high (b : U8) : parityRejects kbDataBit b true = false := by
  cases h : oddOnes (toLsb b) <;> simp [parityRejects, parityEvenBit, kbDataBit, h]

/-- A low parity bit fails the keyboard check behind a byte of even parity. -/
theorem parityRejects_low {b : U8} (h : oddOnes (toLsb b) = false) :
    parityRejects kbDataBit b false = true := by
  simp [parityRejects, parityEvenBit, h]

section Samples
variable {r : Receiver} (hr : r.Idle) (herror : r.error = 0#8)
  {start parity stop : U8} {data : List U8}
  (hstart : line kbDataBit start = false) (hlen : data.length = 8)
include hr hstart hlen

/-- A high parity bit and a high stop bit queue the byte. -/
theorem high_parity_queued (hparity : line kbDataBit parity = true)
    (hstop : line kbDataBit stop = true) :
    (lineMachine kbDataBit).outputs r (start :: data ++ [parity] ++ [stop]) =
      [.addElement (byteOf kbDataBit data)] :=
  (accepted_run (by decide) hr hstart hlen (hparity ▸ parityRejects_high _) hstop).2

include herror

/-- Behind a high parity bit only a low stop bit is refused. -/
theorem low_stop_refused (hparity : line kbDataBit parity = true)
    (hstop : line kbDataBit stop = false) :
    (lineMachine kbDataBit).outputs r (start :: data ++ [parity] ++ [stop]) =
        [.sendByte 0xFE#8] ∧
      ((lineMachine kbDataBit).state r (start :: data ++ [parity] ++ [stop])).ringbuffer =
        r.ringbuffer := by
  obtain ⟨hstate, hout⟩ :=
    stop_rejected_run (by decide) hr hstart hlen (hparity ▸ parityRejects_high _) hstop
  rw [hstate, hout]
  simp [askResend, herror, clearIsr]

/-- A low parity bit behind a byte of even parity is refused at once, and the
sample after it finds the receiver idle. -/
theorem low_parity_refused (hparity : line kbDataBit parity = false)
    (hones : oddOnes (data.map (line kbDataBit)) = false) (stop : U8) :
    (lineMachine kbDataBit).outputs r (start :: data ++ [parity] ++ [stop]) =
        [.sendByte 0xFE#8] ∧
      ((lineMachine kbDataBit).state r (start :: data ++ [parity] ++ [stop])).ringbuffer =
        r.ringbuffer := by
  have hbits : toLsb (byteOf kbDataBit data) = data.map (line kbDataBit) :=
    toLsb_ofLsb (by simpa using hlen)
  obtain ⟨hstate, hout⟩ := parity_rejected_run (by decide) hr hstart hlen
    (hparity ▸ parityRejects_low (hbits ▸ hones))
  rw [Machine.state_append, Machine.outputs_append, hstate, hout]
  have hd : kbDataBit < 8 := by decide
  cases hstop : line kbDataBit stop <;>
    simp [askResend, herror, clearIsr, lineMachine, clock_idle_high hd, clock_start hd, hstop]

end Samples

/-- A frame whose data and parity bits hold an even number of ones is refused
exactly when its parity bit or its stop bit is low. -/
theorem evenFrame_refused_iff (history : List U8)
    (hidle : (keyboardLine.rx (keyboardLine.machine.state kbInit history)).bitN = 1#8)
    (herror : (keyboardLine.rx (keyboardLine.machine.state kbInit history)).error = 0#8)
    (start : U8) (data : List U8) (parity stop : U8)
    (hstart : line kbDataBit start = false) (hlen : data.length = 8)
    (heven : oddOnes ((data ++ [parity]).map (line kbDataBit)) = false) :
    Refused keyboardLine (keyboardLine.machine.state kbInit history)
        (start :: data ++ [parity] ++ [stop]) ↔
      line kbDataBit parity = false ∨ line kbDataBit stop = false := by
  have hr := keyboardLine.idle_of_reached keyboardLine_init_idle history hidle
  have hd : keyboardLine.dataBit = kbDataBit := rfl
  rw [refused_iff, hd]
  rw [List.map_append, List.map_singleton, oddOnes_append_singleton] at heven
  cases hparity : line kbDataBit parity with
  | false =>
      have hones : oddOnes (data.map (line kbDataBit)) = false := by simpa [hparity] using heven
      obtain ⟨hout, hring⟩ := low_parity_refused hr herror hstart hlen hparity hones stop
      rw [hout, hring]
      simp
  | true =>
      cases hstop : line kbDataBit stop with
      | false =>
          obtain ⟨hout, hring⟩ := low_stop_refused hr herror hstart hlen hparity hstop
          rw [hout, hring]
          simp
      | true =>
          rw [high_parity_queued hr hstart hlen hparity hstop]
          simp

/-- One set data bit under a low parity bit, with a high stop bit. -/
theorem evenFrame_refused_iff_oneOne :
    Refused keyboardLine (keyboardLine.machine.state kbInit [])
        (0#8 :: [0#8, 0#8, 2#8, 2#8, 0#8, 0#8, 0#8, 0#8] ++ [0#8] ++ [2#8]) ↔
      line kbDataBit 0#8 = false ∨ line kbDataBit 2#8 = false :=
  evenFrame_refused_iff [] (by decide) (by decide) 0#8
    [0#8, 0#8, 2#8, 2#8, 0#8, 0#8, 0#8, 0#8] 0#8 2#8 (by decide) (by decide) (by decide)

/-- The byte one with a high parity bit is queued although its ones are even. -/
theorem evenFrame_queued :
    ¬ ∀ (history : List U8) (start : U8) (data : List U8) (parity stop : U8),
      (keyboardLine.rx (keyboardLine.machine.state kbInit history)).bitN = 1#8 →
      (keyboardLine.rx (keyboardLine.machine.state kbInit history)).error = 0#8 →
      line kbDataBit start = false → data.length = 8 →
      oddOnes ((data ++ [parity]).map (line kbDataBit)) = false →
      Refused keyboardLine (keyboardLine.machine.state kbInit history)
        (start :: data ++ [parity] ++ [stop]) := by
  intro h
  have hrefused := h [] 0#8 [2#8, 0#8, 0#8, 0#8, 0#8, 0#8, 0#8, 0#8] 2#8 2#8 (by decide)
    (by decide) (by decide) (by decide) (by decide)
  exact hrefused.1 1#8 (by decide)

end DiyPs3Controller.ParityCheck
