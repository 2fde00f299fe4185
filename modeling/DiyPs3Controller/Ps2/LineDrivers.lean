import DiyPs3Controller.Ps2.Frames
import DiyPs3Controller.Ps2.MouseDriver
import DiyPs3Controller.Ps2.KeyboardDriver

/-!
# The clock interrupts of the two drivers

A line driver is a clock interrupt over a driver's own variables that treats
the receiver inside them as the shared body does. The mouse and the keyboard
driver are the two instances; what is shown of a line driver holds of both.
-/

namespace DiyPs3Controller.LineDrivers

open Avr RingBuffer Reception Frames MouseDriver KeyboardDriver

/-- A clock interrupt, the receiver it works on, and the main loop's way of
taking one byte from that receiver. -/
structure LineDriver (σ : Type) where
  dataBit : Nat
  dataBit_lt : dataBit < 8
  machine : Machine σ U8 RxCall
  rx : σ → Receiver
  shared : ∀ s pin, rx (machine.step s pin).1 = ((lineMachine dataBit).step (rx s) pin).1 ∧
    (machine.step s pin).2 = ((lineMachine dataBit).step (rx s) pin).2
  drain : σ → σ
  drained : ∀ s, rx (drain s) = { rx s with ringbuffer := (rx s).ringbuffer.getElement.1 }

/-- `MS_ClockInterrupt` on the mouse line, drained by `GetScancode`. -/
def mouseLine : LineDriver Mouse where
  dataBit := msDataBit
  dataBit_lt := by decide
  machine := ⟨msClockInterrupt⟩
  rx := Mouse.driver
  shared := fun _ _ => ⟨rfl, rfl⟩
  drain m := (getScancode m).1
  drained := fun _ => rfl

/-- `KB_ClockInterrupt` on the keyboard line, drained by `KB_GetScancode`. -/
def keyboardLine : LineDriver Keyboard where
  dataBit := kbDataBit
  dataBit_lt := by decide
  machine := ⟨kbClockInterrupt⟩
  rx := Keyboard.rx
  shared := fun _ _ => ⟨rfl, rfl⟩
  drain k := (kbGetScancode k).1
  drained := kbGetScancode_rx

namespace LineDriver

variable {σ : Type} (L : LineDriver σ)

theorem rx_state (s : σ) (pins : List U8) :
    L.rx (L.machine.state s pins) = (lineMachine L.dataBit).state (L.rx s) pins :=
  Machine.state_projection L.rx L.shared s pins

theorem outputs_eq (s : σ) (pins : List U8) :
    L.machine.outputs s pins = (lineMachine L.dataBit).outputs (L.rx s) pins :=
  Machine.outputs_projection L.rx L.shared s pins

theorem along_iff (P : Receiver → U8 → Prop) (s : σ) (pins : List U8) :
    L.machine.Along (fun s pin => P (L.rx s) pin) s pins ↔
      (lineMachine L.dataBit).Along P (L.rx s) pins :=
  Machine.along_projection L.rx L.shared P s pins

/-- A receiver reached from idle that waits for a start bit is idle again. -/
theorem idle_of_reached {s : σ} (hs : (L.rx s).Idle) (pins : List U8)
    (h : (L.rx (L.machine.state s pins)).bitN = 1#8) : (L.rx (L.machine.state s pins)).Idle := by
  rw [rx_state] at h ⊢
  have hp := Machine.history_of_step (M := lineMachine L.dataBit) (H := Progress L.dataBit)
    (progress_step L.dataBit_lt) (h := []) (.idle hs) pins
  exact idle_of_bitN hp h

/-- A valid frame from idle queues exactly its byte and leaves the receiver idle. -/
theorem frame_run {s : σ} (hs : (L.rx s).Idle) {b : U8} {pins : List U8}
    (h : IsFrame L.dataBit b pins) :
    L.machine.outputs s pins = [.addElement b] ∧
      (L.rx (L.machine.state s pins)).ringbuffer = (L.rx s).ringbuffer.addElement b ∧
      (L.rx (L.machine.state s pins)).Idle := by
  obtain ⟨hstate, hout⟩ := Frames.frame_run L.dataBit_lt hs h
  rw [outputs_eq, rx_state, hstate]
  exact ⟨hout, rfl, rfl, rfl⟩

end LineDriver

@[simp] theorem mouseLine_init_idle : (mouseLine.rx msInit).Idle := ⟨rfl, rfl⟩

@[simp] theorem keyboardLine_init_idle : (keyboardLine.rx kbInit).Idle := ⟨rfl, rfl⟩

end DiyPs3Controller.LineDrivers
