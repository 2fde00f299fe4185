import Mathlib.Data.List.Induction
import DiyPs3Controller.Ps2.LineDrivers

/-!
# Frames between sends

The main loop may send at any time, and a send clears the variables of the clock
interrupt in the middle of a frame. The samples since the counter was last at one
determine the counter and the byte under construction on every path, whether
frames are accepted, rejected, frozen by an error or cut off by a send.
-/

namespace DiyPs3Controller.FrameIntegrity

open Avr BitLists Reception Frames LineDrivers MouseDriver KeyboardDriver

/-- A line driver with the main loop's way of sending. -/
structure SendingLine (σ : Type) extends LineDriver σ where
  send : σ → U8 → σ
  sent : ∀ s data, rx (send s data) = clearIsr (rx s)

/-- The mouse line with `SendByte`. -/
def mouseSending : SendingLine Mouse where
  toLineDriver := mouseLine
  send m data := (sendByte m data).1
  sent _ _ := rfl

/-- The keyboard line with `KB_Send`. -/
def keyboardSending : SendingLine Keyboard where
  toLineDriver := keyboardLine
  send k data := (kbSend k data).1
  sent _ _ := rfl

/-- A clock interrupt, or a call of the send function by the main loop. -/
inductive LineInput
  | clock (pin : U8)
  | send (data : U8)
  deriving DecidableEq, Repr

/-- The clock interrupt of a line, with the main loop sending. -/
def sendingMachine {σ : Type} (L : SendingLine σ) : Machine σ LineInput RxCall where
  step s
    | .clock pin => L.machine.step s pin
    | .send data => (L.send s data, [])

/-- No byte mixes two frames: the counter stays in its range, the byte under
construction is empty from the next position on, and a byte is queued only from
eight consecutive samples behind a low sample that was taken with the counter at 1. -/
structure FramesKept {σ : Type} (L : SendingLine σ) (s₀ : σ) : Prop where
  counter : ∀ inputs, 1 ≤ (L.rx ((sendingMachine L).state s₀ inputs)).bitN.toNat ∧
    (L.rx ((sendingMachine L).state s₀ inputs)).bitN.toNat ≤ 11
  ahead : ∀ inputs i, (L.rx ((sendingMachine L).state s₀ inputs)).bitN.toNat ≤ i + 2 →
    (L.rx ((sendingMachine L).state s₀ inputs)).buffer.getLsbD i = false
  empty : ∀ inputs, (L.rx ((sendingMachine L).state s₀ inputs)).bitN.toNat ≤ 2 →
    (L.rx ((sendingMachine L).state s₀ inputs)).buffer = 0#8
  queued : ∀ inputs input b,
    .addElement b ∈ ((sendingMachine L).step ((sendingMachine L).state s₀ inputs) input).2 →
      ∃ before start data after,
        inputs = before ++ .clock start :: (data ++ after).map .clock ∧
          (L.rx ((sendingMachine L).state s₀ before)).bitN = 1#8 ∧
          line L.dataBit start = false ∧ data.length = 8 ∧ byteOf L.dataBit data = b

section Runs
variable {σ : Type} {L : SendingLine σ} {s₀ : σ}

/-- The inputs end with the samples since the counter was last at 1. -/
def Framed (L : SendingLine σ) (s₀ : σ) (inputs : List LineInput) : Prop :=
  ∃ before pins, inputs = before ++ pins.map .clock ∧
    (L.rx ((sendingMachine L).state s₀ before)).bitN = 1#8 ∧
    InFrame L.dataBit pins (L.rx ((sendingMachine L).state s₀ inputs))

theorem framed_of_idle {inputs : List LineInput}
    (h : (L.rx ((sendingMachine L).state s₀ inputs)).Idle) : Framed L s₀ inputs :=
  ⟨inputs, [], (List.append_nil _).symm, h.1, .waiting h⟩

theorem state_concat (inputs : List LineInput) (input : LineInput) :
    (sendingMachine L).state s₀ (inputs ++ [input]) =
      ((sendingMachine L).step ((sendingMachine L).state s₀ inputs) input).1 := by
  rw [Machine.state_append]
  rfl

theorem framed_step {inputs : List LineInput} (h : Framed L s₀ inputs) (input : LineInput) :
    Framed L s₀ (inputs ++ [input]) := by
  cases input with
  | send data =>
      apply framed_of_idle
      rw [state_concat]
      exact L.sent _ data ▸ clearIsr_idle _
  | clock pin =>
      obtain ⟨before, pins, hsplit, hone, hframe⟩ := h
      have hrx : L.rx ((sendingMachine L).state s₀ (inputs ++ [.clock pin])) =
          (clockInterrupt L.dataBit (L.rx ((sendingMachine L).state s₀ inputs)) pin).1 := by
        rw [state_concat]
        exact (L.shared _ pin).1
      rcases inFrame_step L.dataBit_lt hframe pin with hnext | hidle
      · refine ⟨before, pins ++ [pin], ?_, hone, hrx ▸ hnext⟩
        rw [hsplit, List.map_append, List.append_assoc]
        rfl
      · exact framed_of_idle (hrx ▸ hidle)

theorem framed_run (hs : (L.rx s₀).Idle) (inputs : List LineInput) : Framed L s₀ inputs := by
  induction inputs using List.reverseRecOn with
  | nil => exact framed_of_idle hs
  | append_singleton inputs input ih => exact framed_step ih input

/-- From idle, no byte mixes two frames. -/
theorem framesKept_of_idle (hs : (L.rx s₀).Idle) : FramesKept L s₀ where
  counter inputs := by
    obtain ⟨_, _, _, _, hframe⟩ := framed_run hs inputs
    exact hframe.counter
  ahead inputs i hi := by
    obtain ⟨_, _, _, _, hframe⟩ := framed_run hs inputs
    exact hframe.ahead hi
  empty inputs htwo := by
    obtain ⟨_, _, _, _, hframe⟩ := framed_run hs inputs
    exact hframe.empty htwo
  queued inputs input b hadd := by
    obtain ⟨before, pins, hsplit, hone, hframe⟩ := framed_run hs inputs
    cases input with
    | send data => cases hadd
    | clock pin =>
        have hclock : .addElement b ∈
            (clockInterrupt L.dataBit (L.rx ((sendingMachine L).state s₀ inputs)) pin).2 :=
          (L.shared _ pin).2 ▸ hadd
        obtain ⟨start, data, after, rfl, hframeData⟩ := inFrame_add L.dataBit_lt hframe hclock
        exact ⟨before, start, data, after, hsplit, hone, hframeData⟩

end Runs

/-- In both drivers no byte mixes two frames, from initialisation on. -/
theorem clockInterrupts_keep_frames :
    FramesKept mouseSending msInit ∧ FramesKept keyboardSending kbInit :=
  ⟨framesKept_of_idle mouseLine_init_idle, framesKept_of_idle keyboardLine_init_idle⟩

end DiyPs3Controller.FrameIntegrity
