import DiyPs3Controller.Ps2.LineDrivers

/-!
# Recovery from a rejected frame

A failing sample should leave the receiver idle, drop the frame and let every
later valid frame through. The error exit clears the interrupt variables only
inside the send, and sends only while the error flag is clear, so this is what
happens exactly when no failing sample finds the flag set.
-/

namespace DiyPs3Controller.ReceiveRecovery

open Avr Reception Frames LineDrivers MouseDriver KeyboardDriver

/-- What a failing sample should leave behind for the samples after it. -/
structure RecoversAt {σ : Type} (L : LineDriver σ) (s : σ) (pin : U8) (post : List U8) :
    Prop where
  idle : (L.rx (L.machine.step s pin).1).Idle
  dropped : (L.rx (L.machine.step s pin).1).ringbuffer = (L.rx s).ringbuffer
  fresh : ∀ b, .addElement b ∈ L.machine.outputs (L.machine.step s pin).1 post →
    Spelled L.dataBit b post
  frames : ∀ mid pins rest b, post = mid ++ pins ++ rest → Slots L.dataBit mid →
    IsFrame L.dataBit b pins →
    let before := L.machine.state (L.machine.step s pin).1 mid
    L.machine.outputs before pins = [.addElement b] ∧
      (L.rx (L.machine.state before pins)).ringbuffer = (L.rx before).ringbuffer.addElement b ∧
      (L.rx (L.machine.state before pins)).Idle

/-- The receiver recovers from every failing sample of a run. -/
def Recovers {σ : Type} (L : LineDriver σ) (s : σ) (pins : List U8) : Prop :=
  ∀ pre pin post, pins = pre ++ pin :: post →
    CheckFails L.dataBit (L.rx (L.machine.state s pre)) pin →
    RecoversAt L (L.machine.state s pre) pin post

/-- No failing sample of a run finds the error flag set. -/
def Unflagged {σ : Type} (L : LineDriver σ) (s : σ) (pins : List U8) : Prop :=
  L.machine.Along (fun s pin => FailsUnflagged L.dataBit (L.rx s) pin) s pins

section Driver
variable {σ : Type} {L : LineDriver σ} {s : σ} {pin : U8} {post : List U8}

theorem rejected_step (hfail : CheckFails L.dataBit (L.rx s) pin) :
    L.rx (L.machine.step s pin).1 = (askResend (L.rx s)).1 := by
  rw [(L.shared s pin).1]
  exact congrArg Prod.fst (clock_rejected hfail)

/-- A failing sample that finds the flag set leaves the counter where it was. -/
theorem flagged_not_idle (hfail : CheckFails L.dataBit (L.rx s) pin)
    (herror : (L.rx s).error ≠ 0#8) : ¬ (L.rx (L.machine.step s pin).1).Idle := by
  rw [rejected_step hfail, askResend, if_neg herror]
  rintro ⟨hbit, -⟩
  rcases hfail with ⟨hr, -⟩ | ⟨hr, -⟩ <;> simp [hr] at hbit

/-- A failing sample that finds the flag clear is recovered from, as long as
the samples after it keep finding the flag clear. -/
theorem unflagged_recoversAt (hfail : CheckFails L.dataBit (L.rx s) pin)
    (hgood : Unflagged L s (pin :: post)) : RecoversAt L s pin post := by
  have herror : (L.rx s).error = 0#8 := hgood.1 hfail
  have hidle : (L.rx (L.machine.step s pin).1).Idle := by
    rw [rejected_step hfail]
    exact askResend_idle herror
  refine ⟨hidle, ?_, ?_, ?_⟩
  · simp [rejected_step hfail, askResend, herror, clearIsr]
  · intro b hb
    rw [L.outputs_eq] at hb
    exact queued_spelled L.dataBit_lt hidle post hb
  · rintro mid pins rest b rfl hmid hframe
    have htail := hgood.2
    rw [List.append_assoc, Machine.along_append] at htail
    have hready : (L.rx (L.machine.state (L.machine.step s pin).1 mid)).Idle := by
      rw [L.rx_state]
      exact slots_idle L.dataBit_lt hmid hidle ((L.along_iff _ _ _).mp htail.1)
    exact L.frame_run hready hframe

/-- A run is recovered from exactly when no failing sample finds the flag set. -/
theorem recovers_iff (pins : List U8) : Recovers L s pins ↔ Unflagged L s pins := by
  constructor
  · intro h
    refine (Machine.along_iff_forall_split s pins).mpr fun pre pin post hp hfail => ?_
    by_contra herror
    exact flagged_not_idle hfail herror (h pre pin post hp hfail).idle
  · rintro h pre pin post rfl hfail
    exact unflagged_recoversAt hfail ((Machine.along_append _ _ _).mp h).2

end Driver

/-- Both clock interrupts recover from every failing sample of a run exactly
when no failing sample of the run finds the error flag set. -/
theorem clockInterrupts_recover_iff (pins : List U8) :
    (Recovers mouseLine msInit pins ↔ Unflagged mouseLine msInit pins) ∧
      (Recovers keyboardLine kbInit pins ↔ Unflagged keyboardLine kbInit pins) :=
  ⟨recovers_iff pins, recovers_iff pins⟩

/-- Two frames of the byte zero in a row, each cut off by its low parity bit. -/
def twoBadFrames : List U8 := List.replicate 20 0#8

/-- The second of two bad frames leaves both receivers waiting at the parity bit. -/
theorem twoBadFrames_not_recovered :
    ¬ Recovers mouseLine msInit twoBadFrames ∧ ¬ Recovers keyboardLine kbInit twoBadFrames := by
  constructor
  · intro h
    have hidle := (h (List.replicate 19 0#8) 0#8 [] rfl (by decide)).idle
    revert hidle
    decide
  · intro h
    have hidle := (h (List.replicate 19 0#8) 0#8 [] rfl (by decide)).idle
    revert hidle
    decide

end DiyPs3Controller.ReceiveRecovery
