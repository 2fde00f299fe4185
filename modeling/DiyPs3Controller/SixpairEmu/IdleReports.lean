import DiyPs3Controller.Foundations.Histories
import DiyPs3Controller.SixpairEmu.InterruptReports

/-!
# Reports of an idle period

`SendNextReport` restarts an idle period that has elapsed before it knows
whether the endpoint is ready. A poll with the endpoint busy so uses up the
report that is due, and unless the report data have changed the host waits for
another whole period.
-/

namespace DiyPs3Controller.SixpairEmu

open ChangeFeeds Histories

/-- The device is configured and the endpoint busy. -/
def busy : HidInput := .hidTask .configured false

/-- `SendNextReport` is called. -/
def IsPoll (i : HidInput) : Prop := i = ready ∨ i = busy

instance (i : HidInput) : Decidable (IsPoll i) := inferInstanceAs (Decidable (_ ∨ _))

/-- A report is sent at the first poll with the endpoint ready, if there is one. -/
def SentNext (h : Hid) (inputs : List HidInput) : Prop :=
  ∀ waiting after, inputs = waiting ++ ready :: after → (∀ i ∈ waiting, i ≠ ready) →
    (hidMachine.step (hidMachine.state h waiting) ready).2 ≠ []

/-- Each poll that finds the idle period elapsed is followed by a report. -/
def NeverSkipped (h : Hid) (inputs : List HidInput) : Prop :=
  ∀ before i after, inputs = before ++ i :: after → IsPoll i →
    Elapsed (hidMachine.state h before) → SentNext (hidMachine.state h before) (i :: after)

/-- The start-of-frame ticks among the inputs. -/
def frames (inputs : List HidInput) : Nat := inputs.count .startOfFrame

/-- After a busy poll and the inputs behind it the report data have changed, or
as many ticks as `IdleCount` have passed and reports are still to be repeated. -/
def Recovered (h : Hid) (waiting : List HidInput) : Prop :=
  let next := hidMachine.state h (busy :: waiting)
  next.device.refReportData = next.prevSixaxisReportData →
    h.device.idleCount.toNat ≤ frames waiting ∧ next.device.idleCount ≠ hidIdleChangesonly

/-- Every busy poll that finds the idle period elapsed has been made up for when
the endpoint is ready again. -/
def SkipsRecovered (h : Hid) (inputs : List HidInput) : Prop :=
  ∀ before waiting after, inputs = before ++ busy :: (waiting ++ ready :: after) →
    (∀ i ∈ waiting, i ≠ ready) → Elapsed (hidMachine.state h before) →
      Recovered (hidMachine.state h before) waiting

/-- The input restarts the idle period. -/
def Restarts (h : Hid) (i : HidInput) : Prop := IsPoll i ∧ Elapsed h

section Step
variable (h : Hid)

/-- A ready poll sends a report that is new or due. -/
theorem ready_sends_iff :
    (hidMachine.step h ready).2 ≠ [] ↔
      h.device.refReportData ≠ h.prevSixaxisReportData ∨ Elapsed h := by
  have hsent := (sendNextReport_ready h).2
  rw [Machine.outputs_cons, Machine.outputs_nil, List.append_nil] at hsent
  have hstep : (hidMachine.step h ready).2 = (sendNextReport h true).2 := rfl
  rw [hstep, hsent]
  by_cases hdue : h.device.refReportData ≠ h.prevSixaxisReportData ∨ decide (Elapsed h) = true
  · rw [sender_sends hdue]
    simpa using hdue
  · rw [sender_silent hdue]
    simpa using hdue

theorem sendNextReport_remaining (isReadWriteAllowed : Bool) :
    (sendNextReport h isReadWriteAllowed).1.idleMSRemaining =
      if Elapsed h then h.device.idleCount else h.idleMSRemaining := by
  simp only [sendNextReport]
  split_ifs <;> rfl

/-- An input restarts the idle period, or is a tick, or leaves the rest as it is. -/
theorem step_remaining (i : HidInput) :
    Restarts h i ∧ (hidMachine.step h i).1.idleMSRemaining = h.device.idleCount ∨
      ¬Restarts h i ∧ (hidMachine.step h i).1.idleMSRemaining.toNat =
        h.idleMSRemaining.toNat - if i = .startOfFrame then 1 else 0 := by
  cases i with
  | hidTask usbDeviceState isReadWriteAllowed =>
      have hframe : HidInput.hidTask usbDeviceState isReadWriteAllowed ≠ .startOfFrame := by simp
      rw [if_neg hframe, Nat.sub_zero]
      by_cases hstate : usbDeviceState = .configured
      · subst hstate
        have hpoll : IsPoll (.hidTask .configured isReadWriteAllowed) := by
          cases isReadWriteAllowed
          · exact Or.inr rfl
          · exact Or.inl rfl
        have hstep : hidMachine.step h (.hidTask .configured isReadWriteAllowed) =
            sendNextReport h isReadWriteAllowed := rfl
        rw [hstep, sendNextReport_remaining]
        by_cases helapsed : Elapsed h
        · exact Or.inl ⟨⟨hpoll, helapsed⟩, if_pos helapsed⟩
        · exact Or.inr ⟨fun hrestarts => helapsed hrestarts.2, by rw [if_neg helapsed]⟩
      · have hstep : hidMachine.step h (.hidTask usbDeviceState isReadWriteAllowed) = (h, []) :=
          if_pos hstate
        rw [hstep]
        refine Or.inr ⟨?_, rfl⟩
        rintro ⟨hpoll | hpoll, -⟩
        · exact hstate (HidInput.hidTask.inj hpoll).1
        · exact hstate (HidInput.hidTask.inj hpoll).1
  | startOfFrame =>
      refine Or.inr ⟨fun hrestarts => by simp [Restarts, IsPoll, ready, busy] at hrestarts, ?_⟩
      simp only [hidMachine, startOfFrame]
      split_ifs with hrunning
      · bv_omega
      · simp_all
  | setIdle wValue =>
      exact Or.inr ⟨fun hrestarts => by simp [Restarts, IsPoll, ready, busy] at hrestarts, rfl⟩
  | refReportData report =>
      exact Or.inr ⟨fun hrestarts => by simp [Restarts, IsPoll, ready, busy] at hrestarts, rfl⟩

end Step

theorem frames_cons (i : HidInput) (rest : List HidInput) :
    frames (i :: rest) = (if i = .startOfFrame then 1 else 0) + frames rest := by
  rw [frames, List.count_cons, frames, Nat.add_comm]
  simp

section Run
variable (h : Hid) (inputs : List HidInput)

/-- The rest of the idle period falls by no more than the ticks. -/
theorem remaining_le_run :
    h.idleMSRemaining.toNat ≤
      (hidMachine.state h inputs).idleMSRemaining.toNat + frames inputs := by
  induction inputs generalizing h with
  | nil => exact Nat.le_refl _
  | cons i rest ih =>
      have hrest := ih (hidMachine.step h i).1
      rw [Machine.state_cons, frames_cons]
      rcases step_remaining h i with ⟨⟨-, helapsed⟩, hnext⟩ | ⟨-, hnext⟩
      · have hzero : h.idleMSRemaining.toNat = 0 := by rw [helapsed.2]; rfl
        omega
      · omega

/-- As long as nothing restarts it, the rest falls by the ticks, down to zero. -/
theorem remaining_run (hnone : hidMachine.Along (fun h i => ¬Restarts h i) h inputs) :
    (hidMachine.state h inputs).idleMSRemaining.toNat =
      h.idleMSRemaining.toNat - frames inputs := by
  induction inputs generalizing h with
  | nil => rfl
  | cons i rest ih =>
      have hrest := ih (hidMachine.step h i).1 hnone.2
      rw [Machine.state_cons, frames_cons, hrest]
      rcases step_remaining h i with ⟨hrestarts, -⟩ | ⟨-, hnext⟩
      · exact absurd hrestarts hnone.1
      · omega

end Run

section Busy
variable {h : Hid} {waiting : List HidInput}

theorem busy_remaining (helapsed : Elapsed h) :
    (hidMachine.step h busy).1.idleMSRemaining = h.device.idleCount := by
  rcases step_remaining h busy with ⟨-, hnext⟩ | ⟨hnot, -⟩
  · exact hnext
  · exact absurd ⟨Or.inr rfl, helapsed⟩ hnot

/-- The period that a busy poll restarts can elapse again no sooner than after
`IdleCount` ticks. -/
theorem frames_of_elapsed (helapsed : Elapsed h)
    (hagain : Elapsed (hidMachine.state h (busy :: waiting))) :
    h.device.idleCount.toNat ≤ frames waiting := by
  have hrun := remaining_le_run (hidMachine.step h busy).1 waiting
  have hzero : (hidMachine.state (hidMachine.step h busy).1 waiting).idleMSRemaining.toNat = 0 := by
    rw [← Machine.state_cons, hagain.2]
    rfl
  rw [busy_remaining helapsed, hzero, Nat.zero_add] at hrun
  exact hrun

/-- After so many ticks the period that a busy poll restarted, and nothing
behind it, has elapsed again. -/
theorem elapsed_of_frames (helapsed : Elapsed h)
    (hlast : ∀ pre i post, waiting = pre ++ i :: post →
      ¬Restarts (hidMachine.state h (busy :: pre)) i)
    (hframes : h.device.idleCount.toNat ≤ frames waiting)
    (hcount : (hidMachine.state h (busy :: waiting)).device.idleCount ≠ hidIdleChangesonly) :
    Elapsed (hidMachine.state h (busy :: waiting)) := by
  have hnone : hidMachine.Along (fun h i => ¬Restarts h i) (hidMachine.step h busy).1 waiting :=
    (Machine.along_iff_forall_split _ _).mpr hlast
  have hrun := remaining_run (hidMachine.step h busy).1 waiting hnone
  rw [busy_remaining helapsed, ← Machine.state_cons] at hrun
  refine ⟨hcount, BitVec.eq_of_toNat_eq ?_⟩
  rw [hrun]
  exact Nat.sub_eq_zero_of_le hframes

end Busy

/-- A run in which busy polls are made up for never skips a report. -/
theorem neverSkipped_of_recovered {h : Hid} {inputs : List HidInput}
    (hrecovered : SkipsRecovered h inputs) : NeverSkipped h inputs := by
  intro before i rest hinputs hpoll helapsed waiting after hrest hwaiting
  rw [ready_sends_iff]
  cases waiting with
  | nil => exact Or.inr helapsed
  | cons j waiting =>
      obtain ⟨rfl, hrest⟩ := List.cons.inj hrest
      have hbusy : i = busy := hpoll.resolve_left (hwaiting i List.mem_cons_self)
      have hrestarts : Restarts (hidMachine.state h before) i := ⟨hpoll, helapsed⟩
      have hexists : ∃ pre j post, i :: waiting = pre ++ j :: post ∧
          Restarts (hidMachine.state (hidMachine.state h before) pre) j :=
        ⟨[], i, waiting, rfl, hrestarts⟩
      obtain ⟨pre, j, post, hsplit, ⟨hagainPoll, hagain⟩, hlast⟩ := exists_last_split
        (C := fun pre j => Restarts (hidMachine.state (hidMachine.state h before) pre) j) hexists
      have hmem : ∀ k ∈ j :: post, k ≠ ready := by
        intro k hk
        apply hwaiting
        rw [hsplit]
        exact List.mem_append_right pre hk
      obtain rfl : j = busy := hagainPoll.resolve_left (hmem j List.mem_cons_self)
      have hwhole : inputs = (before ++ pre) ++ busy :: (post ++ ready :: after) := by
        rw [hinputs, hrest, ← List.cons_append, hsplit]
        simp [List.append_assoc]
      have hend : hidMachine.state (hidMachine.state h before) (i :: waiting) =
          hidMachine.state (hidMachine.state h (before ++ pre)) (busy :: post) := by
        rw [hsplit, Machine.state_append, Machine.state_append]
      rw [← Machine.state_append] at hagain
      rw [hend, or_iff_not_imp_left, not_not]
      intro hsame
      obtain ⟨hframes, hcount⟩ := hrecovered (before ++ pre) post after hwhole
        (fun k hk => hmem k (List.mem_cons_of_mem _ hk)) hagain hsame
      apply elapsed_of_frames hagain _ hframes hcount
      intro pre' k post' hpost
      have hnot := hlast pre' k post' hpost
      simpa only [Machine.state_append] using hnot

/-- From every state, a report that is due is sent at the first poll that can
send it exactly when every busy poll that uses one up is made up for. -/
theorem neverSkipped_iff (h : Hid) (inputs : List HidInput) :
    NeverSkipped h inputs ↔ SkipsRecovered h inputs := by
  constructor
  · intro hnever before waiting after hinputs hwaiting helapsed hsame
    have hsent := hnever before busy (waiting ++ ready :: after) hinputs (Or.inr rfl) helapsed
      (busy :: waiting) after rfl
      (List.forall_mem_cons.mpr ⟨by simp [busy, ready], hwaiting⟩)
    have hagain := ((ready_sends_iff _).mp hsent).resolve_left (not_not.mpr hsame)
    exact ⟨frames_of_elapsed helapsed hagain, hagain.1⟩
  · exact neverSkipped_of_recovered

/-- An idle period of four milliseconds that elapses while the endpoint is busy. -/
def busyExpiry : List HidInput :=
  [.setIdle 0x0100#16, ready, .startOfFrame, .startOfFrame, .startOfFrame, .startOfFrame, busy,
    ready]

/-- The report that is due at the busy poll is not sent at the ready one. -/
theorem busyExpiry_skips : ¬∀ h inputs, NeverSkipped h inputs := by
  intro h
  let powered : Hid := hidStart (powerUp programmedEeprom)
  have hsent := h powered busyExpiry (busyExpiry.take 6) busy [ready] rfl (Or.inr rfl)
    (by decide +kernel) [busy] [] rfl (by decide)
  revert hsent
  decide +kernel

end DiyPs3Controller.SixpairEmu
