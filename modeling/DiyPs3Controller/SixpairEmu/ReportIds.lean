import DiyPs3Controller.Foundations.LastWrites
import DiyPs3Controller.SixpairEmu.Requests

/-!
# Report ids that share a buffer

Every SetReport writes the same scratch buffer, and the reply to report 0x03ef
reads its byte 6. The reply shows what the last SetReport of that id carried
exactly when no later SetReport of another id has left a different byte there.
-/

namespace DiyPs3Controller.SixpairEmu

open Buffers

/-- A step of one session: data stages fit the scratch buffer. -/
def WithinBuffer : Event → Prop
  | .request r => r.Fits
  | .psButton _ => True
  | .powerCycle => False

/-- A SetReport of this id. -/
def Event.sets (wValue : U16) : Event → Bool
  | .request r => r.IsSetReport ∧ r.wValue = wValue
  | .psButton _ => false
  | .powerCycle => false

/-- Byte 6 of a SetReport that has at least seven bytes. -/
def byteWrite : Event → Option U8
  | .request r => if r.IsSetReport then r.data[6]? else none
  | .psButton _ => none
  | .powerCycle => none

/-- The same for the SetReports of one id. -/
def byteWriteOf (wValue : U16) (e : Event) : Option U8 :=
  if e.sets wValue then byteWrite e else none

/-- The GetReport of 0x03ef. -/
abbrev get03ef (wLength : U16) : ControlRequest := .get 0x03ef wLength

/-- Every reply to a GetReport of 0x03ef in the run shows byte 6 of the last
SetReport of 0x03ef that had one. -/
def Reports03ef (eeprom : Eeprom) (run : List Event) : Prop :=
  ∀ pre wLength post, run = pre ++ .request (get03ef wLength) :: post → 8 ≤ wLength.toNat →
    ∃ sent, answers (emulator.state (.ok (powerUp eeprom)) pre) (get03ef wLength) = [sent] ∧
      sent[7]? = some (some (lastWrite (byteWriteOf 0x03ef) 0#8 pre))

/-- At every GetReport of 0x03ef the last SetReport of any id carried the same
byte 6 as the last one of 0x03ef. -/
def Undisturbed (run : List Event) : Prop :=
  ∀ pre wLength post, run = pre ++ .request (get03ef wLength) :: post → 8 ≤ wLength.toNat →
    lastWrite byteWrite 0#8 pre = lastWrite (byteWriteOf 0x03ef) 0#8 pre

/-- The scratch buffer holds the byte that was written last. -/
def ScratchKnown (history : List Event) (d : Device) : Prop :=
  d.lastSetData[6]? = some (lastWrite byteWrite 0#8 history)

theorem ScratchKnown.request {history : List Event} {d d' : Device} {r : ControlRequest}
    (known : ScratchKnown history d) (handled : Handled d r d') :
    ScratchKnown (history ++ [.request r]) d' := by
  rw [ScratchKnown, Vector.getElem?_eq_getElem (by decide), Option.some.injEq] at known ⊢
  rw [lastWrite_concat]
  by_cases hset : r.IsSetReport
  · simp only [handled.lastSetData, byteWrite, if_pos hset]
    rw [getElem_overwrite_zero, known]
  · simp only [handled.lastSetData, byteWrite, if_neg hset]
    exact known

theorem scratchKnown_run (eeprom : Eeprom) {run : List Event} (h : ∀ e ∈ run, WithinBuffer e) :
    ∃ d, emulator.state (.ok (powerUp eeprom)) run = .ok d ∧ ScratchKnown run d := by
  apply emulator_run (N := WithinBuffer) (H := ScratchKnown) _ _ _ _ _ h
  · exact fun r hr => hr
  · exact fun history d r d' known _ handled => known.request handled
  · intro history d value known
    rw [ScratchKnown, lastWrite_concat]
    exact known
  · exact fun history d _ hcycle => hcycle.elim
  · simp [ScratchKnown]

/-- The reply of 0x03ef after any session. -/
theorem answers_03ef (eeprom : Eeprom) {run : List Event} (h : ∀ e ∈ run, WithinBuffer e)
    (wLength : U16) :
    answers (emulator.state (.ok (powerUp eeprom)) run) (get03ef wLength) =
      [firstCells ((buffer03ef.set 7 (lastWrite byteWrite 0#8 run)).map some) wLength.toNat] := by
  obtain ⟨d, hstate, scratch⟩ := scratchKnown_run eeprom h
  have hkind : reportKind (get03ef wLength).wValue = .report03ef := by
    change reportKind 0x03ef = .report03ef
    decide
  rw [ScratchKnown, Vector.getElem?_eq_getElem (by decide), Option.some.injEq] at scratch
  rw [hstate, answers_getReport (ControlRequest.isGetReport_get _ _),
    getReport_sent (by rw [hkind]; decide), hkind, replyBuffer, scratch]
  rfl

/-- Its byte 7. -/
theorem byte7_03ef (b : U8) {n : Nat} (h : 8 ≤ n) :
    (firstCells ((buffer03ef.set 7 b).map some) n)[7]? = some (some b) := by
  rw [getElem?_firstCells _ (by omega)]
  simp [buffer03ef]

theorem before_withinBuffer {run pre post : List Event} (h : ∀ e ∈ run, WithinBuffer e)
    (split : run = pre ++ post) : ∀ e ∈ pre, WithinBuffer e := by
  intro e he
  apply h
  rw [split]
  exact List.mem_append_left post he

/-- A run reports byte 6 of 0x03ef exactly when it is undisturbed. -/
theorem reports03ef_iff (eeprom : Eeprom) {run : List Event} (h : ∀ e ∈ run, WithinBuffer e) :
    Reports03ef eeprom run ↔ Undisturbed run := by
  constructor
  · intro hreports pre wLength post hrun hlen
    obtain ⟨sent, hsent, hbyte⟩ := hreports pre wLength post hrun hlen
    have hpre := before_withinBuffer h hrun
    rw [answers_03ef eeprom hpre, List.cons.injEq] at hsent
    rw [← hsent.1, byte7_03ef _ hlen] at hbyte
    exact Option.some.inj (Option.some.inj hbyte)
  · intro hclean pre wLength post hrun hlen
    have hpre := before_withinBuffer h hrun
    refine ⟨_, answers_03ef eeprom hpre wLength, ?_⟩
    rw [byte7_03ef _ hlen, hclean pre wLength post hrun hlen]

/-- The bytes of 0x03ef depend on its own SetReports only. -/
theorem lastWrite_byteWriteOf_filter (wValue : U16) (run : List Event) :
    lastWrite (byteWriteOf wValue) 0#8 (run.filter (Event.sets wValue)) =
      lastWrite (byteWriteOf wValue) 0#8 run := by
  apply lastWrite_filter
  intro e he
  rw [byteWriteOf, he]
  rfl

/-- Short transfers do not reach byte 7. -/
theorem firstCells_03ef_short (b c : U8) {n : Nat} (h : n < 8) :
    firstCells ((buffer03ef.set 7 b).map some) n =
      firstCells ((buffer03ef.set 7 c).map some) n := by
  have hlen (x : U8) : n ≤ ((buffer03ef.set 7 x).map some).length := by
    simp [buffer03ef]
    omega
  rw [firstCells_eq_take (hlen b), firstCells_eq_take (hlen c), ← List.map_take, ← List.map_take,
    List.take_set_of_le (by omega), List.take_set_of_le (by omega)]

/-- Undisturbed runs with the same SetReports of 0x03ef answer alike. -/
theorem answers_03ef_congr (eeprom : Eeprom) {run₁ run₂ : List Event}
    (h₁ : ∀ e ∈ run₁, WithinBuffer e) (h₂ : ∀ e ∈ run₂, WithinBuffer e)
    (clean₁ : Undisturbed run₁) (clean₂ : Undisturbed run₂)
    {pre₁ post₁ pre₂ post₂ : List Event} {wLength : U16}
    (split₁ : run₁ = pre₁ ++ .request (get03ef wLength) :: post₁)
    (split₂ : run₂ = pre₂ ++ .request (get03ef wLength) :: post₂)
    (same : pre₁.filter (Event.sets 0x03ef) = pre₂.filter (Event.sets 0x03ef)) :
    answers (emulator.state (.ok (powerUp eeprom)) pre₁) (get03ef wLength) =
      answers (emulator.state (.ok (powerUp eeprom)) pre₂) (get03ef wLength) := by
  rw [answers_03ef eeprom (before_withinBuffer h₁ split₁),
    answers_03ef eeprom (before_withinBuffer h₂ split₂)]
  by_cases hlen : 8 ≤ wLength.toNat
  · have hbyte : lastWrite byteWrite 0#8 pre₁ = lastWrite byteWrite 0#8 pre₂ := by
      calc lastWrite byteWrite 0#8 pre₁
          = lastWrite (byteWriteOf 0x03ef) 0#8 pre₁ := clean₁ pre₁ wLength post₁ split₁ hlen
        _ = lastWrite (byteWriteOf 0x03ef) 0#8 (pre₁.filter (Event.sets 0x03ef)) :=
            (lastWrite_byteWriteOf_filter 0x03ef pre₁).symm
        _ = lastWrite (byteWriteOf 0x03ef) 0#8 pre₂ := by
            rw [same, lastWrite_byteWriteOf_filter]
        _ = lastWrite byteWrite 0#8 pre₂ := (clean₂ pre₂ wLength post₂ split₂ hlen).symm
    rw [hbyte]
  · rw [firstCells_03ef_short _ _ (by omega)]

/-- The request of `sixmod`: its byte 6 is the one to change. -/
def sixmodSet : ControlRequest :=
  .set 0x03ef ([0x00, 0x00, 0x00, 0x00, 0x03, 0x01, 0xA0] ++ List.replicate 41 0x00) (by decide)

/-- The request of `sixpair` for the master 11:22:33:44:55:66. -/
def sixpairSet : ControlRequest :=
  .set 0x03f5 [0x01, 0x00, 0x11, 0x22, 0x33, 0x44, 0x55, 0x66] (by decide)

theorem isSetReport_sixmodSet : sixmodSet.IsSetReport := ControlRequest.isSetReport_set _

theorem isSetReport_sixpairSet : sixpairSet.IsSetReport := ControlRequest.isSetReport_set _

theorem get03ef_ne {r : ControlRequest} (h : r.IsSetReport) (wLength : U16) :
    get03ef wLength ≠ r := by
  rintro rfl
  exact ControlRequest.not_isSetReport_get _ _ h

theorem withinBuffer_sixmodSet : WithinBuffer (.request sixmodSet) := fun _ => by decide

theorem withinBuffer_sixpairSet : WithinBuffer (.request sixpairSet) := fun _ => by decide

theorem withinBuffer_get03ef (wLength : U16) : WithinBuffer (.request (get03ef wLength)) :=
  fun hset => absurd hset (ControlRequest.not_isSetReport_get _ _)

/-- Report 0x03ef shows its own last SetReport exactly in undisturbed runs, and
two undisturbed runs with the same SetReports of 0x03ef answer it alike. -/
theorem report03ef_isolated_iff (eeprom : Eeprom) :
    (∀ run, (∀ e ∈ run, WithinBuffer e) → (Reports03ef eeprom run ↔ Undisturbed run)) ∧
    ∀ run₁ run₂, (∀ e ∈ run₁, WithinBuffer e) → (∀ e ∈ run₂, WithinBuffer e) →
      Undisturbed run₁ → Undisturbed run₂ →
      ∀ pre₁ post₁ pre₂ post₂ wLength,
        run₁ = pre₁ ++ .request (get03ef wLength) :: post₁ →
        run₂ = pre₂ ++ .request (get03ef wLength) :: post₂ →
        pre₁.filter (Event.sets 0x03ef) = pre₂.filter (Event.sets 0x03ef) →
        answers (emulator.state (.ok (powerUp eeprom)) pre₁) (get03ef wLength) =
          answers (emulator.state (.ok (powerUp eeprom)) pre₂) (get03ef wLength) := by
  constructor
  · intro run h
    exact reports03ef_iff eeprom h
  · intro run₁ run₂ h₁ h₂ clean₁ clean₂ pre₁ post₁ pre₂ post₂ wLength split₁ split₂ same
    exact answers_03ef_congr eeprom h₁ h₂ clean₁ clean₂ split₁ split₂ same

/-- Setting the pairing address between the two requests of `sixmod` changes what
it reads: byte 6 of the address request instead of its own. -/
theorem sixpair_disturbs_sixmod :
    [Event.request sixmodSet, .request sixpairSet].filter (Event.sets 0x03ef) =
      [Event.request sixmodSet].filter (Event.sets 0x03ef) ∧
    answers (emulator.state (.ok (powerUp programmedEeprom))
        [.request sixmodSet, .request sixpairSet]) (get03ef 64) ≠
      answers (emulator.state (.ok (powerUp programmedEeprom))
        [.request sixmodSet]) (get03ef 64) ∧
    ¬Reports03ef programmedEeprom
      [.request sixmodSet, .request sixpairSet, .request (get03ef 64)] := by
  have hboth : ∀ e ∈ [Event.request sixmodSet, .request sixpairSet], WithinBuffer e := by
    simp [withinBuffer_sixmodSet, withinBuffer_sixpairSet]
  have hone : ∀ e ∈ [Event.request sixmodSet], WithinBuffer e := by
    simp [withinBuffer_sixmodSet]
  refine ⟨by decide, ?_, ?_⟩
  · rw [answers_03ef _ hboth, answers_03ef _ hone]
    decide
  · intro hreports
    have hrun : ∀ e ∈ [Event.request sixmodSet, .request sixpairSet,
        .request (get03ef 64)], WithinBuffer e := by
      simp [withinBuffer_sixmodSet, withinBuffer_sixpairSet, withinBuffer_get03ef]
    have hclean := (reports03ef_iff _ hrun).mp hreports
      [.request sixmodSet, .request sixpairSet] 64 [] rfl (by decide)
    exact absurd hclean (by decide)

/-- A run with one GetReport of 0x03ef, at its end. -/
theorem undisturbed_concat {pre : List Event} {wLength : U16}
    (first : ∀ w, .request (get03ef w) ∉ pre)
    (same : lastWrite byteWrite 0#8 pre = lastWrite (byteWriteOf 0x03ef) 0#8 pre) :
    Undisturbed (pre ++ [.request (get03ef wLength)]) := by
  intro pre' w post hsplit _
  rcases List.eq_nil_or_concat post with rfl | ⟨init, last, rfl⟩
  · rw [← (List.append_inj' hsplit rfl).1]
    exact same
  · rw [List.concat_eq_append, ← List.cons_append, ← List.append_assoc] at hsplit
    have hpre := (List.append_inj' hsplit rfl).1
    exact absurd (by simp [hpre]) (first w)

/-- With the address set first, `sixmod` reads back its byte. -/
theorem report03ef_isolated_sixmod :
    (Reports03ef programmedEeprom
        [.request sixmodSet, .request sixpairSet, .request (get03ef 64)] ↔
      Undisturbed [.request sixmodSet, .request sixpairSet, .request (get03ef 64)]) ∧
    answers (emulator.state (.ok (powerUp programmedEeprom))
        [.request sixpairSet, .request sixmodSet]) (get03ef 64) =
      answers (emulator.state (.ok (powerUp programmedEeprom))
        [.request sixmodSet]) (get03ef 64) := by
  constructor
  · apply (report03ef_isolated_iff programmedEeprom).1
    simp [withinBuffer_sixmodSet, withinBuffer_sixpairSet, withinBuffer_get03ef]
  · have hfits : ∀ e ∈ [Event.request sixpairSet, .request sixmodSet] ++
        [.request (get03ef 64)], WithinBuffer e := by
      simp [withinBuffer_sixmodSet, withinBuffer_sixpairSet, withinBuffer_get03ef]
    have hfits' : ∀ e ∈ [Event.request sixmodSet] ++ [.request (get03ef 64)],
        WithinBuffer e := by
      simp [withinBuffer_sixmodSet, withinBuffer_get03ef]
    have hclean : Undisturbed ([.request sixpairSet, .request sixmodSet] ++
        [.request (get03ef 64)]) :=
      undisturbed_concat (by
        simp [get03ef_ne isSetReport_sixmodSet, get03ef_ne isSetReport_sixpairSet]) (by decide)
    have hclean' : Undisturbed ([.request sixmodSet] ++ [.request (get03ef 64)]) :=
      undisturbed_concat (by simp [get03ef_ne isSetReport_sixmodSet]) (by decide)
    exact (report03ef_isolated_iff programmedEeprom).2 _ _ hfits hfits' hclean hclean'
      _ [] _ [] 64 rfl rfl (by decide)

end DiyPs3Controller.SixpairEmu
