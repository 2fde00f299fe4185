import DiyPs3Controller.SixpairEmu.Customizer

/-!
# What a GetReport discloses

Every branch writes the first bytes of its reply buffer and lets the host choose
how many to send, except for the last one, which sends a structure whole. A reply
shows what the branch wrote, and nothing else, when the host asks for no more.
-/

namespace DiyPs3Controller.SixpairEmu

open Buffers

/-- How many bytes of its buffer each branch writes. -/
def writtenBytes : ReportKind → Nat
  | .identity => 10
  | .sixaxis => 50
  | _ => 64

theorem shownIdentity_length (d : Device) : (shownIdentity d).length = 10 := by
  rw [shownIdentity, List.length_append, List.length_append, length_wordBytes, length_wordBytes,
    Vector.length_toList]

/-- The cells of the identity branch that nothing is written to. -/
theorem identityBuffer_rest (d : Device) :
    (replyBuffer d .identity).drop 10 = List.replicate 54 none := by
  let empty : List (Option U8) := List.replicate 64 none
  let vendor := copyAt empty 0 ((wordBytes d.vendorID).map some)
  let product := copyAt vendor 2 ((wordBytes d.productID).map some)
  let address := d.volatileDeviceBdaddr.toList.map some
  have hword : ∀ w : U16, ((wordBytes w).map some).length = 2 := fun w => List.length_map some
  have haddress : address.length = 6 := (List.length_map some).trans Vector.length_toList
  have hempty : empty.length = 64 := List.length_replicate
  have hvendor : vendor.length = 64 := by
    rw [length_copyAt (by rw [hword, hempty]; decide), hempty]
  have hproduct : product.length = 64 := by
    rw [length_copyAt (by rw [hword, hvendor]; decide), hvendor]
  calc (replyBuffer d .identity).drop 10
      = (copyAt product 4 address).drop 10 := rfl
    _ = product.drop 10 := drop_copyAt (by omega) (by rw [hproduct]; decide)
    _ = vendor.drop 10 := drop_copyAt (by rw [hword]; decide) (by rw [hvendor]; decide)
    _ = empty.drop 10 := drop_copyAt (by rw [hword]; decide) (Nat.zero_le _)
    _ = List.replicate 54 none := List.drop_replicate

/-- Every branch leaves its buffer written from the start, as far as it writes. -/
theorem replyBuffer_written (d : Device) (kind : ReportKind) :
    ∃ (bytes : List U8) (rest : Nat), bytes.length = writtenBytes kind ∧
      replyBuffer d kind = bytes.map some ++ List.replicate rest none := by
  cases kind with
  | identity =>
      refine ⟨shownIdentity d, 54, shownIdentity_length d, ?_⟩
      rw [← (identityBuffer_spec d).2, ← identityBuffer_rest d, List.take_append_drop]
  | masterBdaddr =>
      by_cases hreply : d.reply = 0#8
      · exact ⟨buffer03f5First, 0, rfl, (if_pos hreply).trans (List.append_nil _).symm⟩
      · refine ⟨copyAt buffer03f5 2 d.volatileMasterBdaddr.toList, 0, length_copyAt ?_,
          (if_neg hreply).trans (List.append_nil _).symm⟩
        rw [Vector.length_toList]
        decide
  | deviceBdaddr =>
      refine ⟨copyAt buffer03f2 4 d.volatileDeviceBdaddr.toList, 0, length_copyAt ?_,
        (List.append_nil _).symm⟩
      rw [Vector.length_toList]
      decide
  | report03ef =>
      exact ⟨buffer03ef.set 7 d.lastSetData[6], 0, List.length_set, (List.append_nil _).symm⟩
  | sixaxis => exact ⟨createSixaxisReport d, 0, Vector.length_toList, (List.append_nil _).symm⟩
  | report03f7 => exact ⟨buffer03f7, 0, rfl, (List.append_nil _).symm⟩
  | report03ee => exact ⟨buffer03ee, 0, rfl, (List.append_nil _).symm⟩
  | report0302 => exact ⟨buffer0302, 0, rfl, (List.append_nil _).symm⟩
  | report0301 => exact ⟨buffer0301, 0, rfl, (List.append_nil _).symm⟩
  | report0201 => exact ⟨buffer0201, 0, rfl, (List.append_nil _).symm⟩
  | report0101 => exact ⟨buffer0101, 0, rfl, (List.append_nil _).symm⟩

/-- A transfer shows what its branch wrote, and no other byte, exactly when it
is no longer than that. -/
theorem writeControlStream_written_iff (d : Device) (kind : ReportKind) (length wLength : U16) :
    (∀ cell ∈ writeControlStream (replyBuffer d kind) length wLength, cell ≠ none) ↔
      min length.toNat wLength.toNat ≤ writtenBytes kind := by
  obtain ⟨bytes, rest, hbytes, hbuffer⟩ := replyBuffer_written d kind
  rw [writeControlStream, hbuffer, forall_firstCells_written_iff, hbytes]

theorem reportKind_identity_iff (wValue : U16) :
    reportKind wValue = .identity ↔ wValue = 0xDEAD#16 := by
  constructor
  · intro h
    by_contra hne
    have hother : reportKind wValue ≠ .identity := by
      rw [reportKind, if_neg hne]
      repeat' apply iteInduction (motive := (· ≠ ReportKind.identity)) <;> intro _
      all_goals exact ReportKind.noConfusion
    exact hother h
  · intro h
    exact if_pos h

/-- A GetReport sends nothing but bytes that its branch has written to its buffer
exactly when it asks for at most as many as there are: ten for the identity, a
whole buffer of 64 elsewhere; the report of the controls is sent whole. -/
theorem getReport_written_iff (d : Device) (wValue wLength : U16) :
    (∀ sent ∈ answers (.ok d) (.get wValue wLength), ∀ cell ∈ sent, cell ≠ none) ↔
      reportKind wValue = .sixaxis ∨ wLength.toNat ≤ if wValue = 0xDEAD#16 then 10 else 64 := by
  have hanswers := answers_getReport (ControlRequest.isGetReport_get wValue wLength) d
  rw [hanswers, List.forall_mem_singleton]
  change (∀ cell ∈ writeControlStream (replyBuffer d (reportKind wValue))
    (if reportKind wValue = .sixaxis then 50#16 else wLength) wLength, cell ≠ none) ↔ _
  rw [writeControlStream_written_iff]
  simp only [← reportKind_identity_iff]
  by_cases hsixaxis : reportKind wValue = .sixaxis
  · have hshort : min (50#16).toNat wLength.toNat ≤ writtenBytes .sixaxis := Nat.min_le_left 50 _
    rw [hsixaxis, if_pos rfl]
    exact iff_of_true hshort (Or.inl rfl)
  · rw [if_neg hsixaxis, Nat.min_self]
    cases hkind : reportKind wValue <;> simp_all [writtenBytes]

/-- The dump of all reports asks for 64 bytes everywhere, also of the identity. -/
theorem identityDump_unwritten :
    ¬∀ sent ∈ answers (.ok (powerUp programmedEeprom)) (.get 0xDEAD#16 64#16),
      ∀ cell ∈ sent, cell ≠ none := by
  rw [answers_getReport (ControlRequest.isGetReport_get _ _), List.forall_mem_singleton]
  change ¬∀ cell ∈ writeControlStream (replyBuffer _ (reportKind 0xDEAD#16)) 64#16 64#16,
    cell ≠ none
  rw [writeControlStream_written_iff]
  decide

end DiyPs3Controller.SixpairEmu
