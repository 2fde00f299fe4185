import DiyPs3Controller.Ps2.MouseReset

/-!
# The representation invariant of the event filter

The filter steps through its table in twos, counts retries and gathers packets of
four bytes, each with an 8-bit counter, and the calls from outside reset only the
first of the three. In every reachable state the counters are in their ranges, so
the filter never reads or writes outside its arrays and no counter wraps around.
-/

namespace DiyPs3Controller.FilterInvariant

open Reception MouseDriver StartupSequence MouseReset

/-- The filter is at a row of the table or just behind it, or it has failed. -/
def AtRow (m : Mouse) : Prop :=
  m.filter.state.toNat % 2 = 0 ∧ m.filter.state.toNat ≤ 52 ∨ m.filter.state = 0xFF#8

/-- The ranges of the three counters. -/
structure Represented (m : Mouse) : Prop where
  state : AtRow m
  retry : m.filter.retry.toNat ≤ 5
  size : m.packet.size.toNat ≤ 3

/-- `counter += n` on an 8-bit counter, none when it wraps around. -/
def increased (counter n : U8) : Option U8 :=
  if counter.toNat + n.toNat < 256 then some (counter + n) else none

/-- `array[i] = b`, none outside the array. -/
def storedAt (array : List U8) (i : Nat) (b : U8) : Option (List U8) :=
  if i < array.length then some (array.set i b) else none

/-- `EventFilter` with every access to an array and every increment checked. -/
def eventFilterChecked (m : Mouse) (scancode : U8) : Option (Mouse × List MsCall) :=
  if m.filter.state < m.filter.size then do
    let target ← m.filter.table[m.filter.state.toNat]?
    if accepts target scancode then
      let byte ← m.filter.table[m.filter.state.toNat + 1]?
      let sent := answer m byte
      let state ← increased sent.1.filter.state 2#8
      return ({ sent.1 with filter := { sent.1.filter with state := state } }, sent.2)
    else
      let retry ← increased m.filter.retry 1#8
      let counted := { m with filter := { m.filter with retry := retry } }
      if m.filter.retry < 5#8 then return resetState counted
      else
        return ({ counted with filter := { counted.filter with state := 0xFF#8, retry := 0#8 } },
          [.kbErrorStateLed])
  else if m.packet.size = 0#8 ∧ scancode &&& 0x08#8 = 0#8 then
    return ({ m with packet := { m.packet with size := 0#8 } }, [])
  else do
    let bytes ← storedAt m.packet.bytes m.packet.size.toNat scancode
    let size ← increased m.packet.size 1#8
    let packet : Packet := { size, bytes }
    let gathered := { m with filter := { m.filter with retry := 0#8 }, packet := packet }
    if packet.size = 4#8 then
      let sent := eventDispatcher m.dispatch packet
      return ({ gathered with dispatch := sent.1, packet := { packet with size := 0#8 } },
        .eventDispatcher packet :: sent.2.map .joy)
    else return (gathered, [])

/-! ## What one step keeps -/

theorem atRow_reset (m : Mouse) : AtRow (resetState m).1 := Or.inl ⟨rfl, Nat.zero_le _⟩

section Step
variable {m : Mouse} (h : Sane m) (hrow : AtRow m)
include h hrow

/-- A row in the table is read together with its answer. -/
theorem state_le_of_inside (hin : m.filter.state < m.filter.size) :
    m.filter.state.toNat % 2 = 0 ∧ m.filter.state.toNat ≤ 50 := by
  rw [h.size] at hin
  rcases hrow with ⟨heven, -⟩ | hfailed
  · exact ⟨heven, by bv_omega⟩
  · rw [hfailed] at hin
    exact absurd hin (by decide)

theorem eventFilter_atRow (b : U8) : AtRow (eventFilter m b).1 := by
  have hstep := eventFilter_step m b
  generalize eventFilter m b = next at hstep ⊢
  cases hstep with
  | accepted hm =>
      obtain ⟨heven, hle⟩ := state_le_of_inside h hrow hm.1
      have hnext : (m.filter.state + 2#8).toNat = m.filter.state.toNat + 2 := by bv_omega
      refine Or.inl ?_
      simp only [hnext]
      omega
  | retried hs hm hr => exact atRow_reset _
  | gaveUp hs hm hr => exact Or.inr rfl
  | skipped hp hk => exact hrow
  | stored hp hk hsize => exact hrow
  | dispatched hp hk hsize => exact hrow

omit hrow in
theorem table_read {i : Nat} (hi : i < 52) :
    m.filter.table[i]? = some (m.filter.table.getD i 0#8) := by
  have hlength : i < m.filter.table.length := by
    rw [h.table]
    exact hi
  rw [List.getD_eq_getElem?_getD, List.getElem?_eq_getElem hlength, Option.getD_some]

/-- On such a state every check of the filter passes. -/
theorem eventFilterChecked_eq (b : U8) : eventFilterChecked m b = some (eventFilter m b) := by
  by_cases hin : m.filter.state < m.filter.size
  · obtain ⟨-, hle⟩ := state_le_of_inside h hrow hin
    have htarget := table_read h (show m.filter.state.toNat < 52 by omega)
    have hbyte := table_read h (show m.filter.state.toNat + 1 < 52 by omega)
    have hstate : increased m.filter.state 2#8 = some (m.filter.state + 2#8) :=
      if_pos (show m.filter.state.toNat + 2 < 256 by omega)
    have hretry : increased m.filter.retry 1#8 = some (m.filter.retry + 1#8) := by
      have hfive := h.retry_le
      exact if_pos (by bv_omega)
    rw [eventFilterChecked, eventFilter, if_pos hin, if_pos hin, htarget]
    simp only [Option.bind_eq_bind, Option.bind_some, hbyte, answer_filter, hstate, hretry]
    split
    · rfl
    · split <;> rfl
  · rw [eventFilterChecked, eventFilter, if_neg hin, if_neg hin]
    have hpacket := h.packet_lt
    have hsize : increased m.packet.size 1#8 = some (m.packet.size + 1#8) :=
      if_pos (by bv_omega)
    have hbytes : storedAt m.packet.bytes m.packet.size.toNat b =
        some (m.packet.bytes.set m.packet.size.toNat b) := by
      apply if_pos
      rw [h.length]
      bv_omega
    simp only [Option.bind_eq_bind, Option.bind_some, hbytes, hsize]
    split
    · rfl
    · split <;> rfl

end Step

/-! ## Whole runs -/

/-- What the inputs of the filter keep. -/
theorem filterMachine_step {m : Mouse} (h : Sane m ∧ AtRow m) (input : FilterInput) :
    Sane (filterMachine.step m input).1 ∧ AtRow (filterMachine.step m input).1 := by
  cases input with
  | scancode b => exact ⟨eventFilter_sane h.1 b, eventFilter_atRow h.1 h.2 b⟩
  | mouseReset => exact ⟨act_sane h.1 .mouseReset, atRow_reset _⟩
  | setResolution resolution => exact ⟨act_sane h.1 (.setResolution resolution), atRow_reset _⟩
  | setFrequency frequency => exact ⟨act_sane h.1 (.setFrequency frequency), atRow_reset _⟩
  | setScaling scale => exact ⟨act_sane h.1 (.setScaling scale), atRow_reset _⟩

theorem filterMachine_run (inputs : List FilterInput) :
    Sane (filterMachine.state msInit inputs) ∧ AtRow (filterMachine.state msInit inputs) := by
  apply Machine.state_of_step (I := fun m => Sane m ∧ AtRow m)
  · exact fun m input h => filterMachine_step h input
  · exact ⟨⟨rfl, rfl, by decide, by decide, rfl, rfl⟩, Or.inl ⟨rfl, by decide⟩⟩

/-- In every state that the filter and its resets reach the counters are in their
ranges, and no check of the filter fails on any scancode. -/
theorem filter_represented (inputs : List FilterInput) :
    Represented (filterMachine.state msInit inputs) ∧
      ∀ scancode, eventFilterChecked (filterMachine.state msInit inputs) scancode =
        some (eventFilter (filterMachine.state msInit inputs) scancode) := by
  obtain ⟨hsane, hrow⟩ := filterMachine_run inputs
  have hretry := hsane.retry_le
  have hpacket := hsane.packet_lt
  refine ⟨⟨hrow, by bv_omega, by bv_omega⟩, ?_⟩
  intro scancode
  exact eventFilterChecked_eq hsane hrow scancode

end DiyPs3Controller.FilterInvariant
