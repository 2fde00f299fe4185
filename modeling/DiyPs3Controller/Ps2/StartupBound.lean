import DiyPs3Controller.Foundations.Budgets
import DiyPs3Controller.Ps2.MouseReset

/-!
# The end of the startup sequence

Each mismatch sends the filter back to the first row of its table, so that its
way out is measured by the retries that are left and, within one pass, by the
rows that are left. Retries are not given back before the table is left.
-/

namespace DiyPs3Controller.StartupBound

open MouseDriver StartupSequence MouseReset Budgets

/-- The event filter over a stream of scancodes, without calls from outside. -/
def scancodeMachine : Machine Mouse U8 MsCall := filterMachine.comap .scancode

/-- How often `ResetState` is among the calls that `EventFilter` makes for a scancode. -/
def resetsFor (m : Mouse) (scancode : U8) : Nat :=
  (scancodeMachine.step m scancode).2.count .resetState

/-- How often `ResetState` is among the calls that it makes for a stream of them. -/
def resetCalls (m : Mouse) (scancodes : List U8) : Nat :=
  (scancodeMachine.outputs m scancodes).count .resetState

/-- The retries that a filter inside the table has left. -/
def retriesLeft (m : Mouse) : Nat :=
  if m.filter.state < m.filter.size then 5 - m.filter.retry.toNat else 0

/-- The scancodes that a filter inside the table takes at most: its rows, and a
whole pass for every retry. -/
def scancodesLeft (m : Mouse) : Nat :=
  if m.filter.state < m.filter.size then
    (5 - m.filter.retry.toNat) * rows + (53 - m.filter.state.toNat) / 2
  else 0

theorem retriesLeft_le (m : Mouse) : retriesLeft m ≤ 5 := by
  unfold retriesLeft
  split <;> omega

/-- Six passes through the table at most. -/
theorem scancodesLeft_le (m : Mouse) : scancodesLeft m ≤ 156 := by
  unfold scancodesLeft
  simp only [rows]
  split <;> omega

/-- An answer is sent without `ResetState`. -/
theorem answer_resets (m : Mouse) (byte : U8) : (answer m byte).2.count .resetState = 0 := by
  rw [answer_calls]
  apply List.count_eq_zero_of_not_mem
  simp

/-- Past the table a scancode resets nothing and leaves the filter there. -/
theorem step_past {m : Mouse} (hp : Past m) (b : U8) :
    resetsFor m b = 0 ∧ Past (scancodeMachine.step m b).1 ∧
      (scancodeMachine.step m b).2.filterMap sent? = [] := by
  obtain ⟨hstate, hsize, -, -, hsent⟩ := eventFilter_past hp b
  have hdef : scancodeMachine.step m b = eventFilter m b := rfl
  refine ⟨?_, ?_, hsent⟩
  · have hstep := eventFilter_step m b
    rw [resetsFor, hdef]
    generalize eventFilter m b = next at hstep ⊢
    cases hstep with
    | accepted hm => exact absurd hm.1 hp
    | retried hs | gaveUp hs => exact absurd hs hp
    | skipped | stored => rfl
    | dispatched =>
        apply List.count_eq_zero_of_not_mem
        simp
  · rw [hdef, Past, hstate, hsize]
    exact hp

/-- Past the table the filter sends nothing. -/
theorem past_run {m : Mouse} (hp : Past m) (scancodes : List U8) :
    Past (scancodeMachine.state m scancodes) ∧
      (scancodeMachine.outputs m scancodes).filterMap sent? = [] := by
  have hstep : ∀ m b, Past m → True → Past (scancodeMachine.step m b).1 ∧
      ∀ call ∈ (scancodeMachine.step m b).2, sent? call = none := by
    intro m b hp _
    obtain ⟨-, hnext, hsent⟩ := step_past hp b
    exact ⟨hnext, List.filterMap_eq_nil_iff.mp hsent⟩
  obtain ⟨hstate, hsilent⟩ :=
    Machine.run_of_step hstep hp fun b (_ : b ∈ scancodes) => trivial
  exact ⟨hstate, List.filterMap_eq_nil_iff.mpr hsilent⟩

theorem inside_iff {m : Mouse} (h : Sane m) :
    m.filter.state < m.filter.size ↔ m.filter.state.toNat < 52 := by
  rw [h.size]
  exact Iff.rfl

/-- The error state lies behind the table. -/
theorem outside_of_error {m : Mouse} (h : Sane m) (herror : m.filter.state = 0xFF#8) :
    ¬m.filter.state < m.filter.size := by
  rw [inside_iff h, herror]
  decide

section Step
variable {m : Mouse} (h : Sane m) (b : U8)
include h

/-- What a scancode does to the retries and the rows: a match passes a row, a
mismatch costs a retry and starts over, or the table is left. -/
theorem step_inside (hin : m.filter.state.toNat < 52) :
    let next := (scancodeMachine.step m b).1
    (resetsFor m b = 0 ∧ next.filter.state.toNat = m.filter.state.toNat + 2 ∧
        next.filter.retry = m.filter.retry) ∨
      (resetsFor m b = 1 ∧ next.filter.state.toNat = 0 ∧ m.filter.retry.toNat < 5 ∧
        next.filter.retry.toNat = m.filter.retry.toNat + 1) ∨
      (resetsFor m b = 0 ∧ next.filter.state = 0xFF#8) := by
  have hstate : m.filter.state < m.filter.size := (inside_iff h).mpr hin
  have hstep := eventFilter_step m b
  have hdef : scancodeMachine.step m b = eventFilter m b := rfl
  rw [resetsFor, hdef]
  generalize eventFilter m b = next at hstep ⊢
  cases hstep with
  | accepted hm =>
      have hsum : (m.filter.state + 2#8).toNat = m.filter.state.toNat + 2 := by
        bv_omega
      exact Or.inl ⟨answer_resets m _, hsum, rfl⟩
  | retried hs hm hr =>
      have hsum : (m.filter.retry + 1#8).toNat = m.filter.retry.toNat + 1 := by
        bv_omega
      exact Or.inr (Or.inl ⟨rfl, rfl, hr, hsum⟩)
  | gaveUp hs hm hr => exact Or.inr (Or.inr ⟨rfl, rfl⟩)
  | skipped hp | stored hp | dispatched hp => exact absurd hstate hp

theorem step_sane : Sane (scancodeMachine.step m b).1 := eventFilter_sane h b

/-- A call of `ResetState` is paid for with a retry. -/
theorem retries_pay :
    resetsFor m b + retriesLeft (scancodeMachine.step m b).1 ≤ retriesLeft m := by
  have hle : m.filter.retry.toNat ≤ 5 := h.retry_le
  have hnext := inside_iff (step_sane h b)
  by_cases hin : m.filter.state < m.filter.size
  · rcases step_inside h b ((inside_iff h).mp hin) with
      ⟨hnone, hstate, hretry⟩ | ⟨hone, hstate, hretries, hretry⟩ | ⟨hnone, hstate⟩
    · rw [hnone, retriesLeft, retriesLeft, if_pos hin, hretry]
      split <;> omega
    · rw [hone, retriesLeft, retriesLeft, if_pos hin, if_pos (hnext.mpr (by omega)), hretry]
      omega
    · rw [hnone, retriesLeft, if_neg (outside_of_error (step_sane h b) hstate)]
      omega
  · obtain ⟨hnone, hpast, -⟩ := step_past hin b
    rw [hnone, retriesLeft, if_neg hpast]
    omega

/-- Every scancode brings a filter inside the table nearer to its end. -/
theorem scancodesLeft_lt (hin : ¬Past m) :
    scancodesLeft (scancodeMachine.step m b).1 < scancodesLeft m := by
  have hin : m.filter.state < m.filter.size := not_not.mp hin
  have hstate : m.filter.state.toNat < 52 := (inside_iff h).mp hin
  have hnext := inside_iff (step_sane h b)
  have hrow : 0 < (53 - m.filter.state.toNat) / 2 := by omega
  rcases step_inside h b hstate with
    ⟨-, hmatch, hretry⟩ | ⟨-, hfirst, hretries, hretry⟩ | ⟨-, herror⟩
  · rw [scancodesLeft, scancodesLeft, if_pos hin, hmatch, hretry]
    split <;> omega
  · rw [scancodesLeft, scancodesLeft, if_pos hin, if_pos (hnext.mpr (by omega)), hfirst, hretry]
    simp only [rows]
    omega
  · have hsettled := outside_of_error (step_sane h b) herror
    rw [scancodesLeft, scancodesLeft, if_pos hin, if_neg hsettled]
    omega

theorem past_of_scancodesLeft (hzero : scancodesLeft m = 0) : Past m := by
  intro hin
  have hstate : m.filter.state.toNat < 52 := (inside_iff h).mp hin
  rw [scancodesLeft, if_pos hin] at hzero
  omega

end Step

/-- From every reachable state and for every stream of scancodes the filter
calls `ResetState` at most five times, has left the table after 156 scancodes at
most, and once it has left the table it stays outside and sends nothing. -/
theorem startup_ends {m : Mouse} (reachable : Reachable m) (scancodes : List U8) :
    let after := scancodeMachine.state m scancodes
    resetCalls m scancodes ≤ 5 ∧ (156 ≤ scancodes.length → Past after) ∧
      (Past after → ∀ later, Past (scancodeMachine.state after later) ∧
        (scancodeMachine.outputs after later).filterMap sent? = []) := by
  intro after
  have hsane : Sane m := reachable_sane reachable
  have keep : ∀ m b, Sane m → Sane (scancodeMachine.step m b).1 := fun m b h => step_sane h b
  have stay : ∀ m b, Sane m → Past m → Past (scancodeMachine.step m b).1 :=
    fun m b h hp => (step_past hp b).2.1
  refine ⟨?_, ?_, ?_⟩
  · calc resetCalls m scancodes
      _ = cost scancodeMachine resetsFor m scancodes :=
        (cost_count scancodeMachine MsCall.resetState m scancodes).symm
      _ ≤ retriesLeft m := cost_le keep (fun m b h => retries_pay h b) hsane scancodes
      _ ≤ 5 := retriesLeft_le m
  · intro hlength
    apply settled_of_rank_le keep stay (fun m b h => scancodesLeft_lt h b)
      (fun m h => past_of_scancodesLeft h) hsane scancodes
    exact Nat.le_trans (scancodesLeft_le m) hlength
  · intro hpast later
    exact past_run hpast later

/-- A mouse that answers nothing but acknowledgements. -/
theorem startup_ends_acknowledgements :
    resetCalls msInit (List.replicate 160 0xFA#8) ≤ 5 ∧
      Past (scancodeMachine.state msInit (List.replicate 160 0xFA#8)) := by
  obtain ⟨hcalls, hpast, -⟩ := startup_ends ⟨[], rfl⟩ (List.replicate 160 0xFA#8)
  exact ⟨hcalls, hpast (by simp)⟩

end DiyPs3Controller.StartupBound
