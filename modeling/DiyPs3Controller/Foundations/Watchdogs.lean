import DiyPs3Controller.Foundations.Histories
import DiyPs3Controller.Foundations.Machines

/-!
# Watchdogs

A kick starts a countdown of `limit` ticks anew, and the first poll after the
countdown has run out fires. Inputs that are neither kick, tick nor poll have no
part in it. Which poll fires is read off the inputs after the last kick.
-/

namespace DiyPs3Controller.Watchdogs

/-- What an input means to a watchdog. -/
inductive Signal
  | kick
  | tick
  | poll
  deriving DecidableEq, Repr

/-- Never kicked, ticks since the last kick, waiting for a poll, or fired since
the last kick. -/
inductive Phase
  | idle
  | counting (elapsed : Nat)
  | due
  | spent
  deriving DecidableEq, Repr

/-- One signal. -/
def Phase.next (limit : Nat) : Phase → Signal → Phase
  | _, .kick => .counting 0
  | .counting elapsed, .tick => if elapsed + 1 < limit then .counting (elapsed + 1) else .due
  | .due, .poll => .spent
  | phase, _ => phase

variable {ι : Type*} (limit : Nat) (signal : ι → Option Signal)

/-- The watchdog over inputs that signal to it or not. -/
def watchdog : Machine Phase ι Empty where
  step phase i := (((signal i).map (phase.next limit)).getD phase, [])

/-- `after` are the inputs behind the last kick of the history. -/
structure Since (history before : List ι) (i : ι) (after : List ι) : Prop where
  split : history = before ++ i :: after
  kick : signal i = some .kick
  last : ∀ j ∈ after, signal j ≠ some .kick

/-- No poll among the inputs finds the watchdog due. -/
def Quiet (before after : List ι) : Prop :=
  ∀ pre j post, after = pre ++ j :: post → signal j = some .poll →
    (watchdog limit signal).state .idle (before ++ pre) ≠ .due

/-- The number of ticks among the inputs. -/
def ticks (inputs : List ι) : Nat := inputs.countP fun i => signal i = some .tick

variable {limit} {signal} {history before after : List ι} {i x : ι}

/-- One more input behind the last kick. -/
theorem Since.concat (h : Since signal history before i after) (hx : signal x ≠ some .kick) :
    Since signal (history ++ [x]) before i (after ++ [x]) where
  split := by rw [h.split, List.append_assoc, List.cons_append]
  kick := h.kick
  last := by
    intro j hj
    rcases List.mem_append.mp hj with hj | hj
    · exact h.last j hj
    · obtain rfl := List.mem_singleton.mp hj
      exact hx

/-- There is only one last kick. -/
theorem Since.unique {before' after' : List ι} {i' : ι} (h : Since signal history before i after)
    (h' : Since signal history before' i' after') :
    before' = before ∧ i' = i ∧ after' = after := by
  have hsplit : before' ++ i' :: after' = before ++ i :: after := h'.split.symm.trans h.split
  rcases List.append_eq_append_iff.mp hsplit with ⟨gap, hbefore, hafter⟩ | ⟨gap, hbefore, hafter⟩
  · cases gap with
    | nil => simp_all
    | cons j gap =>
        obtain ⟨-, rfl⟩ := List.cons.inj hafter
        exact absurd h.kick (h'.last i (by simp))
  · cases gap with
    | nil => simp_all
    | cons j gap =>
        obtain ⟨-, rfl⟩ := List.cons.inj hafter
        exact absurd h'.kick (h.last i' (by simp))

theorem quiet_nil : Quiet limit signal before [] := by
  intro pre j post hnil
  simp at hnil

theorem quiet_concat_iff :
    Quiet limit signal before (after ++ [x]) ↔
      Quiet limit signal before after ∧ (signal x = some .poll →
        (watchdog limit signal).state .idle (before ++ after) ≠ .due) :=
  Histories.forall_split_concat

theorem ticks_concat (inputs : List ι) (x : ι) :
    ticks signal (inputs ++ [x]) =
      ticks signal inputs + if signal x = some .tick then 1 else 0 := by
  rw [ticks, List.countP_append, ← ticks]
  simp [List.countP_cons]

/-- What a phase says of the ticks since the last kick, and of whether no poll
has fired since. -/
def Phase.Describes (limit ticks : Nat) (quiet : Prop) : Phase → Prop
  | .idle => False
  | .counting elapsed => ticks = elapsed ∧ elapsed < limit ∧ quiet
  | .due => limit ≤ ticks ∧ quiet
  | .spent => ¬quiet

/-- One input that is no kick. -/
theorem describes_next {phase : Phase} {n : Nat} {quiet : Prop}
    (h : phase.Describes limit n quiet) {s : Option Signal} (hs : s ≠ some .kick) :
    ((s.map (phase.next limit)).getD phase).Describes limit
      (n + if s = some .tick then 1 else 0) (quiet ∧ (s = some .poll → phase ≠ .due)) := by
  match s, hs with
  | none, _ => cases phase <;> simp_all [Phase.Describes]
  | some .poll, _ => cases phase <;> simp_all [Phase.Describes, Phase.next]
  | some .tick, _ =>
      cases phase with
      | idle => exact h.elim
      | counting elapsed =>
          obtain ⟨rfl, hlt, hquiet⟩ := h
          by_cases hnext : n + 1 < limit
          · simpa [Phase.next, Phase.Describes, hnext] using hquiet
          · simp only [Option.map_some, Option.getD_some, Phase.next, if_neg hnext,
              Phase.Describes]
            simpa using ⟨Nat.le_of_not_lt hnext, hquiet⟩
      | due =>
          simpa [Phase.next, Phase.Describes] using ⟨Nat.le_succ_of_le h.1, h.2⟩
      | spent => simpa [Phase.next, Phase.Describes] using h

/-- The phase of a history: idle without a kick, else as the inputs since the
last kick have it. -/
theorem watchdog_history (hlimit : 0 < limit) (history : List ι) :
    ((watchdog limit signal).state .idle history = .idle ∧
        ∀ j ∈ history, signal j ≠ some .kick) ∨
      ∃ before i after, Since signal history before i after ∧
        ((watchdog limit signal).state .idle history).Describes limit (ticks signal after)
          (Quiet limit signal (before ++ [i]) after) := by
  induction history using List.reverseRecOn with
  | nil => exact Or.inl ⟨rfl, List.forall_mem_nil _⟩
  | append_singleton history x ih =>
      have hnext : (watchdog limit signal).state .idle (history ++ [x]) =
          ((signal x).map (((watchdog limit signal).state .idle history).next limit)).getD
            ((watchdog limit signal).state .idle history) := by
        rw [Machine.state_append]
        rfl
      by_cases hkick : signal x = some .kick
      · right
        refine ⟨history, x, [], ⟨rfl, hkick, List.forall_mem_nil _⟩, ?_⟩
        rw [hnext, hkick]
        exact ⟨rfl, hlimit, quiet_nil⟩
      rcases ih with ⟨hidle, hnone⟩ | ⟨before, i, after, since, described⟩
      · left
        constructor
        · rw [hnext, hidle]
          match hs : signal x, hkick with
          | none, _ => rfl
          | some .tick, _ => rfl
          | some .poll, _ => rfl
        · intro j hj
          rcases List.mem_append.mp hj with hj | hj
          · exact hnone j hj
          · obtain rfl := List.mem_singleton.mp hj
            exact hkick
      · right
        refine ⟨before, i, after ++ [x], since.concat hkick, ?_⟩
        have hsplit : before ++ [i] ++ after = history := by
          rw [since.split, List.append_assoc, List.singleton_append]
        rw [hnext, ticks_concat, quiet_concat_iff, hsplit]
        exact describes_next described hkick

/-- A poll fires exactly when a kick has occurred, `limit` ticks have passed
since the last one, and no poll has fired since. -/
theorem due_iff (hlimit : 0 < limit) (history : List ι) :
    (watchdog limit signal).state .idle history = .due ↔
      ∃ before i after, Since signal history before i after ∧ limit ≤ ticks signal after ∧
        Quiet limit signal (before ++ [i]) after := by
  constructor
  · intro hdue
    rcases watchdog_history hlimit history with ⟨hidle, -⟩ | ⟨before, i, after, since, described⟩
    · rw [hidle] at hdue
      cases hdue
    · rw [hdue] at described
      exact ⟨before, i, after, since, described⟩
  · rintro ⟨before, i, after, since, hticks, hquiet⟩
    rcases watchdog_history hlimit history with
      ⟨-, hnone⟩ | ⟨before', i', after', since', described⟩
    · exact absurd since.kick (hnone i (by simp [since.split]))
    · obtain ⟨rfl, rfl, rfl⟩ := since.unique since'
      cases hphase : (watchdog limit signal).state .idle history with
      | idle =>
          rw [hphase] at described
          exact described.elim
      | counting elapsed =>
          rw [hphase] at described
          obtain ⟨rfl, hlt, -⟩ := described
          exact absurd hticks (Nat.not_le_of_lt hlt)
      | due => rfl
      | spent =>
          rw [hphase] at described
          exact absurd hquiet described

end DiyPs3Controller.Watchdogs
