import DiyPs3Controller.Foundations.Machines

/-!
# Stopwatches

A stopwatch is started by a mark, stopped by a mark of another kind, and set
back by a release. Between two releases it takes one lap at most, from the first
start on to the first stop behind it.
-/

namespace DiyPs3Controller.Stopwatches

variable {τ : Type*}

/-- What a stopwatch sees; times come from outside. -/
inductive Mark (τ : Type*)
  | start (t : τ)
  | stop (t : τ)
  | release
  | other
  deriving DecidableEq, Repr

namespace Mark

def isRelease : Mark τ → Bool
  | release => true
  | _ => false

def stopOf : Mark τ → Option τ
  | stop t => some t
  | _ => none

end Mark

inductive Phase (τ : Type*)
  | waiting
  | timing (t : τ)
  | measured
  deriving DecidableEq, Repr

/-- A lap is the time of its start and that of its stop. -/
def Phase.next : Phase τ → Mark τ → Phase τ × List (τ × τ)
  | _, .release => (waiting, [])
  | waiting, .start t => (timing t, [])
  | timing t, .stop t' => (measured, [(t, t')])
  | phase, _ => (phase, [])

def stopwatch : Machine (Phase τ) (Mark τ) (τ × τ) where
  step := Phase.next

/-- The first stop behind a start. -/
def stopAfter (t : τ) (marks : List (Mark τ)) : Option (τ × τ) :=
  (marks.findSome? Mark.stopOf).map fun t' => (t, t')

/-- The lap of a session without releases. -/
def lap : List (Mark τ) → Option (τ × τ)
  | [] => none
  | .start t :: rest => stopAfter t rest
  | _ :: rest => lap rest

/-- What is left of the lap in a phase. -/
def Phase.lap : Phase τ → List (Mark τ) → Option (τ × τ)
  | waiting, marks => Stopwatches.lap marks
  | timing t, marks => stopAfter t marks
  | measured, _ => none

theorem Phase.lap_nil (phase : Phase τ) : phase.lap [] = none := by
  cases phase <;> rfl

/-- A mark of the session takes its part of the lap. -/
theorem Phase.lap_cons (phase : Phase τ) {mark : Mark τ} (h : mark.isRelease = false)
    (rest : List (Mark τ)) :
    (phase.lap (mark :: rest)).toList =
      (stopwatch.step phase mark).2 ++ ((stopwatch.step phase mark).1.lap rest).toList := by
  cases mark with
  | release => cases h
  | start t => cases phase <;> rfl
  | stop t => cases phase <;> rfl
  | other => cases phase <;> rfl

theorem laps_cons (head : List (Mark τ)) (tail : List (List (Mark τ))) :
    (head :: tail).filterMap lap = (lap head).toList ++ tail.filterMap lap := by
  cases h : lap head with
  | none => rw [List.filterMap_cons_none h, Option.toList_none, List.nil_append]
  | some found => rw [List.filterMap_cons_some h, Option.toList_some, List.singleton_append]

/-- The laps of a run are those of its sessions, the first of which has begun. -/
theorem stopwatch_run (phase : Phase τ) (marks : List (Mark τ)) :
    ∃ head tail, marks.splitOnP Mark.isRelease = head :: tail ∧
      stopwatch.outputs phase marks = (phase.lap head).toList ++ tail.filterMap lap := by
  induction marks generalizing phase with
  | nil => exact ⟨[], [], List.splitOnP_nil, by rw [phase.lap_nil]; rfl⟩
  | cons mark rest ih =>
      obtain ⟨head, tail, hsplit, hrest⟩ := ih (stopwatch.step phase mark).1
      rw [List.splitOnP_cons_eq_if_modifyHead, hsplit, Machine.outputs_cons, hrest]
      cases hrelease : mark.isRelease with
      | true =>
          have hstep : stopwatch.step phase mark = (.waiting, []) := by
            cases mark with
            | release => rfl
            | _ => cases hrelease
          refine ⟨[], head :: tail, rfl, ?_⟩
          rw [hstep, phase.lap_nil, laps_cons]
          rfl
      | false =>
          refine ⟨mark :: head, tail, rfl, ?_⟩
          rw [phase.lap_cons hrelease, List.append_assoc]

/-- The stopwatch takes the laps of the sessions between the releases. -/
theorem stopwatch_sessions (marks : List (Mark τ)) :
    stopwatch.outputs .waiting marks = (marks.splitOnP Mark.isRelease).filterMap lap := by
  obtain ⟨head, tail, hsplit, hrun⟩ := stopwatch_run .waiting marks
  rw [hsplit, hrun, laps_cons]
  rfl

end DiyPs3Controller.Stopwatches
