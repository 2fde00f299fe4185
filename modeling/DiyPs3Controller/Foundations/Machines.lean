import Mathlib.Data.List.Basic

/-!
# Deterministic machines with outputs

A machine reads one input at a time, moves to a next state and lists the
outputs it makes on the way. Runs are input lists. A guard on the steps of a
run is a predicate on the state before each step and its input, so that a
conditional invariant needs one step lemma and no second induction.
-/

namespace DiyPs3Controller

/-- One input gives the next state and the outputs made on the way, in order. -/
structure Machine (σ ι ω : Type*) where
  step : σ → ι → σ × List ω

namespace Machine

variable {σ τ ι ω ψ : Type*} (M : Machine σ ι ω)

/-- The state reached by a whole input list. -/
def state (s : σ) : List ι → σ
  | [] => s
  | i :: rest => state (M.step s i).1 rest

/-- The outputs of a whole input list, in order. -/
def outputs (s : σ) : List ι → List ω
  | [] => []
  | i :: rest => (M.step s i).2 ++ outputs (M.step s i).1 rest

@[simp] theorem state_nil (s : σ) : M.state s [] = s := rfl

@[simp] theorem state_cons (s : σ) (i : ι) (rest : List ι) :
    M.state s (i :: rest) = M.state (M.step s i).1 rest := rfl

@[simp] theorem outputs_nil (s : σ) : M.outputs s [] = [] := rfl

@[simp] theorem outputs_cons (s : σ) (i : ι) (rest : List ι) :
    M.outputs s (i :: rest) = (M.step s i).2 ++ M.outputs (M.step s i).1 rest := rfl

theorem state_append (s : σ) (xs ys : List ι) :
    M.state s (xs ++ ys) = M.state (M.state s xs) ys := by
  induction xs generalizing s with
  | nil => rfl
  | cons i rest ih => exact ih (M.step s i).1

theorem outputs_append (s : σ) (xs ys : List ι) :
    M.outputs s (xs ++ ys) = M.outputs s xs ++ M.outputs (M.state s xs) ys := by
  induction xs generalizing s with
  | nil => rfl
  | cons i rest ih => simp [ih, List.append_assoc]

/-- The machine over inputs that are read as its own. -/
def comap {κ : Type*} (f : κ → ι) : Machine σ κ ω where
  step s k := M.step s (f k)

theorem comap_run {κ : Type*} (f : κ → ι) (s : σ) (inputs : List κ) :
    (M.comap f).state s inputs = M.state s (inputs.map f) ∧
      (M.comap f).outputs s inputs = M.outputs s (inputs.map f) := by
  induction inputs generalizing s with
  | nil => exact ⟨rfl, rfl⟩
  | cons k rest ih =>
      obtain ⟨hstate, hout⟩ := ih (M.step s (f k)).1
      exact ⟨hstate, congrArg ((M.step s (f k)).2 ++ ·) hout⟩

/-- Every step of the run satisfies `P` at the state before it. -/
def Along (P : σ → ι → Prop) (s : σ) : List ι → Prop
  | [] => True
  | i :: rest => P s i ∧ Along P (M.step s i).1 rest

instance Along.decidable (P : σ → ι → Prop) [∀ s i, Decidable (P s i)] (s : σ)
    (inputs : List ι) : Decidable (M.Along P s inputs) :=
  match inputs with
  | [] => inferInstanceAs (Decidable True)
  | i :: rest =>
      haveI := Along.decidable P (M.step s i).1 rest
      inferInstanceAs (Decidable (P s i ∧ M.Along P (M.step s i).1 rest))

variable {M} {P : σ → ι → Prop} {I : σ → Prop}

theorem along_append (s : σ) (xs ys : List ι) :
    M.Along P s (xs ++ ys) ↔ M.Along P s xs ∧ M.Along P (M.state s xs) ys := by
  induction xs generalizing s with
  | nil => simp [Along]
  | cons i rest ih => simp [Along, ih, and_assoc]

/-- A guarded run, read as a statement about each of its splittings. -/
theorem along_iff_forall_split (s : σ) (inputs : List ι) :
    M.Along P s inputs ↔
      ∀ pre i post, inputs = pre ++ i :: post → P (M.state s pre) i := by
  constructor
  · rintro h pre i post rfl
    exact ((along_append s pre (i :: post)).mp h).2.1
  · intro h
    induction inputs generalizing s with
    | nil => trivial
    | cons i rest ih =>
        refine ⟨h [] i rest rfl, ih _ fun pre j post hp => ?_⟩
        exact h (i :: pre) j post (by rw [hp]; rfl)

/-- A predicate kept by every guarded step holds after a guarded run. -/
theorem state_of_along (step : ∀ s i, I s → P s i → I (M.step s i).1)
    {s : σ} {inputs : List ι} (hs : I s) (h : M.Along P s inputs) :
    I (M.state s inputs) := by
  induction inputs generalizing s with
  | nil => exact hs
  | cons i rest ih => exact ih (step s i hs h.1) h.2

/-- A predicate kept by every step holds after every run. -/
theorem state_of_step (step : ∀ s i, I s → I (M.step s i).1)
    {s : σ} (hs : I s) (inputs : List ι) : I (M.state s inputs) := by
  induction inputs generalizing s with
  | nil => exact hs
  | cons i rest ih => exact ih (step s i hs)

/-- Where a predicate is kept, a guard that implies another one does so along runs. -/
theorem along_of_along {Q : σ → ι → Prop} (step : ∀ s i, I s → P s i → I (M.step s i).1 ∧ Q s i)
    {s : σ} {inputs : List ι} (hs : I s) (h : M.Along P s inputs) : M.Along Q s inputs := by
  induction inputs generalizing s with
  | nil => trivial
  | cons i rest ih =>
      obtain ⟨hnext, hgood⟩ := step s i hs h.1
      exact ⟨hgood, ih hnext h.2⟩

/-- What every step with a good input keeps and shows, every run of good inputs
keeps and shows. -/
theorem run_of_step {N : ι → Prop} {Q : ω → Prop}
    (step : ∀ s i, I s → N i → I (M.step s i).1 ∧ ∀ o ∈ (M.step s i).2, Q o)
    {s : σ} (hs : I s) {inputs : List ι} (hn : ∀ i ∈ inputs, N i) :
    I (M.state s inputs) ∧ ∀ o ∈ M.outputs s inputs, Q o := by
  induction inputs generalizing s with
  | nil => exact ⟨hs, List.forall_mem_nil _⟩
  | cons i rest ih =>
      obtain ⟨hi, hrest⟩ := List.forall_mem_cons.mp hn
      obtain ⟨hnext, hnow⟩ := step s i hs hi
      obtain ⟨hstate, hlater⟩ := ih hnext hrest
      exact ⟨hstate, List.forall_mem_append.mpr ⟨hnow, hlater⟩⟩

/-- Guards that agree wherever an invariant holds guard the same runs. -/
theorem along_congr {Q : σ → ι → Prop} (step : ∀ s i, I s → I (M.step s i).1)
    (guard : ∀ s i, I s → (P s i ↔ Q s i)) {s : σ} (hs : I s) (inputs : List ι) :
    M.Along P s inputs ↔ M.Along Q s inputs := by
  induction inputs generalizing s with
  | nil => exact Iff.rfl
  | cons i rest ih => exact and_congr (guard s i hs) (ih (step s i hs))

/-- A guard that decides, where an invariant holds, whether a step's outputs are
good decides it for whole runs; `N` restricts the inputs. -/
theorem forall_outputs_iff_along {N : ι → Prop} {Q : ω → Prop}
    (step : ∀ s i, I s → N i → P s i → I (M.step s i).1)
    (out : ∀ s i, I s → N i → ((∀ o ∈ (M.step s i).2, Q o) ↔ P s i))
    {s : σ} (hs : I s) {inputs : List ι} (hn : ∀ i ∈ inputs, N i) :
    (∀ o ∈ M.outputs s inputs, Q o) ↔ M.Along P s inputs := by
  induction inputs generalizing s with
  | nil => simp [Along]
  | cons i rest ih =>
      obtain ⟨hi, hrest⟩ := List.forall_mem_cons.mp hn
      simp only [outputs_cons, List.forall_mem_append, Along, out s i hs hi]
      exact and_congr_right fun hp => ih (step s i hs hi hp) hrest

/-- A relation between the inputs read so far and the state, kept by every step
with a good input, holds between the whole input list and the last state. -/
theorem history_of_good_step {N : ι → Prop} {H : List ι → σ → Prop}
    (step : ∀ h s i, H h s → N i → H (h ++ [i]) (M.step s i).1)
    {h : List ι} {s : σ} (hs : H h s) {inputs : List ι} (hn : ∀ i ∈ inputs, N i) :
    H (h ++ inputs) (M.state s inputs) := by
  induction inputs generalizing h s with
  | nil => simpa using hs
  | cons i rest ih =>
      obtain ⟨hi, hrest⟩ := List.forall_mem_cons.mp hn
      simpa using ih (step h s i hs hi) hrest

/-- The same for a relation that every step keeps. -/
theorem history_of_step {H : List ι → σ → Prop}
    (step : ∀ h s i, H h s → H (h ++ [i]) (M.step s i).1)
    {h : List ι} {s : σ} (hs : H h s) (inputs : List ι) :
    H (h ++ inputs) (M.state s inputs) :=
  history_of_good_step (N := fun _ => True) (fun h s i hh _ => step h s i hh) hs
    fun _ _ => trivial

/-- What such a relation gives for the outputs of each step, and what more
inputs do not take back, it gives for every output of a run. -/
theorem output_of_history {H : List ι → σ → Prop} {Q : List ι → ω → Prop}
    (step : ∀ h s i, H h s → H (h ++ [i]) (M.step s i).1)
    (out : ∀ h s i, H h s → ∀ o ∈ (M.step s i).2, Q (h ++ [i]) o)
    (mono : ∀ h later o, Q h o → Q (h ++ later) o)
    {h : List ι} {s : σ} (hs : H h s) (inputs : List ι) :
    ∀ o ∈ M.outputs s inputs, Q (h ++ inputs) o := by
  induction inputs generalizing h s with
  | nil => simp
  | cons i rest ih =>
      intro o ho
      rw [List.append_cons]
      rcases List.mem_append.mp ho with hnow | hlater
      · exact mono _ _ _ (out h s i hs o hnow)
      · exact ih (step h s i hs) o hlater

/-- A relation between the outputs made so far and the state, kept by every step
with a good input, holds between all outputs and the last state. -/
theorem trace_of_good_step {N : ι → Prop} {T : List ω → σ → Prop}
    (step : ∀ shown s i, T shown s → N i → T (shown ++ (M.step s i).2) (M.step s i).1)
    {shown : List ω} {s : σ} (hs : T shown s) {inputs : List ι} (hn : ∀ i ∈ inputs, N i) :
    T (shown ++ M.outputs s inputs) (M.state s inputs) := by
  induction inputs generalizing shown s with
  | nil => simpa using hs
  | cons i rest ih =>
      obtain ⟨hi, hrest⟩ := List.forall_mem_cons.mp hn
      simpa using ih (step shown s i hs hi) hrest

/-- The same for a relation that every step keeps. -/
theorem trace_of_step {T : List ω → σ → Prop}
    (step : ∀ shown s i, T shown s → T (shown ++ (M.step s i).2) (M.step s i).1)
    {shown : List ω} {s : σ} (hs : T shown s) (inputs : List ι) :
    T (shown ++ M.outputs s inputs) (M.state s inputs) :=
  trace_of_good_step (N := fun _ => True) (fun shown s i ht _ => step shown s i ht) hs
    fun _ _ => trivial

/-- The same for a relation that every guarded step keeps. -/
theorem trace_of_along {T : List ω → σ → Prop}
    (step : ∀ shown s i, T shown s → P s i → T (shown ++ (M.step s i).2) (M.step s i).1)
    {shown : List ω} {s : σ} (hs : T shown s) {inputs : List ι} (h : M.Along P s inputs) :
    T (shown ++ M.outputs s inputs) (M.state s inputs) := by
  induction inputs generalizing shown s with
  | nil => simpa using hs
  | cons i rest ih => simpa using ih (step shown s i hs h.1) h.2

/-- Two machines related step by step, with the same visible outputs, stay
related and show the same visible outputs over whole runs. -/
theorem simulation {N : Machine τ ι ψ} {φ : Type*} {f : ω → Option φ} {g : ψ → Option φ}
    (R : σ → τ → Prop)
    (step : ∀ s t i, R s t → R (M.step s i).1 (N.step t i).1 ∧
      (M.step s i).2.filterMap f = (N.step t i).2.filterMap g)
    {s : σ} {t : τ} (h : R s t) (inputs : List ι) :
    R (M.state s inputs) (N.state t inputs) ∧
      (M.outputs s inputs).filterMap f = (N.outputs t inputs).filterMap g := by
  induction inputs generalizing s t with
  | nil => exact ⟨h, rfl⟩
  | cons i rest ih =>
      obtain ⟨hr, ho⟩ := step s t i h
      obtain ⟨hstate, hout⟩ := ih hr
      exact ⟨hstate, by simp only [outputs_cons, List.filterMap_append, ho, hout]⟩

/-- Two machines related step by step, whose steps show equally much, show the same
over a run when each of its steps shows the same. -/
theorem outputs_eq_iff_along {N : Machine τ ι ω} {R : σ → τ → Prop} {P : τ → ι → Prop}
    (step : ∀ s t i, R s t → R (M.step s i).1 (N.step t i).1 ∧
      (M.step s i).2.length = (N.step t i).2.length ∧ ((M.step s i).2 = (N.step t i).2 ↔ P t i))
    {s : σ} {t : τ} (h : R s t) (inputs : List ι) :
    M.outputs s inputs = N.outputs t inputs ↔ N.Along P t inputs := by
  induction inputs generalizing s t with
  | nil => exact iff_of_true rfl trivial
  | cons i rest ih =>
      obtain ⟨hnext, hlength, hnow⟩ := step s t i h
      rw [outputs_cons, outputs_cons]
      constructor
      · intro heq
        obtain ⟨hfirst, hrest⟩ := List.append_inj heq hlength
        exact ⟨hnow.mp hfirst, (ih hnext).mp hrest⟩
      · rintro ⟨hfirst, hrest⟩
        rw [hnow.mpr hfirst, (ih hnext).mpr hrest]

/-- A property that counts the repetitions of one input, up to a bound, counts
them over a whole block; each of them shows the same. -/
theorem replicate_run {C : Nat → σ → Prop} {i : ι} {bound : Nat} {φ : Type*} {f : ω → Option φ}
    {shown : List φ}
    (step : ∀ c s, c < bound → C c s → C (c + 1) (M.step s i).1 ∧
      (M.step s i).2.filterMap f = shown)
    (n : Nat) {c : Nat} {s : σ} (h : C c s) (hn : c + n ≤ bound) :
    C (c + n) (M.state s (List.replicate n i)) ∧
      (M.outputs s (List.replicate n i)).filterMap f = (List.replicate n shown).flatten := by
  induction n generalizing c s with
  | zero => exact ⟨h, rfl⟩
  | succ n ih =>
      obtain ⟨hnext, hshown⟩ := step c s (by omega) h
      obtain ⟨hstate, hrest⟩ := ih hnext (by omega)
      rw [Nat.add_right_comm, Nat.add_assoc] at hstate
      refine ⟨hstate, ?_⟩
      rw [List.replicate_succ, outputs_cons, List.filterMap_append, hshown, hrest,
        List.replicate_succ, List.flatten_cons]

section Turns
variable (M)

/-- The outputs of a run, input by input. -/
def turns (s : σ) : List ι → List (List ω)
  | [] => []
  | i :: rest => (M.step s i).2 :: turns (M.step s i).1 rest

@[simp] theorem turns_nil (s : σ) : M.turns s [] = [] := rfl

@[simp] theorem turns_cons (s : σ) (i : ι) (rest : List ι) :
    M.turns s (i :: rest) = (M.step s i).2 :: M.turns (M.step s i).1 rest := rfl

/-- The first inputs make the outputs of the first turns. -/
theorem outputs_take (s : σ) (inputs : List ι) (n : Nat) :
    M.outputs s (inputs.take n) = ((M.turns s inputs).take n).flatten := by
  induction inputs generalizing s n with
  | nil => simp
  | cons i rest ih =>
      cases n with
      | zero => rfl
      | succ n =>
          rw [List.take_succ_cons, outputs_cons, ih, turns_cons, List.take_succ_cons,
            List.flatten_cons]

end Turns

section Notes
variable {α φ : Type*} (M)

/-- The same machine, with what somebody notes at each step for its outputs. -/
def noting (note : σ → ι → List α) : Machine σ ι α where
  step s i := ((M.step s i).1, note s i)

theorem noting_map {β : Type*} (note : σ → ι → List α) (f : α → β) (s : σ) (inputs : List ι) :
    ((M.noting note).outputs s inputs).map f =
      (M.noting fun s i => (note s i).map f).outputs s inputs := by
  induction inputs generalizing s with
  | nil => rfl
  | cons i rest ih =>
      rw [outputs_cons, outputs_cons, List.map_append, ih]
      rfl

variable {M} {N : Machine τ α φ} {inner : σ → τ} {f : ω → φ} {note : σ → ι → List α}

/-- A machine that does at each step what an inner machine does with what is
noted there does over a whole run what the inner machine does with all notes. -/
theorem fed_run
    (step : ∀ s i, inner (M.step s i).1 = N.state (inner s) (note s i) ∧
      (M.step s i).2.map f = N.outputs (inner s) (note s i))
    (s : σ) (inputs : List ι) :
    inner (M.state s inputs) = N.state (inner s) ((M.noting note).outputs s inputs) ∧
      (M.outputs s inputs).map f = N.outputs (inner s) ((M.noting note).outputs s inputs) := by
  induction inputs generalizing s with
  | nil => exact ⟨rfl, rfl⟩
  | cons i rest ih =>
      obtain ⟨hinner, hout⟩ := step s i
      obtain ⟨hstate, hrest⟩ := ih (M.step s i).1
      have hnotes : (M.noting note).outputs s (i :: rest) =
          note s i ++ (M.noting note).outputs (M.step s i).1 rest := rfl
      rw [hnotes, state_append, outputs_append, ← hinner, ← hstate, ← hrest, ← hout]
      exact ⟨rfl, List.map_append⟩

/-- The same where the inner machine is fed under an invariant. -/
theorem fed_run_of_step (keep : ∀ s i, I s → I (M.step s i).1)
    (step : ∀ s i, I s → inner (M.step s i).1 = N.state (inner s) (note s i) ∧
      (M.step s i).2.map f = N.outputs (inner s) (note s i))
    {s : σ} (hs : I s) (inputs : List ι) :
    inner (M.state s inputs) = N.state (inner s) ((M.noting note).outputs s inputs) ∧
      (M.outputs s inputs).map f = N.outputs (inner s) ((M.noting note).outputs s inputs) := by
  induction inputs generalizing s with
  | nil => exact ⟨rfl, rfl⟩
  | cons i rest ih =>
      obtain ⟨hinner, hout⟩ := step s i hs
      obtain ⟨hstate, hrest⟩ := ih (keep s i hs)
      have hnotes : (M.noting note).outputs s (i :: rest) =
          note s i ++ (M.noting note).outputs (M.step s i).1 rest := rfl
      rw [hnotes, state_append, outputs_append, ← hinner, ← hstate, ← hrest, ← hout]
      exact ⟨rfl, List.map_append⟩

end Notes

section Buffered
variable {α φ : Type*} (N : Machine τ α φ) (queue : σ → List α) (inner : σ → τ)

/-- Between two states, with some items arriving, a reader has read the front of
what was queued or arrived, and has shown what it makes of it. -/
def Reads (s s' : σ) (arrived : List α) (shown : List φ) : Prop :=
  ∃ taken, queue s ++ arrived = taken ++ queue s' ∧ inner s' = N.state (inner s) taken ∧
    shown = N.outputs (inner s) taken

variable {N} {queue} {inner}

theorem Reads.refl (s : σ) : N.Reads queue inner s s [] [] :=
  ⟨[], List.append_nil _, rfl, rfl⟩

theorem Reads.trans {s s' s'' : σ} {xs ys : List α} {shown shown' : List φ}
    (h : N.Reads queue inner s s' xs shown) (h' : N.Reads queue inner s' s'' ys shown') :
    N.Reads queue inner s s'' (xs ++ ys) (shown ++ shown') := by
  obtain ⟨now, hnow, hinner, hshown⟩ := h
  obtain ⟨later, hlater, hinner', hshown'⟩ := h'
  refine ⟨now ++ later, ?_, ?_, ?_⟩
  · rw [← List.append_assoc, hnow, List.append_assoc, hlater, List.append_assoc]
  · rw [hinner', hinner, state_append]
  · rw [hshown, hshown', hinner, outputs_append]

/-- A machine whose inputs fill a queue, and whose steps read from its front,
has after a run read the front of all that arrived. -/
theorem buffered_run {arrive : ι → Option α} {f : ω → Option φ}
    (step : ∀ s i, I s → P s i → I (M.step s i).1 ∧
      N.Reads queue inner s (M.step s i).1 (arrive i).toList ((M.step s i).2.filterMap f))
    {s : σ} (hs : I s) {inputs : List ι} (h : M.Along P s inputs) :
    I (M.state s inputs) ∧ N.Reads queue inner s (M.state s inputs)
      (inputs.filterMap arrive) ((M.outputs s inputs).filterMap f) := by
  induction inputs generalizing s with
  | nil => exact ⟨hs, Reads.refl s⟩
  | cons i rest ih =>
      obtain ⟨hnext, hnow⟩ := step s i hs h.1
      obtain ⟨hstate, hlater⟩ := ih hnext h.2
      have hsplit : (i :: rest).filterMap arrive =
          (arrive i).toList ++ rest.filterMap arrive := by
        cases hi : arrive i <;> simp [hi]
      rw [hsplit, outputs_cons, List.filterMap_append]
      exact ⟨hstate, hnow.trans hlater⟩

/-- The same where the state decides what arrives and what is shown. -/
theorem reads_run {arrive : σ → ι → List α} {shown : σ → ι → List φ}
    (step : ∀ s i, P s i → N.Reads queue inner s (M.step s i).1 (arrive s i) (shown s i))
    {s : σ} {inputs : List ι} (h : M.Along P s inputs) :
    N.Reads queue inner s (M.state s inputs) ((M.noting arrive).outputs s inputs)
      ((M.noting shown).outputs s inputs) := by
  induction inputs generalizing s with
  | nil => exact Reads.refl s
  | cons i rest ih => exact (step s i h.1).trans (ih h.2)

end Buffered

section Projection
variable {N : Machine τ ι ω} (π : σ → τ)
  (step : ∀ s i, π (M.step s i).1 = (N.step (π s) i).1 ∧ (M.step s i).2 = (N.step (π s) i).2)
include step

/-- A machine that another one contains runs as it does inside the other one. -/
theorem state_projection (s : σ) (inputs : List ι) :
    π (M.state s inputs) = N.state (π s) inputs := by
  induction inputs generalizing s with
  | nil => rfl
  | cons i rest ih => rw [state_cons, state_cons, ih, (step s i).1]

theorem outputs_projection (s : σ) (inputs : List ι) :
    M.outputs s inputs = N.outputs (π s) inputs := by
  induction inputs generalizing s with
  | nil => rfl
  | cons i rest ih => rw [outputs_cons, outputs_cons, ih, (step s i).1, (step s i).2]

theorem along_projection (P : τ → ι → Prop) (s : σ) (inputs : List ι) :
    M.Along (fun s i => P (π s) i) s inputs ↔ N.Along P (π s) inputs := by
  induction inputs generalizing s with
  | nil => exact Iff.rfl
  | cons i rest ih => simp only [Along, ih, (step s i).1]

end Projection

end Machine

end DiyPs3Controller
