import Mathlib.Data.List.TakeWhile
import Mathlib.Order.Basic
import DiyPs3Controller.Foundations.Machines

/-!
# Frames of fixed length in a stream without delimiters

Some items may start a frame, and a frame is such an item with a fixed number
of items behind it, whatever these are. A framer that reads one item at a time
skips at a frame boundary what starts no frame; it finds the frames that the
parse of the whole stream finds. Behind a boundary in the wrong place it stays
where it is as long as what it takes for headers may start a frame.
-/

namespace DiyPs3Controller.Framing

variable {α : Type*} (starts : α → Prop) [DecidablePred starts] (behind : Nat)

/-- One item at a time; the state is the frame gathered so far. -/
def framer : Machine (List α) α (List α) where
  step part item :=
    if part = [] ∧ ¬ starts item then ([], [])
    else if part.length = behind then ([], [part ++ [item]])
    else (part ++ [item], [])

/-- The parse of a whole stream: at a boundary, skip an item that starts no
frame and otherwise take a frame. The second part is a frame still too short. -/
def greedy : List α → List (List α) × List α
  | [] => ([], [])
  | item :: rest =>
      if starts item then
        if behind ≤ rest.length then
          let later := greedy (rest.drop behind)
          ((item :: rest.take behind) :: later.1, later.2)
        else ([], item :: rest)
      else greedy rest
termination_by items => items.length
decreasing_by
  all_goals simp only [List.length_cons, List.length_drop]; omega

/-- An item that may start a frame and the right number of items behind it. -/
def IsFrame (frame : List α) : Prop :=
  ∃ header rest, frame = header :: rest ∧ starts header ∧ rest.length = behind

section Steps
variable {starts behind} {part : List α}

theorem step_skip {item : α} (h : ¬ starts item) :
    (framer starts behind).step [] item = ([], []) := by
  simp [framer, h]

theorem step_gather {item : α} (h : part ≠ [] ∨ starts item) (hlength : part.length ≠ behind) :
    (framer starts behind).step part item = (part ++ [item], []) := by
  have hboundary : ¬ (part = [] ∧ ¬ starts item) := by tauto
  simp only [framer, if_neg hboundary, if_neg hlength]

theorem step_finish {item : α} (h : part ≠ [] ∨ starts item) (hlength : part.length = behind) :
    (framer starts behind).step part item = ([], [part ++ [item]]) := by
  have hboundary : ¬ (part = [] ∧ ¬ starts item) := by tauto
  simp only [framer, if_neg hboundary, if_pos hlength]

/-- Items that do not fill the frame are gathered. -/
theorem gather_run (hpart : part ≠ []) (items : List α)
    (hlength : part.length + items.length ≤ behind) :
    (framer starts behind).state part items = part ++ items ∧
      (framer starts behind).outputs part items = [] := by
  induction items generalizing part with
  | nil => simp
  | cons item rest ih =>
      rw [List.length_cons] at hlength
      have hne : part.length ≠ behind := by omega
      have hlength' : (part ++ [item]).length + rest.length ≤ behind := by
        rw [List.length_append, List.length_singleton]
        omega
      obtain ⟨hstate, hout⟩ := ih (by simp : part ++ [item] ≠ []) hlength'
      rw [Machine.state_cons, Machine.outputs_cons, step_gather (Or.inl hpart) hne]
      exact ⟨by rw [hstate, ← List.append_cons], hout⟩

/-- Items that fill the frame give it and leave nothing. -/
theorem fill_run (hpart : part ≠ []) (items : List α) (hitems : items ≠ [])
    (hlength : part.length + items.length = behind + 1) :
    (framer starts behind).state part items = [] ∧
      (framer starts behind).outputs part items = [part ++ items] := by
  obtain ⟨before, last, rfl⟩ := (List.eq_nil_or_concat' items).resolve_left hitems
  rw [List.length_append, List.length_singleton] at hlength
  obtain ⟨hstate, hout⟩ := @gather_run α starts _ behind part hpart before (by omega)
  have hfull : (part ++ before).length = behind := by
    rw [List.length_append]
    omega
  have hne : part ++ before ≠ [] := by simp [hpart]
  rw [Machine.state_append, Machine.outputs_append, hstate, hout, Machine.state_cons,
    Machine.outputs_cons, step_finish (Or.inl hne) hfull]
  simp

/-- From a boundary, one frame is given as it is. -/
theorem frame_run {frame : List α} (h : IsFrame starts behind frame) :
    (framer starts behind).state [] frame = [] ∧
      (framer starts behind).outputs [] frame = [frame] := by
  obtain ⟨header, rest, rfl, hstarts, hlength⟩ := h
  rw [Machine.state_cons, Machine.outputs_cons]
  cases rest with
  | nil =>
      rw [step_finish (Or.inr hstarts) hlength]
      exact ⟨rfl, rfl⟩
  | cons item rest =>
      have hne : ([] : List α).length ≠ behind := by
        rw [← hlength]
        simp
      rw [step_gather (Or.inr hstarts) hne]
      exact fill_run (by simp) (item :: rest) (by simp) (by simp [← hlength]; omega)

/-- From a boundary, too few items for a frame are gathered from the first on that may start one. -/
theorem short_run (items : List α) (hlength : items.length ≤ behind) :
    (framer starts behind).state [] items = items.dropWhile (fun item => decide (¬ starts item)) ∧
      (framer starts behind).outputs [] items = [] := by
  induction items with
  | nil => exact ⟨rfl, rfl⟩
  | cons item rest ih =>
      rw [List.length_cons] at hlength
      rw [Machine.state_cons, Machine.outputs_cons]
      by_cases h : starts item
      · have hne : ([] : List α).length ≠ behind := by
          rw [List.length_nil]
          omega
        obtain ⟨hstate, hout⟩ := @gather_run α starts _ behind [item]
          (by simp) rest (by rw [List.length_singleton]; omega)
        rw [step_gather (Or.inr h) hne, List.dropWhile_cons_of_neg (by simpa using h)]
        exact ⟨hstate, hout⟩
      · obtain ⟨hstate, hout⟩ := ih (by omega)
        rw [step_skip h, List.dropWhile_cons_of_pos (by simpa using h)]
        exact ⟨hstate, hout⟩

/-- Reading item by item finds the frames of the whole stream. -/
theorem greedy_run (items : List α) :
    (framer starts behind).outputs [] items = (greedy starts behind items).1 ∧
      (framer starts behind).state [] items = (greedy starts behind items).2 := by
  fun_induction greedy starts behind items with
  | case1 => exact ⟨rfl, rfl⟩
  | case2 item rest hstarts hlength later ih =>
      have hframe : IsFrame starts behind (item :: rest.take behind) :=
        ⟨item, rest.take behind, rfl, hstarts, List.length_take_of_le hlength⟩
      have hsplit : item :: rest = (item :: rest.take behind) ++ rest.drop behind := by
        rw [List.cons_append, List.take_append_drop]
      obtain ⟨hstate, hout⟩ := frame_run hframe
      rw [hsplit, Machine.outputs_append, Machine.state_append, hstate, hout, ih.1, ih.2]
      exact ⟨rfl, rfl⟩
  | case3 item rest hstarts hlength =>
      have hshort : (item :: rest).length ≤ behind := by
        rw [List.length_cons]
        omega
      obtain ⟨hstate, hout⟩ := @short_run α starts _ behind (item :: rest) hshort
      rw [List.dropWhile_cons_of_neg (by simpa using hstarts)] at hstate
      exact ⟨hout, hstate⟩
  | case4 item rest hstarts ih =>
      rw [Machine.outputs_cons, Machine.state_cons, step_skip hstarts]
      exact ih

/-- Every frame found starts with an item that may start one and has the right length. -/
theorem greedy_frames (items : List α) :
    ∀ frame ∈ (greedy starts behind items).1, IsFrame starts behind frame := by
  fun_induction greedy starts behind items with
  | case1 => simp
  | case2 item rest hstarts hlength later ih =>
      refine List.forall_mem_cons.mpr ⟨?_, ih⟩
      exact ⟨item, rest.take behind, rfl, hstarts, List.length_take_of_le hlength⟩
  | case3 item rest hstarts hlength => simp
  | case4 item rest hstarts ih => exact ih

/-- One item of a stream of frames, with the part of a frame before it: the frame
stays pending or is given, and the rest of the stream is made of the others. -/
theorem step_flatten {frames : List (List α)}
    (h : ∀ frame ∈ frames, IsFrame starts behind frame) (hlength : part.length ≤ behind)
    {item : α} {rest : List α} (hstream : part ++ item :: rest = frames.flatten) :
    ∃ later, frames = ((framer starts behind).step part item).2 ++ later ∧
      ((framer starts behind).step part item).1 ++ rest = later.flatten := by
  cases frames with
  | nil => simp at hstream
  | cons frame others =>
      obtain ⟨hframe, -⟩ := List.forall_mem_cons.mp h
      have hlen : frame.length = behind + 1 := by
        obtain ⟨header, tail, rfl, -, htail⟩ := hframe
        rw [List.length_cons, htail]
      have hsplit : (part ++ [item]) ++ rest = frame ++ others.flatten := by
        rw [← List.flatten_cons, ← hstream, List.append_assoc, List.singleton_append]
      have hpart : part ≠ [] ∨ starts item := by
        cases part with
        | cons first more => exact Or.inl (List.cons_ne_nil first more)
        | nil =>
            obtain ⟨header, tail, rfl, hstarts, -⟩ := hframe
            obtain ⟨rfl, -⟩ := List.cons.inj hsplit
            exact Or.inr hstarts
      by_cases hfull : part.length = behind
      · have hsame : (part ++ [item]).length = frame.length := by
          rw [hlen, List.length_append, hfull, List.length_singleton]
        obtain ⟨rfl, hrest⟩ := List.append_inj hsplit hsame
        rw [step_finish hpart hfull]
        exact ⟨others, rfl, hrest⟩
      · rw [step_gather hpart hfull]
        exact ⟨frame :: others, rfl, hsplit.trans List.flatten_cons.symm⟩

/-- From a boundary, frames one behind the other are given as they are. -/
theorem frames_run {frames : List (List α)} (h : ∀ frame ∈ frames, IsFrame starts behind frame) :
    (framer starts behind).outputs [] frames.flatten = frames ∧
      (framer starts behind).state [] frames.flatten = [] := by
  induction frames with
  | nil => exact ⟨rfl, rfl⟩
  | cons frame rest ih =>
      obtain ⟨hframe, hrest⟩ := List.forall_mem_cons.mp h
      obtain ⟨hstate, hout⟩ := frame_run hframe
      obtain ⟨houts, hstates⟩ := ih hrest
      rw [List.flatten_cons, Machine.outputs_append, Machine.state_append, hstate, hout, houts]
      exact ⟨rfl, hstates⟩

end Steps

/-- What a frame leaves pending that is read with a part of another one pending. -/
def carry (part frame : List α) : List α :=
  (frame.drop (behind + 1 - part.length)).dropWhile fun item => decide (¬ starts item)

section Misaligned
variable {starts behind} {part frame : List α}

omit [DecidablePred starts] in
theorem IsFrame.length_eq (h : IsFrame starts behind frame) : frame.length = behind + 1 := by
  obtain ⟨header, rest, rfl, -, hlength⟩ := h
  rw [List.length_cons, hlength]

/-- A frame fills up the pending part, and its last items become pending in their turn. -/
theorem carry_run (hpart : part.length ≤ behind) (hframe : IsFrame starts behind frame) :
    (framer starts behind).state part frame = carry starts behind part frame ∧
      (framer starts behind).outputs part frame =
        [part ++ frame.take (behind + 1 - part.length)] := by
  have hlength := hframe.length_eq
  by_cases hnil : part = []
  · subst hnil
    have hall : behind + 1 - ([] : List α).length = frame.length := by
      rw [hlength, List.length_nil, Nat.sub_zero]
    obtain ⟨hstate, hout⟩ := frame_run hframe
    rw [carry, hall, List.drop_length, List.take_length]
    exact ⟨hstate, hout⟩
  · have htake : (frame.take (behind + 1 - part.length)).length = behind + 1 - part.length :=
      List.length_take_of_le (by omega)
    have hdrop : (frame.drop (behind + 1 - part.length)).length ≤ behind := by
      rw [List.length_drop]
      omega
    have hne : frame.take (behind + 1 - part.length) ≠ [] := by
      apply List.ne_nil_of_length_pos
      omega
    obtain ⟨hfill, hfilled⟩ := @fill_run α starts _ behind part hnil
      _ hne (by rw [htake]; omega)
    obtain ⟨hstate, hout⟩ := @short_run α starts _ behind _ hdrop
    have hsplit := List.take_append_drop (behind + 1 - part.length) frame
    constructor
    · rw [← hsplit, Machine.state_append, hfill, hstate, hsplit]
      rfl
    · rw [← hsplit, Machine.outputs_append, hfill, hout, hfilled, hsplit, List.append_nil]

theorem carry_length_le (part frame : List α) (hlength : frame.length = behind + 1)
    (hpart : part.length ≤ behind) : (carry starts behind part frame).length ≤ part.length := by
  have hdrop : (frame.drop (behind + 1 - part.length)).length = part.length := by
    rw [List.length_drop]
    omega
  rw [← hdrop]
  exact List.length_dropWhile_le _ _

/-- Nothing is carried exactly when no item behind the boundary may start a frame. -/
theorem carry_eq_nil_iff : carry starts behind part frame = [] ↔
    ∀ item ∈ frame.drop (behind + 1 - part.length), ¬ starts item := by
  simp [carry, List.dropWhile_eq_nil_iff]

theorem carry_nil (hframe : IsFrame starts behind frame) : carry starts behind [] frame = [] := by
  rw [carry, List.length_nil, Nat.sub_zero, ← hframe.length_eq, List.drop_length]
  rfl

variable {frames : List (List α)}

/-- Each frame gives one frame, and what is pending does not grow. -/
theorem misaligned_run (h : ∀ frame ∈ frames, IsFrame starts behind frame)
    (hpart : part.length ≤ behind) :
    ((framer starts behind).outputs part frames.flatten).length = frames.length ∧
      ((framer starts behind).state part frames.flatten).length ≤ part.length := by
  induction frames generalizing part with
  | nil => exact ⟨rfl, le_refl _⟩
  | cons frame rest ih =>
      obtain ⟨hframe, hrest⟩ := List.forall_mem_cons.mp h
      obtain ⟨hstate, hout⟩ := carry_run hpart hframe
      have hle := @carry_length_le α starts _ behind part frame hframe.length_eq hpart
      obtain ⟨houts, hstates⟩ := ih hrest (hle.trans hpart)
      rw [List.flatten_cons, Machine.outputs_append, Machine.state_append, hstate, hout,
        List.length_append, houts, List.length_singleton, List.length_cons]
      exact ⟨Nat.add_comm _ _, hstates.trans hle⟩

/-- The framer is at the boundary of the frames when it was there from the
start, or when it took for no header what one of the frames had left to read. -/
theorem aligned_iff (h : ∀ frame ∈ frames, IsFrame starts behind frame)
    (hpart : part.length ≤ behind) :
    (framer starts behind).state part frames.flatten = [] ↔
      part = [] ∨ ∃ before frame after, frames = before ++ frame :: after ∧
        ∀ item ∈ frame.drop
            (behind + 1 - ((framer starts behind).state part before.flatten).length),
          ¬ starts item := by
  induction frames generalizing part with
  | nil => simp
  | cons frame rest ih =>
      obtain ⟨hframe, hrest⟩ := List.forall_mem_cons.mp h
      obtain ⟨hstate, -⟩ := carry_run hpart hframe
      have hle := @carry_length_le α starts _ behind part frame hframe.length_eq hpart
      rw [List.flatten_cons, Machine.state_append, hstate, ih hrest (hle.trans hpart)]
      constructor
      · rintro (hnil | ⟨before, later, after, rfl, hclear⟩)
        · exact Or.inr ⟨[], frame, rest, rfl, carry_eq_nil_iff.mp hnil⟩
        · refine Or.inr ⟨frame :: before, later, after, rfl, ?_⟩
          rwa [List.flatten_cons, Machine.state_append, hstate]
      · rintro (rfl | ⟨before, later, after, hsplit, hclear⟩)
        · exact Or.inl (carry_nil hframe)
        · cases before with
          | nil =>
              obtain ⟨rfl, rfl⟩ := List.cons.inj hsplit
              exact Or.inl (carry_eq_nil_iff.mpr hclear)
          | cons first before =>
              obtain ⟨rfl, rfl⟩ := List.cons.inj hsplit
              refine Or.inr ⟨before, later, after, rfl, ?_⟩
              rwa [List.flatten_cons, Machine.state_append, hstate] at hclear

end Misaligned

end DiyPs3Controller.Framing
