import Mathlib.Data.List.Forall2

/-!
# Fields of a fixed width

A text of fields of one width with a separator between neighbours. A reader that
cuts the fields out at their places finds them in every such text, and a text of
the right length is one exactly where the places in between hold separators.
-/

namespace DiyPs3Controller.FixedFields

variable {α : Type*}

/-- The fields with the separator between neighbours. -/
def joined (sep : α) (groups : List (List α)) : List α := [sep].intercalate groups

/-- The first `n` fields of width `w`, by their places. -/
def fields (w : Nat) : Nat → List α → List (List α)
  | 0, _ => []
  | n + 1, s => s.take w :: fields w n (s.drop (w + 1))

/-- What stands after each of the first `n` fields. -/
def separators (w : Nat) : Nat → List α → List α
  | 0, _ => []
  | n + 1, s => (s.drop w).take 1 ++ separators w n (s.drop (w + 1))

variable (sep : α) {w : Nat}

@[simp] theorem joined_nil : joined sep [] = [] := rfl

@[simp] theorem joined_singleton (group : List α) : joined sep [group] = group :=
  List.intercalate_singleton

theorem joined_cons_cons (group next : List α) (rest : List (List α)) :
    joined sep (group :: next :: rest) = group ++ sep :: joined sep (next :: rest) := by
  rw [joined, List.intercalate_cons_cons, List.append_assoc]
  rfl

theorem length_fields (n : Nat) (s : List α) : (fields w n s).length = n := by
  induction n generalizing s with
  | zero => rfl
  | succ n ih => rw [fields, List.length_cons, ih]

theorem length_joined {groups : List (List α)} (hne : groups ≠ [])
    (h : ∀ group ∈ groups, group.length = w) :
    (joined sep groups).length + 1 = groups.length * (w + 1) := by
  induction groups with
  | nil => exact absurd rfl hne
  | cons group rest ih =>
      obtain ⟨hgroup, hrest⟩ := List.forall_mem_cons.mp h
      cases rest with
      | nil => rw [joined_singleton, hgroup, List.length_singleton, Nat.one_mul]
      | cons next rest =>
          have hlater := ih (List.cons_ne_nil next rest) hrest
          rw [joined_cons_cons, List.length_append, List.length_cons, hgroup, List.length_cons,
            Nat.succ_mul, ← hlater]
          omega

/-- Reading by places gives back what was joined. -/
theorem fields_joined {groups : List (List α)} (h : ∀ group ∈ groups, group.length = w) :
    fields w groups.length (joined sep groups) = groups := by
  induction groups with
  | nil => rfl
  | cons group rest ih =>
      obtain ⟨hgroup, hrest⟩ := List.forall_mem_cons.mp h
      cases rest with
      | nil =>
          have htake : group.take w = group := List.take_of_length_le (Nat.le_of_eq hgroup)
          rw [joined_singleton, List.length_singleton, fields, fields, htake]
      | cons next rest =>
          have htake : (group ++ sep :: joined sep (next :: rest)).take w = group :=
            List.take_left' hgroup
          have hdrop : (group ++ sep :: joined sep (next :: rest)).drop (w + 1) =
              joined sep (next :: rest) := by
            rw [← List.drop_drop, List.drop_left' hgroup]
            rfl
          rw [joined_cons_cons, List.length_cons, fields, htake, hdrop, ih hrest]

/-- A text of the right length is joined from its fields exactly where separators
stand between them. -/
theorem joined_fields_iff (n : Nat) {s : List α} (hlen : s.length + 1 = (n + 1) * (w + 1)) :
    joined sep (fields w (n + 1) s) = s ↔ ∀ x ∈ separators w n s, x = sep := by
  induction n generalizing s with
  | zero =>
      have htake : s.take w = s := List.take_of_length_le (by omega)
      rw [fields, fields, htake, joined_singleton]
      exact ⟨fun _ => List.forall_mem_nil _, fun _ => rfl⟩
  | succ n ih =>
      rw [Nat.succ_mul] at hlen
      have hpos : w + 1 ≤ (n + 1) * (w + 1) := Nat.le_mul_of_pos_left _ n.succ_pos
      obtain ⟨x, hx⟩ : ∃ x, s.drop w = x :: s.drop (w + 1) :=
        ⟨s[w], List.drop_eq_getElem_cons (by omega)⟩
      have hsplit : s = s.take w ++ x :: s.drop (w + 1) := by
        rw [← hx, List.take_append_drop]
      have hrest := ih (s := s.drop (w + 1)) (by rw [List.length_drop]; omega)
      have hfields : fields w (n + 1 + 1) s = s.take w :: fields w (n + 1) (s.drop (w + 1)) := rfl
      have hseparators : separators w (n + 1) s = x :: separators w n (s.drop (w + 1)) := by
        rw [separators, hx]
        rfl
      have hjoined : joined sep (fields w (n + 1 + 1) s) =
          s.take w ++ sep :: joined sep (fields w (n + 1) (s.drop (w + 1))) := by
        rw [hfields]
        exact joined_cons_cons sep _ _ _
      rw [hseparators, List.forall_mem_cons, ← hrest, hjoined]
      constructor
      · intro h
        have htail := List.append_cancel_left (h.trans hsplit)
        exact ⟨(List.cons_eq_cons.mp htail).1.symm, (List.cons_eq_cons.mp htail).2⟩
      · rintro ⟨rfl, h⟩
        rw [h, ← hsplit]

/-- A reader of fields reads a list exactly where it reads each of them. -/
theorem mapM_eq_some_iff {β : Type*} (f : α → Option β) {xs : List α} {ys : List β} :
    xs.mapM f = some ys ↔ List.Forall₂ (fun x y => f x = some y) xs ys := by
  induction xs generalizing ys with
  | nil =>
      rw [List.mapM_nil, List.forall₂_nil_left_iff]
      exact Option.some_inj.trans eq_comm
  | cons x rest ih =>
      rw [List.mapM_cons, List.forall₂_cons_left_iff]
      simp only [Option.bind_eq_bind, Option.bind_eq_some_iff, Option.pure_def, Option.some_inj, ih]
      constructor
      · rintro ⟨y, hy, later, hlater, rfl⟩
        exact ⟨y, later, hy, hlater, rfl⟩
      · rintro ⟨y, later, hy, hlater, rfl⟩
        exact ⟨y, hy, later, hlater, rfl⟩

/-- What is read of every field makes a list. -/
theorem exists_forall₂ {β : Type*} {R : α → β → Prop} {xs : List α} (h : ∀ x ∈ xs, ∃ y, R x y) :
    ∃ ys, List.Forall₂ R xs ys := by
  induction xs with
  | nil => exact ⟨[], List.Forall₂.nil⟩
  | cons x rest ih =>
      obtain ⟨⟨y, hy⟩, hrest⟩ := List.forall_mem_cons.mp h
      obtain ⟨ys, hys⟩ := ih hrest
      exact ⟨y :: ys, List.Forall₂.cons hy hys⟩

/-- What is read of a list is read of each field. -/
theorem exists_of_forall₂ {β : Type*} {R : α → β → Prop} {xs : List α} {ys : List β}
    (h : List.Forall₂ R xs ys) : ∀ x ∈ xs, ∃ y, R x y := by
  induction h with
  | nil => exact List.forall_mem_nil _
  | cons hxy _ ih => exact List.forall_mem_cons.mpr ⟨⟨_, hxy⟩, ih⟩

theorem length_of_mem_fields (n : Nat) {s : List α} (hlen : n * (w + 1) ≤ s.length + 1) :
    ∀ field ∈ fields w n s, field.length = w := by
  induction n generalizing s with
  | zero => exact List.forall_mem_nil _
  | succ n ih =>
      rw [Nat.succ_mul] at hlen
      have hlater : n * (w + 1) ≤ (s.drop (w + 1)).length + 1 := by
        rw [List.length_drop]
        omega
      rw [fields, List.forall_mem_cons]
      exact ⟨List.length_take_of_le (by omega), ih hlater⟩

end DiyPs3Controller.FixedFields
