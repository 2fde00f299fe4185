import DiyPs3Controller.Foundations.Machines
import Mathlib.Data.List.TakeWhile

/-!
# Transfers in packets

A transfer is cut into packets of a fixed size; a packet shorter than that ends
it, an empty one if need be. A sender polls its peer before each packet: the
peer is busy, ready for the packet, or aborts the transfer.
-/

namespace DiyPs3Controller.Packets

variable {α : Type*}

/-- Packets of full size, and one shorter packet behind them. -/
structure Packeted (size : Nat) (data : List α) (full : List (List α)) (last : List α) : Prop where
  joined : (full ++ [last]).flatten = data
  full_length : ∀ packet ∈ full, packet.length = size
  last_length : last.length < size

/-- The packets of a transfer. -/
def packets (size : Nat) (data : List α) : List (List α) :=
  if 0 < size ∧ size ≤ data.length then data.take size :: packets size (data.drop size)
  else [data]
termination_by data.length
decreasing_by
  rw [List.length_drop]
  omega

variable {size : Nat} {data : List α}

theorem packets_of_le (hsize : 0 < size) (hle : size ≤ data.length) :
    packets size data = data.take size :: packets size (data.drop size) := by
  rw [packets, if_pos ⟨hsize, hle⟩]

theorem packets_of_lt (hlt : data.length < size) : packets size data = [data] := by
  rw [packets, if_neg fun h => Nat.not_le_of_lt hlt h.2]

/-- The packets of a transfer are full ones and a shorter one. -/
theorem packets_packeted (hsize : 0 < size) (data : List α) :
    ∃ full last, packets size data = full ++ [last] ∧ Packeted size data full last := by
  induction data using packets.induct size with
  | case1 data hle ih =>
      obtain ⟨full, last, hpackets, hjoined, hfull, hlast⟩ := ih
      refine ⟨data.take size :: full, last, ?_, ?_, ?_, hlast⟩
      · rw [packets_of_le hsize hle.2, hpackets, List.cons_append]
      · rw [List.cons_append, List.flatten_cons, hjoined, List.take_append_drop]
      · exact List.forall_mem_cons.mpr ⟨List.length_take_of_le hle.2, hfull⟩
  | case2 data hnot =>
      have hlt : data.length < size := Nat.lt_of_not_le fun hle => hnot ⟨hsize, hle⟩
      refine ⟨[], data, packets_of_lt hlt, ?_, ?_, hlt⟩
      · simp
      · exact List.forall_mem_nil _

/-- What the peer answers to a poll. -/
inductive Poll
  | busy
  | ready
  | abort
  deriving DecidableEq, Repr

/-- The sender, with the data that it still has to send. -/
def sender (size : Nat) : Machine (Option (List α)) Poll (List α) where
  step
    | none, _ => (none, [])
    | some data, .busy => (some data, [])
    | some _, .abort => (none, [])
    | some data, .ready =>
        (if size ≤ data.length then some (data.drop size) else none, [data.take size])

/-- How often the peer is ready before it aborts. -/
def readies (polls : List Poll) : Nat := (polls.takeWhile (· ≠ .abort)).countP (· = .ready)

@[simp] theorem readies_nil : readies [] = 0 := rfl

@[simp] theorem readies_busy (polls : List Poll) : readies (.busy :: polls) = readies polls := by
  simp [readies]

@[simp] theorem readies_ready (polls : List Poll) :
    readies (.ready :: polls) = readies polls + 1 := by
  simp [readies]

@[simp] theorem readies_abort (polls : List Poll) : readies (.abort :: polls) = 0 := rfl

/-- A sender that has stopped sends nothing. -/
theorem sender_stopped (size : Nat) (polls : List Poll) :
    (sender size).state (none : Option (List α)) polls = none ∧
      (sender size).outputs (none : Option (List α)) polls = [] := by
  induction polls with
  | nil => exact ⟨rfl, rfl⟩
  | cons poll polls ih => exact ih

/-- The sender sends one packet each time the peer is ready, until the peer
aborts; it stops with the last packet or with the abort. -/
theorem sender_run (hsize : 0 < size) (data : List α) (polls : List Poll) :
    (sender size).outputs (some data) polls = (packets size data).take (readies polls) ∧
      ((sender size).state (some data) polls = none ↔
        .abort ∈ polls ∨ (packets size data).length ≤ readies polls) := by
  induction polls generalizing data with
  | nil =>
      obtain ⟨full, last, hpackets, -⟩ := packets_packeted hsize data
      simp [hpackets]
  | cons poll polls ih =>
      cases poll with
      | busy => simpa [sender] using ih data
      | abort =>
          obtain ⟨hstate, hout⟩ := sender_stopped (α := α) size polls
          simpa [sender] using ⟨hout, hstate⟩
      | ready =>
          by_cases hle : size ≤ data.length
          · obtain ⟨hout, hstate⟩ := ih (data.drop size)
            rw [packets_of_le hsize hle]
            simp only [sender, Machine.outputs_cons, Machine.state_cons, if_pos hle]
              at hout hstate ⊢
            simp [hout, hstate]
          · obtain ⟨hstate, hout⟩ := sender_stopped (α := α) size polls
            have hlt : data.length < size := Nat.lt_of_not_le hle
            rw [packets_of_lt hlt]
            simp only [sender, Machine.outputs_cons, Machine.state_cons, if_neg hle]
              at hout hstate ⊢
            simp [hout, hstate, List.take_of_length_le (Nat.le_of_lt hlt)]

end DiyPs3Controller.Packets
