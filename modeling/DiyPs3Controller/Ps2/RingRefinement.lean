import DiyPs3Controller.Foundations.BoundedQueues
import DiyPs3Controller.Ps2.RingBuffer

/-!
# The ring buffer as a bounded queue

For every capacity the ring buffer answers every sequence of calls as a queue of
that capacity does, and its indices stay inside the array.
-/

namespace DiyPs3Controller.RingRefinement

open CircularWindows RingBuffer RingBuff BoundedQueues

/-- The functions of `RingBuffer.c` on an initialised buffer. -/
def ringMachine : Machine RingBuff (Operation U8) (Result U8) where
  step ring
    | .add data =>
        let added := ringAddElement ring data
        (added.1, [.item added.2])
    | .get =>
        let taken := ringGetElement ring
        (taken.1, [.item taken.2])
    | .has => (ring, [.flag (ringHasElement ring)])

/-- The cell of `data` that a call writes or reads. -/
def accessed (ring : RingBuff) : Operation U8 → Option Nat
  | .add _ => if ring.elements < ring.size then some ring.inIndex.toNat else none
  | .get => if 0#8 < ring.elements then some ring.outIndex.toNat else none
  | .has => none

/-- A ring buffer holds what a queue of its capacity holds. -/
structure Holds {capacity : Nat} (ring : RingBuff) (q : BoundedQueue U8 capacity) : Prop where
  valid : ring.Valid
  size : ring.size.toNat = capacity
  contents : ring.contents = q.items

/-- What the indices of a buffer with cells satisfy. -/
structure InBounds (ring : RingBuff) (size : U8) : Prop where
  in_lt : ring.inIndex < size
  out_lt : ring.outIndex < size
  elements_le : ring.elements ≤ size
  in_eq : ring.inIndex.toNat = (ring.outIndex.toNat + ring.elements.toNat) % size.toNat

section Step
variable {capacity : Nat} {ring : RingBuff} {q : BoundedQueue U8 capacity} (h : Holds ring q)
include h

theorem Holds.hasRoom_iff : ring.HasRoom ↔ q.items.length < capacity := by
  rw [← h.contents, contents_length, ← h.size]
  exact Iff.rfl

theorem Holds.add (data : U8) : Holds (ringAddElement ring data).1 (q.add data) := by
  refine ⟨ringAddElement_valid_of_valid h.valid data, ?_, ?_⟩
  · rw [ringAddElement_size, h.size]
  · by_cases hroom : ring.HasRoom
    · rw [contents_ringAddElement h.valid hroom,
        BoundedQueue.items_add_of_lt (h.hasRoom_iff.mp hroom), h.contents]
    · rw [ringAddElement_full hroom,
        BoundedQueue.add_of_full (fun hlt => hroom (h.hasRoom_iff.mpr hlt)), h.contents]

theorem Holds.get :
    Holds (ringGetElement ring).1 q.remove ∧
      (ringGetElement ring).2 = q.items.head?.getD 0#8 := by
  have hvalid := ringGetElement_valid_of_valid h.valid
  have hsize : (ringGetElement ring).1.size.toNat = capacity := by
    rw [ringGetElement_size, h.size]
  by_cases hempty : ring.contents = []
  · have hitems : q.items = [] := h.contents.symm.trans hempty
    refine ⟨⟨hvalid, hsize, ?_⟩, ?_⟩
    · rw [ringGetElement_empty hempty, hempty, BoundedQueue.items_remove, hitems]
      rfl
    · rw [ringGetElement_empty hempty, hitems]
      rfl
  · have hitems : q.items = (ringGetElement ring).2 :: (ringGetElement ring).1.contents :=
      h.contents.symm.trans (contents_eq_ringGetElement h.valid hempty)
    refine ⟨⟨hvalid, hsize, ?_⟩, ?_⟩
    · rw [BoundedQueue.items_remove, hitems]
      rfl
    · rw [hitems]
      rfl

/-- One call: the same result, and the same contents after it. -/
theorem Holds.step (op : Operation U8) :
    Holds (ringMachine.step ring op).1 ((queueMachine capacity 0#8).step q op).1 ∧
      (ringMachine.step ring op).2 = ((queueMachine capacity 0#8).step q op).2 := by
  cases op with
  | add data =>
      refine ⟨h.add data, ?_⟩
      have hdata : (ringAddElement ring data).2 = data := by
        unfold ringAddElement
        split <;> rfl
      simp [ringMachine, queueMachine, hdata]
  | get =>
      refine ⟨h.get.1, ?_⟩
      simp [ringMachine, queueMachine, h.get.2]
  | has =>
      refine ⟨h, ?_⟩
      simp [ringMachine, queueMachine, ringHasElement_eq, h.contents]

end Step

theorem holds_ringInitialize {data : List U8} {size : U8} (h : size.toNat ≤ data.length) :
    Holds (ringInitialize data size) (BoundedQueue.empty : BoundedQueue U8 size.toNat) where
  valid := ringInitialize_valid h
  size := rfl
  contents := contents_ringInitialize data size

/-- Every call answers as the queue does, and what the buffer holds stays what
the queue holds. -/
theorem ring_run {data : List U8} {size : U8} (h : size.toNat ≤ data.length)
    (ops : List (Operation U8)) :
    Holds (ringMachine.state (ringInitialize data size) ops)
        ((queueMachine size.toNat 0#8).state BoundedQueue.empty ops) ∧
      ringMachine.outputs (ringInitialize data size) ops =
        (queueMachine size.toNat 0#8).outputs BoundedQueue.empty ops := by
  have hrun := Machine.simulation (f := some) (g := some) (M := ringMachine)
    (N := queueMachine size.toNat 0#8) Holds
    (fun ring q op hq => ⟨(hq.step op).1, by rw [(hq.step op).2]⟩) (holds_ringInitialize h) ops
  simpa using hrun

/-- A buffer with cells has its indices and its count inside the array. -/
theorem inBounds_of_valid {ring : RingBuff} (hv : ring.Valid) (h : 0#8 < ring.size) :
    InBounds ring ring.size := by
  have hsize : 0 < ring.size.toNat := h
  refine ⟨?_, hv.out_lt hsize, hv.elements_le_size, hv.in_eq hsize⟩
  change ring.inIndex.toNat < ring.size.toNat
  rw [hv.in_eq hsize]
  exact slot_lt hsize

theorem accessed_lt {ring : RingBuff} (hv : ring.Valid) {op : Operation U8} {i : Nat}
    (h : accessed ring op = some i) : i < ring.size.toNat := by
  cases op with
  | add data =>
      obtain ⟨hroom, rfl⟩ : ring.elements < ring.size ∧ ring.inIndex.toNat = i := by
        simpa [accessed] using h
      exact in_lt_size hv hroom
  | get =>
      obtain ⟨hne, rfl⟩ : 0#8 < ring.elements ∧ ring.outIndex.toNat = i := by
        simpa [accessed] using h
      have hpos : 0 < ring.elements.toNat := hne
      exact hv.out_lt (Nat.lt_of_lt_of_le hpos hv.elements_le_size)
  | has => cases h

/-- For every capacity and every sequence of calls the ring buffer returns what
the queue returns; with cells, its indices and count stay inside the array, and
every call accesses a cell of the array. -/
theorem ring_refines_queue {data : List U8} {size : U8} (h : size.toNat ≤ data.length)
    (ops : List (Operation U8)) :
    ringMachine.outputs (ringInitialize data size) ops =
        (queueMachine size.toNat 0#8).outputs BoundedQueue.empty ops ∧
      (0#8 < size → InBounds (ringMachine.state (ringInitialize data size) ops) size) ∧
      ∀ op i, accessed (ringMachine.state (ringInitialize data size) ops) op = some i →
        i < data.length := by
  obtain ⟨hholds, hresults⟩ := ring_run h ops
  have hsize : (ringMachine.state (ringInitialize data size) ops).size = size :=
    BitVec.eq_of_toNat_eq hholds.size
  refine ⟨hresults, ?_, ?_⟩
  · intro hpos
    have hbounds := inBounds_of_valid hholds.valid (by rw [hsize]; exact hpos)
    rwa [hsize] at hbounds
  · intro op i haccess
    apply Nat.lt_of_lt_of_le (accessed_lt hholds.valid haccess)
    rw [hholds.size]
    exact h

/-- Two cells: the third byte is dropped, and the first one comes out. -/
theorem ring_refines_queue_twoCells :
    ringMachine.outputs (ringInitialize [0x11, 0x22] 2#8) [.add 1, .add 2, .add 3, .get, .has] =
        (queueMachine 2 0#8).outputs BoundedQueue.empty [.add 1, .add 2, .add 3, .get, .has] ∧
      (0#8 < 2#8 → InBounds (ringMachine.state (ringInitialize [0x11, 0x22] 2#8)
        [.add 1, .add 2, .add 3, .get, .has]) 2#8) ∧
      ∀ op i, accessed (ringMachine.state (ringInitialize [0x11, 0x22] 2#8)
        [.add 1, .add 2, .add 3, .get, .has]) op = some i → i < 2 :=
  @ring_refines_queue [0x11, 0x22] 2#8 (by decide) [.add 1, .add 2, .add 3, .get, .has]

end DiyPs3Controller.RingRefinement
