import DiyPs3Controller.Foundations.CircularWindows
import DiyPs3Controller.Ps2.Avr

/-!
# The receive ring buffer

`RingBuffer.c`: a byte array with wrapping 8-bit indices and a separate
element count. Its contents are the circular window from the out index on.
Every function body runs inside `ATOMIC_BLOCK`, so each call is one step.
-/

namespace DiyPs3Controller.RingBuffer

open CircularWindows

/-- `ringbuff_t`, with the memory behind its data pointer. -/
structure RingBuff where
  data : List U8
  size : U8
  inIndex : U8
  outIndex : U8
  elements : U8
  deriving DecidableEq, Repr

/-- `RING_Initialize`; the loop clears the first `size` cells. -/
def ringInitialize (data : List U8) (size : U8) : RingBuff where
  data := (List.range size.toNat).foldl (fun cells i => cells.set i 0#8) data
  size := size
  inIndex := 0#8
  outIndex := 0#8
  elements := 0#8

/-- `RING_AddElement`; a byte that finds the buffer full is dropped. -/
def ringAddElement (buffer : RingBuff) (data : U8) : RingBuff × U8 :=
  if buffer.elements < buffer.size then
    let next := buffer.inIndex + 1#8
    ({ buffer with
        data := buffer.data.set buffer.inIndex.toNat data
        inIndex := if next = buffer.size then 0#8 else next
        elements := buffer.elements + 1#8 }, data)
  else (buffer, data)

/-- `RING_GetElement`; an empty buffer answers zero. -/
def ringGetElement (buffer : RingBuff) : RingBuff × U8 :=
  if 0#8 < buffer.elements then
    let next := buffer.outIndex + 1#8
    ({ buffer with
        outIndex := if next = buffer.size then 0#8 else next
        elements := buffer.elements - 1#8 }, buffer.data.getD buffer.outIndex.toNat 0#8)
  else (buffer, 0#8)

/-- `RING_HasElement` -/
def ringHasElement (buffer : RingBuff) : Bool := 0#8 < buffer.elements

namespace RingBuff

/-- The queued bytes, oldest first. -/
def contents (buffer : RingBuff) : List U8 :=
  window buffer.data buffer.size.toNat buffer.outIndex.toNat buffer.elements.toNat

/-- The two indices and the count describe one window inside the array. -/
structure Valid (buffer : RingBuff) : Prop where
  size_le_cells : buffer.size.toNat ≤ buffer.data.length
  elements_le_size : buffer.elements.toNat ≤ buffer.size.toNat
  out_lt : 0 < buffer.size.toNat → buffer.outIndex.toNat < buffer.size.toNat
  in_eq : 0 < buffer.size.toNat → buffer.inIndex.toNat =
    slot buffer.size.toNat buffer.outIndex.toNat buffer.elements.toNat

/-- Room for one more byte. -/
def HasRoom (buffer : RingBuff) : Prop := buffer.elements < buffer.size

instance (buffer : RingBuff) : Decidable buffer.HasRoom :=
  inferInstanceAs (Decidable (buffer.elements < buffer.size))

@[simp] theorem contents_length (buffer : RingBuff) :
    buffer.contents.length = buffer.elements.toNat :=
  window_length ..

theorem contents_eq_nil_iff (buffer : RingBuff) :
    buffer.contents = [] ↔ buffer.elements = 0#8 := by
  rw [← List.length_eq_zero_iff, contents_length]
  bv_omega

theorem ringHasElement_eq (buffer : RingBuff) :
    ringHasElement buffer = !buffer.contents.isEmpty := by
  rw [Bool.eq_iff_iff]
  simp only [ringHasElement, decide_eq_true_eq, Bool.not_eq_true', List.isEmpty_eq_false_iff,
    ne_eq, contents_eq_nil_iff]
  bv_omega

end RingBuff

open RingBuff

theorem foldl_set_length (indices : List Nat) (cells : List U8) :
    (indices.foldl (fun cells i => cells.set i 0#8) cells).length = cells.length := by
  induction indices generalizing cells with
  | nil => rfl
  | cons i rest ih => simp [ih]

theorem ringInitialize_valid {data : List U8} {size : U8} (h : size.toNat ≤ data.length) :
    (ringInitialize data size).Valid where
  size_le_cells := by
    simpa [ringInitialize, foldl_set_length] using h
  elements_le_size := by simp [ringInitialize]
  out_lt := by simp [ringInitialize]
  in_eq := by simp [ringInitialize, slot]

@[simp] theorem contents_ringInitialize (data : List U8) (size : U8) :
    (ringInitialize data size).contents = [] := by
  simp [contents, ringInitialize]

/-- The wrapping increment of an index inside the array. -/
theorem next_toNat {size index : U8} (h : index < size) :
    (if index + 1#8 = size then 0#8 else index + 1#8).toNat = slot size.toNat index.toNat 1 := by
  have hlt : index.toNat < size.toNat := h
  by_cases hn : index + 1#8 = size
  · have hs : index.toNat + 1 = size.toNat := by bv_omega
    simp [hn, slot, hs]
  · have hs : index.toNat + 1 < size.toNat := by bv_omega
    rw [if_neg hn, slot, Nat.mod_eq_of_lt hs]
    bv_omega

section Add
variable {buffer : RingBuff} (hv : buffer.Valid) (hroom : buffer.HasRoom) (data : U8)
include hv hroom

theorem in_lt_size : buffer.inIndex < buffer.size := by
  have hlt : buffer.elements.toNat < buffer.size.toNat := hroom
  have hsize : 0 < buffer.size.toNat := Nat.zero_lt_of_lt hlt
  show buffer.inIndex.toNat < buffer.size.toNat
  rw [hv.in_eq hsize]
  exact slot_lt hsize

theorem ringAddElement_valid : (ringAddElement buffer data).1.Valid := by
  have hlt : buffer.elements.toNat < buffer.size.toNat := hroom
  have hcount : (buffer.elements + 1#8).toNat = buffer.elements.toNat + 1 := by bv_omega
  have hin := next_toNat (in_lt_size hv hroom)
  have hadd : buffer.elements < buffer.size := hroom
  simp only [ringAddElement, if_pos hadd]
  constructor
  · simpa using hv.size_le_cells
  · simp only [hcount]
    omega
  · exact hv.out_lt
  · intro hsize
    simp only [hin, hcount, hv.in_eq hsize, slot_slot]

theorem contents_ringAddElement :
    (ringAddElement buffer data).1.contents = buffer.contents ++ [data] := by
  have hlt : buffer.elements.toNat < buffer.size.toNat := hroom
  have hcount : (buffer.elements + 1#8).toNat = buffer.elements.toNat + 1 := by bv_omega
  have hadd : buffer.elements < buffer.size := hroom
  simp only [ringAddElement, if_pos hadd, contents, hcount, hv.in_eq (by omega)]
  exact window_set _ _ hlt hv.size_le_cells

end Add

/-- A full buffer is left as it is. -/
theorem ringAddElement_full {buffer : RingBuff} (h : ¬ buffer.HasRoom) (data : U8) :
    (ringAddElement buffer data).1 = buffer := by
  simp only [ringAddElement, if_neg (show ¬ buffer.elements < buffer.size from h)]

theorem ringAddElement_valid_of_valid {buffer : RingBuff} (hv : buffer.Valid) (data : U8) :
    (ringAddElement buffer data).1.Valid := by
  by_cases h : buffer.HasRoom
  · exact ringAddElement_valid hv h data
  · rwa [ringAddElement_full h data]

@[simp] theorem ringAddElement_size (buffer : RingBuff) (data : U8) :
    (ringAddElement buffer data).1.size = buffer.size := by
  unfold ringAddElement
  split <;> rfl

@[simp] theorem ringGetElement_size (buffer : RingBuff) :
    (ringGetElement buffer).1.size = buffer.size := by
  unfold ringGetElement
  split <;> rfl

/-- An empty buffer answers zero and is left as it is. -/
theorem ringGetElement_empty {buffer : RingBuff} (h : buffer.contents = []) :
    ringGetElement buffer = (buffer, 0#8) := by
  simp [ringGetElement, (contents_eq_nil_iff buffer).mp h]

theorem elements_pos {buffer : RingBuff} (hne : buffer.contents ≠ []) :
    0 < buffer.elements.toNat := by
  have h := mt (contents_eq_nil_iff buffer).mpr hne
  bv_omega

section Get
variable {buffer : RingBuff} (hv : buffer.Valid) (hne : buffer.contents ≠ [])
include hv hne

theorem ringGetElement_valid : (ringGetElement buffer).1.Valid := by
  have hpos := elements_pos hne
  have hle := hv.elements_le_size
  have hout : buffer.outIndex < buffer.size := hv.out_lt (by omega)
  have hnext := next_toNat hout
  have hcount : (buffer.elements - 1#8).toNat = buffer.elements.toNat - 1 := by bv_omega
  have hget : 0#8 < buffer.elements := hpos
  simp only [ringGetElement, if_pos hget]
  constructor
  · exact hv.size_le_cells
  · simp only [hcount]
    omega
  · intro hsize
    simp only [hnext]
    exact slot_lt hsize
  · intro hsize
    simp only [hnext, hcount, slot_slot, hv.in_eq hsize]
    congr 1
    omega

/-- The oldest byte is returned and removed. -/
theorem contents_eq_ringGetElement :
    buffer.contents = (ringGetElement buffer).2 :: (ringGetElement buffer).1.contents := by
  have hpos := elements_pos hne
  have hle := hv.elements_le_size
  have hout : buffer.outIndex < buffer.size := hv.out_lt (by omega)
  have hnext := next_toNat hout
  have hcount : buffer.elements.toNat = (buffer.elements - 1#8).toNat + 1 := by bv_omega
  have hget : 0#8 < buffer.elements := hpos
  simp only [ringGetElement, if_pos hget, contents, hnext]
  rw [hcount]
  exact window_succ _ _ hout

end Get

theorem ringGetElement_valid_of_valid {buffer : RingBuff} (hv : buffer.Valid) :
    (ringGetElement buffer).1.Valid := by
  by_cases h : buffer.contents = []
  · rwa [ringGetElement_empty h]
  · exact ringGetElement_valid hv h

/-- A ring buffer whose indices and count fit together. -/
abbrev Ring := {buffer : RingBuff // buffer.Valid}

namespace Ring

/-- `RING_Initialize` on an array of exactly `size` bytes, as both drivers call it. -/
def empty (size : U8) : Ring :=
  ⟨ringInitialize (List.replicate size.toNat 0#8) size, ringInitialize_valid (by simp)⟩

def addElement (ring : Ring) (data : U8) : Ring :=
  ⟨(ringAddElement ring.1 data).1, ringAddElement_valid_of_valid ring.2 data⟩

def getElement (ring : Ring) : Ring × U8 :=
  (⟨(ringGetElement ring.1).1, ringGetElement_valid_of_valid ring.2⟩, (ringGetElement ring.1).2)

def hasElement (ring : Ring) : Bool := ringHasElement ring.1

def contents (ring : Ring) : List U8 := ring.1.contents

/-- Room for one more byte. -/
def HasRoom (ring : Ring) : Prop := ring.1.HasRoom

instance (ring : Ring) : Decidable ring.HasRoom := inferInstanceAs (Decidable ring.1.HasRoom)

@[simp] theorem contents_empty (size : U8) : (empty size).contents = [] :=
  contents_ringInitialize _ _

theorem contents_addElement {ring : Ring} (h : ring.HasRoom) (data : U8) :
    (ring.addElement data).contents = ring.contents ++ [data] :=
  contents_ringAddElement ring.2 h data

theorem addElement_full {ring : Ring} (h : ¬ ring.HasRoom) (data : U8) :
    ring.addElement data = ring :=
  Subtype.ext (ringAddElement_full h data)

@[simp] theorem addElement_size (ring : Ring) (data : U8) :
    (ring.addElement data).1.size = ring.1.size :=
  ringAddElement_size ring.1 data

@[simp] theorem getElement_size (ring : Ring) : ring.getElement.1.1.size = ring.1.size :=
  ringGetElement_size ring.1

theorem getElement_empty {ring : Ring} (h : ring.contents = []) :
    ring.getElement = (ring, 0#8) := by
  have hget : ringGetElement ring.1 = (ring.1, 0#8) := ringGetElement_empty h
  simp [getElement, hget]

theorem contents_eq_getElement {ring : Ring} (h : ring.contents ≠ []) :
    ring.contents = ring.getElement.2 :: ring.getElement.1.contents :=
  contents_eq_ringGetElement ring.2 h

theorem hasElement_eq (ring : Ring) : ring.hasElement = !ring.contents.isEmpty :=
  ringHasElement_eq ring.1

theorem hasRoom_iff (ring : Ring) :
    ring.HasRoom ↔ ring.contents.length < ring.1.size.toNat := by
  rw [contents, contents_length]
  exact Iff.rfl

end Ring

end DiyPs3Controller.RingBuffer
