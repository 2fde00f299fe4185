import Mathlib.Algebra.Group.Nat.Defs
import Mathlib.Algebra.Group.Int.Defs
import DiyPs3Controller.Foundations.BitLists

/-!
# Report descriptors and the reports they describe

A report descriptor is a list of short items: a prefix byte with type, tag and
size, and up to four data bytes. Global items stay in force until they are
given again, local items until the next main item, and an input item adds one
field for each of its count. A report is the bits of its fields, one behind the
other, least significant first.

Descriptors with report identifiers, a push or a pop, output or feature items,
or long items are not read.
-/

namespace DiyPs3Controller.HidReports

open BitLists

/-- The items that decide the layout of a report; the others only describe it. -/
inductive Item
  | input (flags : BitVec 9)
  | collection
  | endCollection
  | usagePage (page : Nat)
  | logicalMinimum (value : Int)
  | logicalMaximum (value : Int)
  | reportSize (bits : Nat)
  | reportCount (count : Nat)
  | usage (usage : Nat)
  | usageMinimum (usage : Nat)
  | usageMaximum (usage : Nat)
  | descriptive
  deriving DecidableEq, Repr

/-- The number that data bytes spell, least significant byte first. -/
def unsigned : List (BitVec 8) → Nat
  | [] => 0
  | b :: rest => b.toNat + 256 * unsigned rest

/-- The same in two's complement. -/
def signed (data : List (BitVec 8)) : Int :=
  if 2 * unsigned data < 256 ^ data.length then unsigned data
  else (unsigned data : Int) - 256 ^ data.length

/-- The item with a prefix, its size bits cleared, and with its data bytes. -/
def item? (kind : BitVec 8) (data : List (BitVec 8)) : Option Item :=
  match kind with
  | 0x80#8 => some (.input (BitVec.ofNat 9 (unsigned data)))
  | 0xA0#8 => some .collection
  | 0xC0#8 => some .endCollection
  | 0x04#8 => some (.usagePage (unsigned data))
  | 0x14#8 => some (.logicalMinimum (signed data))
  | 0x24#8 => some (.logicalMaximum (signed data))
  | 0x74#8 => some (.reportSize (unsigned data))
  | 0x94#8 => some (.reportCount (unsigned data))
  | 0x08#8 => some (.usage (unsigned data))
  | 0x18#8 => some (.usageMinimum (unsigned data))
  | 0x28#8 => some (.usageMaximum (unsigned data))
  | 0x34#8 | 0x44#8 | 0x54#8 | 0x64#8 => some .descriptive
  | _ => none

/-- The number of data bytes behind a prefix. -/
def dataSize (first : BitVec 8) : Nat :=
  match first &&& 0x03#8 with
  | 0x00#8 => 0
  | 0x01#8 => 1
  | 0x02#8 => 2
  | _ => 4

/-- The items of a descriptor, with a bound on their number. -/
def readItems : Nat → List (BitVec 8) → Option (List Item)
  | _, [] => some []
  | 0, _ :: _ => none
  | bound + 1, first :: rest =>
      if rest.length < dataSize first then none
      else do
        let item ← item? (first &&& 0xFC#8) (rest.take (dataSize first))
        let items ← readItems bound (rest.drop (dataSize first))
        pure (item :: items)

/-- One field of a report. -/
structure Field where
  usagePage : Nat
  usage : Nat
  size : Nat
  logicalMinimum : Int
  logicalMaximum : Int
  flags : BitVec 9
  deriving DecidableEq, Repr

/-- The field has a null state: values out of its logical range mean none. -/
def Field.hasNull (f : Field) : Bool := f.flags.getLsbD 6

/-- A value that the field may show: one of its logical range, or none. -/
def Field.Accepts (f : Field) (value : Nat) : Prop :=
  f.logicalMinimum ≤ value ∧ value ≤ f.logicalMaximum ∨ f.hasNull = true

/-- What is in force between two items, and the fields so far. -/
structure Reading where
  usagePage : Nat
  logicalMinimum : Int
  logicalMaximum : Int
  reportSize : Nat
  reportCount : Nat
  usages : List Nat
  usageMinimum : Nat
  fields : List Field
  deriving DecidableEq, Repr

namespace Reading

def start : Reading where
  usagePage := 0
  logicalMinimum := 0
  logicalMaximum := 0
  reportSize := 0
  reportCount := 0
  usages := []
  usageMinimum := 0
  fields := []

/-- A main item uses the local items up. -/
def clearLocals (r : Reading) : Reading := { r with usages := [], usageMinimum := 0 }

/-- The fields of an input item; the last usage stands for all that follow. -/
def inputFields (r : Reading) (flags : BitVec 9) : List Field :=
  (List.range r.reportCount).map fun i =>
    { usagePage := r.usagePage
      usage := r.usages.getD i (r.usages.getLast?.getD 0)
      size := r.reportSize
      logicalMinimum := r.logicalMinimum
      logicalMaximum := r.logicalMaximum
      flags := flags }

def read (r : Reading) : Item → Reading
  | .input flags => { r.clearLocals with fields := r.fields ++ r.inputFields flags }
  | .collection | .endCollection => r.clearLocals
  | .usagePage page => { r with usagePage := page }
  | .logicalMinimum value => { r with logicalMinimum := value }
  | .logicalMaximum value => { r with logicalMaximum := value }
  | .reportSize bits => { r with reportSize := bits }
  | .reportCount count => { r with reportCount := count }
  | .usage usage => { r with usages := r.usages ++ [usage] }
  | .usageMinimum usage => { r with usageMinimum := usage }
  | .usageMaximum usage =>
      { r with usages := r.usages ++
          (List.range (usage + 1 - r.usageMinimum)).map (r.usageMinimum + ·) }
  | .descriptive => r

end Reading

/-- The fields of the reports that a descriptor describes. -/
def reportFields (descriptor : List (BitVec 8)) : Option (List Field) :=
  (readItems descriptor.length descriptor).map fun items =>
    (items.foldl Reading.read Reading.start).fields

/-- The bits of a report. -/
def reportBits (bytes : List (BitVec 8)) : List Bool := bytes.flatMap toLsb

/-- The values of the fields, read off the bits one behind the other. -/
def unpack : List Field → List Bool → List Nat
  | [], _ => []
  | f :: rest, bits =>
      (ofLsb (bits.take f.size) : BitVec f.size).toNat :: unpack rest (bits.drop f.size)

/-- A word in front of the other bits is the value of the first field. -/
theorem unpack_cons {f : Field} {w : Nat} (hf : f.size = w) (fs : List Field) (v : BitVec w)
    (bits : List Bool) : unpack (f :: fs) (toLsb v ++ bits) = v.toNat :: unpack fs bits := by
  subst hf
  have hlength : (toLsb v).length = f.size := toLsb_length v
  rw [unpack, List.take_left' hlength, List.drop_left' hlength, ofLsb_toLsb]

theorem ofLsb_singleton_toNat {n : Nat} (hn : n = 1) (b : Bool) :
    (ofLsb [b] : BitVec n).toNat = b.toNat := by
  subst hn
  cases b <;> rfl

/-- Fields of one bit each show the bits. -/
theorem unpack_flags {fs : List Field} (hsize : ∀ f ∈ fs, f.size = 1) {bits : List Bool}
    (hlength : fs.length = bits.length) : unpack fs bits = bits.map Bool.toNat := by
  induction fs generalizing bits with
  | nil =>
      obtain rfl : bits = [] := List.eq_nil_of_length_eq_zero hlength.symm
      rfl
  | cons f rest ih =>
      obtain ⟨hf, hrest⟩ := List.forall_mem_cons.mp hsize
      cases bits with
      | nil => simp at hlength
      | cons b bits =>
          have htake : (b :: bits).take f.size = [b] := by rw [hf]; rfl
          have hdrop : (b :: bits).drop f.size = bits := by rw [hf]; rfl
          have hrestlength : rest.length = bits.length := Nat.succ.inj hlength
          rw [unpack, htake, hdrop, ih hrest hrestlength, ofLsb_singleton_toNat hf,
            List.map_cons]

end DiyPs3Controller.HidReports
