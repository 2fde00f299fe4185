import DiyPs3Controller.Foundations.FixedFields
import DiyPs3Controller.Foundations.Numerals
import DiyPs3Controller.Ps2.Avr

/-!
# The address typed into the customizer

`apply` reads a bluetooth address from a row of a list or from an entry field. It
looks at the length of the text and reads six numbers at fixed places of it. What
stands between them it never reads, and its number parser also takes a sign or a
space in the place of a digit.
-/

namespace DiyPs3Controller.SixpairEmu

open FixedFields Numerals

/-- The selected row of each list, the text in the entry field, and what the user
answers to a box. -/
structure Window where
  liste1 : Option (List Char)
  liste2 : Option (List Char)
  liste3 : Option (List Char)
  entry1 : List Char
  askokcancel : String → String → Bool

/-- How `apply` ends without a call of `usb_set`. -/
inductive Stop
  | showerror (title message : String)
  | valueError
  | cancelled
  deriving DecidableEq, Repr

/-- The arguments of the call of `usb_set`. -/
structure UsbSetCall where
  didVendor : Int
  didProduct : Int
  idVendor : Int
  idProduct : Int
  bdaddr : List Int
  deriving DecidableEq, Repr

/-- `s[i:j]` -/
def textSlice (s : List Char) (i j : Nat) : List Char := (s.take j).drop i

/-- The row of `liste2` that stands for the entry field. -/
def customRow : List Char := "Custom bdaddr".toList

/-- The text that `entry1` starts with. -/
def zeroBdaddr : List Char := "00:00:00:00:00:00".toList

def invalidBdaddr (bdaddr : List Char) : Stop :=
  .showerror "Bdaddr" ("Invalid bdaddr: " ++ String.ofList bdaddr)

/-- The slices of the address that are read as numbers. -/
def bdaddrSlices (bdaddr : List Char) : List (List Char) :=
  [textSlice bdaddr 0 2, textSlice bdaddr 3 5, textSlice bdaddr 6 8,
    textSlice bdaddr 9 11, textSlice bdaddr 12 14, textSlice bdaddr 15 17]

/-- The six calls of `addr.append`. -/
def readBdaddr (a : Alphabet) (bdaddr : List Char) : Option (List Int) :=
  (bdaddrSlices bdaddr).mapM (int16 a)

/-- The address check of `apply`: the text and the numbers that pass it. -/
def checkBdaddr (a : Alphabet) (row entry1 : List Char) :
    Except Stop (List Char × List Int) := do
  let bdaddr := if row = customRow then entry1 else row
  if row = customRow ∧ bdaddr = zeroBdaddr then throw (invalidBdaddr bdaddr)
  if bdaddr.length ≠ 17 then throw (invalidBdaddr bdaddr)
  match readBdaddr a bdaddr with
  | none => throw (invalidBdaddr bdaddr)
  | some addr => return (bdaddr, addr)

/-- The ids that `apply` reads from a row of `liste3`, and their check. -/
def checkIds (a : Alphabet) (ids : List Char) : Except Stop (Int × Int) := do
  let vendorid := textSlice ids 0 6
  let some vid := int16 a vendorid
    | throw (.showerror "Vendor Id" ("Invalid Vendor Id: " ++ String.ofList vendorid))
  let productid := textSlice ids 9 16
  let some pid := int16 a productid
    | throw (.showerror "Product Id" ("Invalid Product Id: " ++ String.ofList productid))
  if ¬((vid = 0x054C ∧ pid = 0x0268) ∨ (vid = 0x03EB ∧ pid = 0x2042)) then
    throw (.showerror "Product Id" ("Invalid Product Id: " ++ String.ofList productid))
  return (vid, pid)

/-- The text of the last box. -/
def question (ids bdaddr : List Char) : String :=
  "Vendor Id: " ++ String.ofList (textSlice ids 0 6) ++ "\nProduct Id: " ++
    String.ofList (textSlice ids 9 16) ++ "\nBdaddr: " ++ String.ofList bdaddr

/-- `apply` -/
def apply (a : Alphabet) (w : Window) : Except Stop UsbSetCall := do
  let some device := w.liste1
    | throw (.showerror "Teensy++" "Please select the Teensy++ device!")
  let some dvid := int16 a (textSlice device 10 16) | throw .valueError
  let some dpid := int16 a (textSlice device 30 36) | throw .valueError
  let some row := w.liste2
    | throw (.showerror "Bluetooth device" "Please select the bluetooth device!")
  let (bdaddr, addr) ← checkBdaddr a row w.entry1
  let some ids := w.liste3
    | throw (.showerror "VendorId - ProductID" "Please select the VendorId - ProductId!")
  let (vid, pid) ← checkIds a ids
  if ¬w.askokcancel "Confirm" (question ids bdaddr) then throw .cancelled
  return { didVendor := dvid, didProduct := dpid, idVendor := vid, idProduct := pid,
           bdaddr := addr }

/-- `fromlist` of an array of bytes, with nothing for an `OverflowError`. -/
def fromlist (values : List Int) : Option (List U8) :=
  values.mapM fun value => if 0 ≤ value ∧ value ≤ 255 then some (BitVec.ofInt 8 value) else none

/-- A hexadecimal digit of the format `%X`. -/
def upperDigit (d : Nat) : Char := if d < 10 then Char.ofNat (48 + d) else Char.ofNat (55 + d)

/-- `"%02X" % ord(b)` -/
def hexPair (b : U8) : List Char := [upperDigit (b.toNat / 16), upperDigit (b.toNat % 16)]

/-- The string of a raw address, which has its last byte first. -/
def bdaddrText (raw : List U8) : List Char := joined ':' (raw.map hexPair).reverse

/-- `read_local_bdaddr`, with nothing for an exception. -/
def readLocalBdaddr (pkt : List U8) : Option (List Char) :=
  if pkt.length = 13 ∧ pkt[6]? = some 0#8 then some (bdaddrText (pkt.drop 7)) else none

theorem exists_of_bind_eq_ok {ε α β : Type} {x : Except ε α} {f : α → Except ε β} {b : β}
    (h : x >>= f = .ok b) : ∃ r, x = .ok r ∧ f r = .ok b := by
  cases x with
  | error e => cases h
  | ok r => exact ⟨r, rfl, h⟩

section Check
variable {a : Alphabet} {row entry1 bdaddr : List Char} {addr : List Int}

/-- The address check as one case distinction on the text. -/
theorem checkBdaddr_eq (hbdaddr : bdaddr = if row = customRow then entry1 else row) :
    checkBdaddr a row entry1 =
      if row = customRow ∧ bdaddr = zeroBdaddr ∨ bdaddr.length ≠ 17 then
        .error (invalidBdaddr bdaddr)
      else (readBdaddr a bdaddr).elim (.error (invalidBdaddr bdaddr))
        fun addr => .ok (bdaddr, addr) := by
  unfold checkBdaddr
  rw [← hbdaddr]
  simp only
  by_cases hzero : row = customRow ∧ bdaddr = zeroBdaddr
  · rw [if_pos (Or.inl hzero), if_pos hzero]
    rfl
  by_cases hlen : bdaddr.length ≠ 17
  · rw [if_pos (Or.inr hlen), if_neg hzero, if_pos hlen]
    rfl
  rw [if_neg (not_or.mpr ⟨hzero, hlen⟩), if_neg hzero, if_neg hlen]
  cases readBdaddr a bdaddr <;> rfl

/-- What passes the address check. -/
theorem checkBdaddr_eq_ok_iff :
    checkBdaddr a row entry1 = .ok (bdaddr, addr) ↔
      bdaddr = (if row = customRow then entry1 else row) ∧
        ¬(row = customRow ∧ bdaddr = zeroBdaddr) ∧ bdaddr.length = 17 ∧
        readBdaddr a bdaddr = some addr := by
  constructor
  · intro h
    obtain ⟨chosen, hchosen⟩ : ∃ chosen, chosen = if row = customRow then entry1 else row :=
      ⟨_, rfl⟩
    rw [checkBdaddr_eq hchosen] at h
    split_ifs at h with hbad
    obtain ⟨hzero, hlen⟩ := not_or.mp hbad
    cases hread : readBdaddr a chosen with
    | none =>
        rw [hread] at h
        cases h
    | some values =>
        rw [hread] at h
        cases h
        exact ⟨hchosen, hzero, not_not.mp hlen, hread⟩
  · rintro ⟨hbdaddr, hzero, hlen, hread⟩
    rw [checkBdaddr_eq hbdaddr, if_neg (not_or.mpr ⟨hzero, not_not.mpr hlen⟩), hread]
    rfl

/-- What does not pass is shown in the box. -/
theorem checkBdaddr_error {stop : Stop} (h : checkBdaddr a row entry1 = .error stop) :
    stop = invalidBdaddr (if row = customRow then entry1 else row) := by
  obtain ⟨chosen, hchosen⟩ : ∃ chosen, chosen = if row = customRow then entry1 else row :=
    ⟨_, rfl⟩
  rw [checkBdaddr_eq hchosen] at h
  rw [← hchosen]
  split_ifs at h
  · cases h
    rfl
  · cases hread : readBdaddr a chosen with
    | none =>
        rw [hread] at h
        cases h
        rfl
    | some values =>
        rw [hread] at h
        cases h

end Check

/-- The call of `usb_set` has the numbers that have passed the check. -/
theorem apply_checked {a : Alphabet} {w : Window} {call : UsbSetCall} (h : apply a w = .ok call) :
    ∃ row bdaddr, w.liste2 = some row ∧
      checkBdaddr a row w.entry1 = .ok (bdaddr, call.bdaddr) := by
  unfold apply at h
  split at h
  case h_2 => cases h
  split at h
  case h_2 => cases h
  split at h
  case h_2 => cases h
  split at h
  case h_2 => cases h
  next row hrow =>
    obtain ⟨⟨bdaddr, addr⟩, hcheck, h⟩ := exists_of_bind_eq_ok h
    simp only at h
    split at h
    case h_2 => cases h
    obtain ⟨⟨vid, pid⟩, -, h⟩ := exists_of_bind_eq_ok h
    simp only at h
    split at h
    · cases h
    · cases h
      exact ⟨row, bdaddr, hrow, hcheck⟩

/-- With all rows selected, good ids and the user's consent, what has passed the check
is passed on. -/
theorem apply_of_checked {a : Alphabet} {w : Window} {device row ids bdaddr : List Char}
    {dvid dpid vid pid : Int} {addr : List Int} (hdevice : w.liste1 = some device)
    (hdvid : int16 a (textSlice device 10 16) = some dvid)
    (hdpid : int16 a (textSlice device 30 36) = some dpid) (hrow : w.liste2 = some row)
    (hcheck : checkBdaddr a row w.entry1 = .ok (bdaddr, addr)) (hids : w.liste3 = some ids)
    (hgood : checkIds a ids = .ok (vid, pid))
    (hconsent : w.askokcancel "Confirm" (question ids bdaddr)) :
    apply a w = .ok { didVendor := dvid, didProduct := dpid, idVendor := vid, idProduct := pid,
                      bdaddr := addr } := by
  unfold apply
  rw [hdevice]
  simp only [hdvid, hdpid, hrow, hcheck, hids]
  change (checkIds a ids >>= _) = _
  rw [hgood]
  change ite _ _ _ = _
  rw [if_neg (not_not.mpr hconsent)]
  rfl

/-! ## The grammar of an address -/

/-- A group of two hexadecimal digits, with its value. -/
def HexGroup (text : List Char) (value : Int) : Prop :=
  ∃ high low x y, text = [high, low] ∧ asciiDigit high = some x ∧ asciiDigit low = some y ∧
    value = 16 * x + y

/-- Six groups of two digits with single colons between them. -/
def InGrammar (s : List Char) (values : List Int) : Prop :=
  ∃ groups, groups.length = 6 ∧ s = joined ':' groups ∧ List.Forall₂ HexGroup groups values

/-- The characters between the slices of an address. -/
def betweenSlices (s : List Char) : List Char := separators 2 5 s

theorem bdaddrSlices_eq (s : List Char) : bdaddrSlices s = fields 2 6 s := by
  simp [bdaddrSlices, textSlice, fields, List.drop_take, List.drop_drop]

theorem HexGroup.range {text : List Char} {value : Int} (h : HexGroup text value) :
    0 ≤ value ∧ value ≤ 255 := by
  obtain ⟨high, low, x, y, -, hx, hy, rfl⟩ := h
  have hhigh := (asciiDigit_bounds hx).1
  have hlow := (asciiDigit_bounds hy).1
  omega

/-- The parser reads a group as its value. -/
theorem HexGroup.int16 {text : List Char} {value : Int} (a : Alphabet) (h : HexGroup text value) :
    int16 a text = some value := by
  obtain ⟨high, low, x, y, rfl, hx, hy, rfl⟩ := h
  exact int16_pair_iff.mpr (Pair.digits (a.digit_of_asciiDigit hx) (a.digit_of_asciiDigit hy))

theorem HexGroup.length {text : List Char} {value : Int} (h : HexGroup text value) :
    text.length = 2 := by
  obtain ⟨high, low, x, y, rfl, -⟩ := h
  rfl

/-- The grammar, read at the places that the program looks at. -/
theorem inGrammar_iff {s : List Char} {values : List Int} :
    InGrammar s values ↔ s.length = 17 ∧ (∀ c ∈ betweenSlices s, c = ':') ∧
      List.Forall₂ HexGroup (bdaddrSlices s) values := by
  rw [bdaddrSlices_eq]
  constructor
  · rintro ⟨groups, hsix, rfl, hgroups⟩
    have hwidth : ∀ group ∈ groups, group.length = 2 := by
      intro group hmem
      obtain ⟨value, hvalue⟩ := exists_of_forall₂ hgroups group hmem
      exact hvalue.length
    have hne : groups ≠ [] := by
      rintro rfl
      cases hsix
    have hlen := length_joined ':' hne hwidth
    have hfields := fields_joined ':' hwidth
    rw [hsix] at hlen hfields
    refine ⟨by omega, ?_, by rwa [hfields]⟩
    apply (joined_fields_iff ':' 5 hlen).mp
    rw [hfields]
  · rintro ⟨hlen, hbetween, hgroups⟩
    have hjoined := (joined_fields_iff ':' 5 (by rw [hlen])).mpr hbetween
    exact ⟨fields 2 6 s, length_fields 6 s, hjoined.symm, hgroups⟩

theorem length_of_mem_bdaddrSlices {s : List Char} (hlen : s.length = 17) :
    ∀ text ∈ bdaddrSlices s, text.length = 2 := by
  rw [bdaddrSlices_eq]
  exact length_of_mem_fields 6 (by rw [hlen])

/-- A text that the program reads as an address although it is none: every slice is a
numeral of two characters, but one of them has a sign, a space or a digit that is
not ASCII in it, or something else than a colon stands in between. -/
def LooselySpelled (a : Alphabet) (s : List Char) : Prop :=
  s.length = 17 ∧ (∀ text ∈ bdaddrSlices s, ∃ b c v, text = [b, c] ∧ Pair a b c v) ∧
    ((∃ c ∈ betweenSlices s, c ≠ ':') ∨ ∃ text ∈ bdaddrSlices s, ¬∃ v, HexGroup text v)

/-- The texts that the six calls read. -/
theorem readBdaddr_iff {a : Alphabet} {s : List Char} (hlen : s.length = 17) :
    (∃ addr, readBdaddr a s = some addr) ↔
      ∀ text ∈ bdaddrSlices s, ∃ b c v, text = [b, c] ∧ Pair a b c v := by
  have hnumeral (text : List Char) (h : text.length = 2) :
      (∃ v, int16 a text = some v) ↔ ∃ b c v, text = [b, c] ∧ Pair a b c v := by
    obtain ⟨b, c, rfl⟩ := List.length_eq_two.mp h
    constructor
    · rintro ⟨v, hv⟩
      exact ⟨b, c, v, rfl, int16_pair_iff.mp hv⟩
    · rintro ⟨b', c', v, heq, hv⟩
      rw [heq]
      exact ⟨v, int16_pair_iff.mpr hv⟩
  have hread (addr : List Int) : readBdaddr a s = some addr ↔
      List.Forall₂ (fun text v => int16 a text = some v) (bdaddrSlices s) addr :=
    mapM_eq_some_iff (int16 a)
  constructor
  · rintro ⟨addr, haddr⟩ text htext
    apply (hnumeral text (length_of_mem_bdaddrSlices hlen text htext)).mp
    exact exists_of_forall₂ ((hread addr).mp haddr) text htext
  · intro h
    have hexists : ∀ text ∈ bdaddrSlices s, ∃ v, int16 a text = some v := by
      intro text htext
      exact (hnumeral text (length_of_mem_bdaddrSlices hlen text htext)).mpr (h text htext)
    obtain ⟨addr, haddr⟩ := exists_forall₂ hexists
    exact ⟨addr, (hread addr).mpr haddr⟩

theorem InGrammar.range {s : List Char} {values : List Int} (h : InGrammar s values) :
    ∀ x ∈ values, 0 ≤ x ∧ x ≤ 255 := by
  obtain ⟨groups, -, -, hgroups⟩ := h
  intro x hx
  obtain ⟨text, htext⟩ := exists_of_forall₂ hgroups.flip x hx
  exact HexGroup.range htext

/-- An address of the grammar is read as the values of its groups. -/
theorem InGrammar.read {s : List Char} {values : List Int} (a : Alphabet)
    (h : InGrammar s values) : readBdaddr a s = some values := by
  obtain ⟨-, -, hgroups⟩ := inGrammar_iff.mp h
  exact (mapM_eq_some_iff (int16 a)).mpr (hgroups.imp fun _ _ hgroup => hgroup.int16 a)

theorem InGrammar.not_loosely {s : List Char} {values : List Int} (a : Alphabet)
    (h : InGrammar s values) : ¬LooselySpelled a s := by
  obtain ⟨-, hbetween, hgroups⟩ := inGrammar_iff.mp h
  rintro ⟨-, -, ⟨c, hc, hne⟩ | ⟨text, htext, hnone⟩⟩
  · exact hne (hbetween c hc)
  · exact hnone (exists_of_forall₂ hgroups text htext)

/-- What is read without a loose spelling is an address of the grammar. -/
theorem inGrammar_of_read {a : Alphabet} {s : List Char} {addr : List Int}
    (hlen : s.length = 17) (hread : readBdaddr a s = some addr) (h : ¬LooselySpelled a s) :
    InGrammar s addr := by
  have hpairs := (readBdaddr_iff hlen).mp ⟨addr, hread⟩
  have hstrict : (∀ c ∈ betweenSlices s, c = ':') ∧
      ∀ text ∈ bdaddrSlices s, ∃ v, HexGroup text v := by
    constructor
    · intro c hc
      by_contra hne
      exact h ⟨hlen, hpairs, Or.inl ⟨c, hc, hne⟩⟩
    · intro text htext
      by_contra hnone
      exact h ⟨hlen, hpairs, Or.inr ⟨text, htext, hnone⟩⟩
  obtain ⟨values, hvalues⟩ := exists_forall₂ hstrict.2
  have hgrammar : InGrammar s values := inGrammar_iff.mpr ⟨hlen, hstrict.1, hvalues⟩
  have heq : values = addr := Option.some_inj.mp ((hgrammar.read a).symm.trans hread)
  rwa [← heq]

theorem inGrammar_zeroBdaddr : InGrammar zeroBdaddr (List.replicate 6 0) := by
  have hzero : HexGroup ['0', '0'] 0 := ⟨'0', '0', 0, 0, rfl, rfl, rfl, rfl⟩
  refine ⟨List.replicate 6 ['0', '0'], List.length_replicate, by decide, ?_⟩
  simp [List.replicate, hzero]

/-- The address check and what it lets through are as the grammar says. -/
structure AddressParsing (a : Alphabet) (s : List Char) : Prop where
  passes : (∃ bdaddr addr, checkBdaddr a customRow s = .ok (bdaddr, addr)) ↔
    (∃ values, InGrammar s values) ∧ s ≠ zeroBdaddr
  passed : ∀ (w : Window) (call : UsbSetCall), w.liste2 = some customRow → w.entry1 = s →
    apply a w = .ok call → InGrammar s call.bdaddr ∧ ∀ x ∈ call.bdaddr, 0 ≤ x ∧ x ≤ 255

/-- What passes the check from the entry field. -/
theorem checkBdaddr_custom_iff {a : Alphabet} {s : List Char} :
    (∃ bdaddr addr, checkBdaddr a customRow s = .ok (bdaddr, addr)) ↔
      s ≠ zeroBdaddr ∧ s.length = 17 ∧ ∃ addr, readBdaddr a s = some addr := by
  constructor
  · rintro ⟨bdaddr, addr, h⟩
    obtain ⟨hbdaddr, hzero, hlen, hread⟩ := checkBdaddr_eq_ok_iff.mp h
    rw [if_pos rfl] at hbdaddr
    subst hbdaddr
    exact ⟨fun heq => hzero ⟨rfl, heq⟩, hlen, addr, hread⟩
  · rintro ⟨hzero, hlen, addr, hread⟩
    exact ⟨s, addr, checkBdaddr_eq_ok_iff.mpr ⟨(if_pos rfl).symm, fun h => hzero h.2, hlen, hread⟩⟩

/-- The parsing follows the grammar exactly where the text is not loosely spelled. -/
theorem addressParsing_iff_not_loosely (a : Alphabet) (s : List Char) :
    AddressParsing a s ↔ ¬LooselySpelled a s := by
  constructor
  · intro h hloose
    have hread := (readBdaddr_iff (a := a) hloose.1).mpr hloose.2.1
    have hzero : s ≠ zeroBdaddr := by
      rintro rfl
      exact inGrammar_zeroBdaddr.not_loosely a hloose
    obtain ⟨⟨values, hvalues⟩, -⟩ :=
      h.passes.mp (checkBdaddr_custom_iff.mpr ⟨hzero, hloose.1, hread⟩)
    exact hvalues.not_loosely a hloose
  · intro h
    constructor
    · rw [checkBdaddr_custom_iff]
      constructor
      · rintro ⟨hzero, hlen, addr, hread⟩
        exact ⟨⟨addr, inGrammar_of_read hlen hread h⟩, hzero⟩
      · rintro ⟨⟨values, hvalues⟩, hzero⟩
        exact ⟨hzero, (inGrammar_iff.mp hvalues).1, values, hvalues.read a⟩
    · rintro w call hrow rfl hcall
      obtain ⟨row, bdaddr, hrow', hcheck⟩ := apply_checked hcall
      obtain rfl : customRow = row := Option.some_inj.mp (hrow.symm.trans hrow')
      obtain ⟨hbdaddr, -, hlen, hread⟩ := checkBdaddr_eq_ok_iff.mp hcheck
      rw [if_pos rfl] at hbdaddr
      subst hbdaddr
      have hgrammar := inGrammar_of_read hlen hread h
      exact ⟨hgrammar, hgrammar.range⟩

/-! ## The address of a local adapter -/

theorem asciiDigit_upperDigit {d : Nat} (h : d < 16) : asciiDigit (upperDigit d) = some d := by
  have hall : ∀ d : Fin 16, asciiDigit (upperDigit d) = some d.val := by decide
  exact hall ⟨d, h⟩

theorem hexGroup_hexPair (b : U8) : HexGroup (hexPair b) b.toNat := by
  have hlt := b.isLt
  refine ⟨_, _, b.toNat / 16, b.toNat % 16, rfl, asciiDigit_upperDigit (by omega),
    asciiDigit_upperDigit (by omega), by omega⟩

theorem inGrammar_bdaddrText (raw : List U8) (h : raw.length = 6) :
    InGrammar (bdaddrText raw) (raw.reverse.map fun b => (b.toNat : Int)) := by
  refine ⟨(raw.map hexPair).reverse, by simp [h], rfl, ?_⟩
  rw [← List.map_reverse, List.forall₂_map_left_iff, List.forall₂_map_right_iff,
    List.forall₂_same]
  exact fun b _ => hexGroup_hexPair b

/-- The adapter's reply to the request for its address. -/
theorem readLocalBdaddr_reply (header raw : List U8) (hheader : header.length = 6)
    (hraw : raw.length = 6) :
    readLocalBdaddr (header ++ 0#8 :: raw) = some (bdaddrText raw) := by
  have hlen : (header ++ 0#8 :: raw).length = 13 := by
    rw [List.length_append, List.length_cons, hheader, hraw]
  have hstatus : (header ++ 0#8 :: raw)[6]? = some 0#8 := by
    rw [List.getElem?_append_right hheader.le, hheader]
    rfl
  have hdrop : (header ++ 0#8 :: raw).drop 7 = raw := by
    rw [← List.drop_drop (i := 1) (j := 6), List.drop_left' hheader]
    rfl
  rw [readLocalBdaddr, if_pos ⟨hlen, hstatus⟩, hdrop]

theorem fromlist_bytes (bytes : List U8) :
    fromlist (bytes.map fun b => (b.toNat : Int)) = some bytes := by
  apply (mapM_eq_some_iff _).mpr
  rw [List.forall₂_map_left_iff, List.forall₂_same]
  intro b _
  have hlt := b.isLt
  rw [if_pos (by omega), BitVec.ofInt_natCast, BitVec.ofNat_toNat, BitVec.setWidth_eq]

/-- From a row with the address of a local adapter the call gets the raw bytes in
reverse. -/
theorem apply_localBdaddr {a : Alphabet} {w : Window} {call : UsbSetCall} {raw : List U8}
    (hraw : raw.length = 6) (hrow : w.liste2 = some (bdaddrText raw))
    (h : apply a w = .ok call) : fromlist call.bdaddr = some raw.reverse := by
  have hgrammar := inGrammar_bdaddrText raw hraw
  have hrowLen := (inGrammar_iff.mp hgrammar).1
  have hcustom : bdaddrText raw ≠ customRow := by
    intro heq
    rw [heq] at hrowLen
    exact absurd hrowLen (by decide)
  obtain ⟨row, bdaddr, hrow', hcheck⟩ := apply_checked h
  obtain rfl : bdaddrText raw = row := Option.some_inj.mp (hrow.symm.trans hrow')
  obtain ⟨hbdaddr, -, -, hread⟩ := checkBdaddr_eq_ok_iff.mp hcheck
  rw [if_neg hcustom] at hbdaddr
  rw [hbdaddr, hgrammar.read a] at hread
  rw [← Option.some_inj.mp hread]
  exact fromlist_bytes raw.reverse

/-- Every number that passes is at least -15. -/
theorem readBdaddr_range {a : Alphabet} {s : List Char} {addr : List Int} (hlen : s.length = 17)
    (h : readBdaddr a s = some addr) : ∀ x ∈ addr, -15 ≤ x ∧ x ≤ 255 := by
  have hslices := (mapM_eq_some_iff (int16 a)).mp h
  have hwidth := length_of_mem_bdaddrSlices hlen
  intro x hx
  obtain ⟨text, htext, hx⟩ := exists_of_forall₂ ((List.forall₂_and_left _ _).mpr
    ⟨hwidth, hslices⟩).flip x hx
  obtain ⟨b, c, rfl⟩ := List.length_eq_two.mp htext
  exact (int16_pair_iff.mp hx).range

/-- What is typed in passes exactly by its grammar where it is not loosely spelled, and
the string of any local adapter is read as its raw bytes in reverse. -/
theorem addressParsing_iff (a : Alphabet) (s : List Char) (header raw : Vector U8 6) :
    (AddressParsing a s ↔ ¬LooselySpelled a s) ∧
      (readLocalBdaddr (header.toList ++ 0#8 :: raw.toList)).bind (readBdaddr a) =
        some (raw.toList.reverse.map fun b => (b.toNat : Int)) := by
  constructor
  · exact addressParsing_iff_not_loosely a s
  · rw [readLocalBdaddr_reply _ _ header.length_toList raw.length_toList]
    exact (inGrammar_bdaddrText raw.toList raw.length_toList).read a

/-- A text with a sign in its first slice. -/
def signedBdaddr : List Char := "-1:00:00:00:00:01".toList

theorem signed_not_parsed : ¬∀ (a : Alphabet) (s : List Char), AddressParsing a s := by
  intro h
  have hread : readBdaddr ascii signedBdaddr = some [-1, 0, 0, 0, 0, 1] := by decide
  have hpass := checkBdaddr_custom_iff.mpr ⟨by decide, by decide, _, hread⟩
  obtain ⟨⟨values, hvalues⟩, -⟩ := (h ascii signedBdaddr).passes.mp hpass
  obtain rfl := Option.some_inj.mp (hread.symm.trans (hvalues.read ascii))
  exact absurd (hvalues.range (-1) List.mem_cons_self) (by decide)

end DiyPs3Controller.SixpairEmu
