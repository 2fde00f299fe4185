import DiyPs3Controller.Foundations.Packets
import DiyPs3Controller.Ps2.UsbSend
import DiyPs3Controller.Firmware.ReportLayout

/-!
# Descriptors on their way to the host

The `GET_DESCRIPTOR` branch of `USB_COM_vect`: a search through the table with a
pointer into the program memory, and a loop that sends what it finds in packets
of the size of endpoint 0.
-/

namespace DiyPs3Controller.GetDescriptor

open UsbSend Packets
open ReportLayout (joystickHidReportDesc)

/-- `ENDPOINT0_SIZE` -/
def endpoint0Size : U8 := 32#8

/-! Bit numbers of `UEINTX`. -/

def txini : Nat := 0
def rxouti : Nat := 2

/-- The program memory. -/
abbrev Flash := U16 → U8

/-- `pgm_read_word` -/
def pgmReadWord (flash : Flash) (address : U16) : U16 := flash (address + 1#16) ++ flash address

/-- So many calls of `pgm_read_byte`, each one byte further on. -/
def pgmRead (flash : Flash) : Nat → U16 → List U8
  | 0, _ => []
  | n + 1, address => flash address :: pgmRead flash n (address + 1#16)

/-- `struct descriptor_list_struct` -/
structure DescriptorListStruct where
  wValue : U16
  wIndex : U16
  addr : U16
  length : U8
  deriving DecidableEq, Repr

namespace DescriptorListStruct

/-- The seven bytes of an entry. -/
def bytes (entry : DescriptorListStruct) : List U8 :=
  [entry.wValue.setWidth 8, (entry.wValue >>> 8).setWidth 8,
    entry.wIndex.setWidth 8, (entry.wIndex >>> 8).setWidth 8,
    entry.addr.setWidth 8, (entry.addr >>> 8).setWidth 8, entry.length]

/-- The entry is the one that the request asks for. -/
def Matches (entry : DescriptorListStruct) (request : SetupPacket) : Prop :=
  entry.wValue = request.wValue ∧ entry.wIndex = request.wIndex

end DescriptorListStruct

/-- A program memory with a table at the address `descriptorList`. -/
structure Image where
  flash : Flash
  descriptorList : U16
  table : List DescriptorListStruct
  short : table.length < 256
  placed : pgmRead flash (7 * table.length) descriptorList =
    table.flatMap DescriptorListStruct.bytes

/-- The bytes that an entry points to. -/
def Image.contents (image : Image) (entry : DescriptorListStruct) : List U8 :=
  pgmRead image.flash entry.length.toNat entry.addr

/-- The handler in the search loop, in the transfer loop, or behind one of its
`return` statements. -/
inductive Handler
  | searching (i : U8) (list : U16)
  | sending (descAddr : U16) (len : U8)
  | returned
  deriving DecidableEq, Repr

/-- The stall of the endpoint, or a packet. -/
inductive Sent
  | stall
  | packet (bytes : List U8)
  deriving DecidableEq, Repr

/-- The bytes to send of a descriptor with `descLength` bytes. -/
def transferLength (wLength : U16) (descLength : U8) : U8 :=
  let len := if wLength < 256#16 then wLength.setWidth 8 else 255#8
  if descLength < len then descLength else len

/-- One round of the search loop. The pointer is at the entry, and behind the
words that have been compared. -/
def searchRound (flash : Flash) (numDescList : Nat) (request : SetupPacket) (i : U8)
    (list : U16) : Handler × List Sent :=
  if numDescList ≤ i.toNat then (.returned, [.stall])
  else if pgmReadWord flash list ≠ request.wValue then (.searching (i + 1#8) (list + 7#16), [])
  else
    let list := list + 2#16
    if pgmReadWord flash list ≠ request.wIndex then
      (.searching (i + 1#8) (list + (7#16 - 2#16)), [])
    else
      let list := list + 2#16
      let descAddr := pgmReadWord flash list
      let list := list + 2#16
      let descLength := flash list
      (.sending descAddr (transferLength request.wLength descLength), [])

/-- One reading of `UEINTX` in the transfer loop, with the packet that it lets go. -/
def sendRound (flash : Flash) (descAddr : U16) (len : U8) (ueintx : U8) : Handler × List Sent :=
  if ueintx &&& (1#8 <<< txini ||| 1#8 <<< rxouti) = 0#8 then (.sending descAddr len, [])
  else if ueintx.getLsbD rxouti then (.returned, [])
  else
    let n := if len < endpoint0Size then len else endpoint0Size
    let len := len - n
    (if len ≠ 0#8 ∨ n = endpoint0Size then .sending (descAddr + n.setWidth 16) len else .returned,
      [.packet (pgmRead flash n.toNat descAddr)])

/-- The branch, with the value that `UEINTX` has at each round. -/
def handler (image : Image) (request : SetupPacket) : Machine Handler U8 Sent where
  step
    | .searching i list, _ => searchRound image.flash image.table.length request i list
    | .sending descAddr len, ueintx => sendRound image.flash descAddr len ueintx
    | .returned, _ => (.returned, [])

/-- The beginning of the branch, with the request read and acknowledged. -/
def begun (image : Image) : Handler := .searching 0#8 image.descriptorList

/-- What `UEINTX` says of the host. -/
def pollOf (ueintx : U8) : Poll :=
  if ueintx.getLsbD rxouti then .abort else if ueintx.getLsbD txini then .ready else .busy

section Memory
variable (flash : Flash)

@[simp] theorem pgmRead_length (n : Nat) (address : U16) :
    (pgmRead flash n address).length = n := by
  induction n generalizing address with
  | zero => rfl
  | succ n ih => exact congrArg (· + 1) (ih (address + 1#16))

/-- What is read in one go is read in two. -/
theorem pgmRead_add (m n : Nat) (address : U16) :
    pgmRead flash (m + n) address =
      pgmRead flash m address ++ pgmRead flash n (address + BitVec.ofNat 16 m) := by
  induction m generalizing address with
  | zero => simp [pgmRead]
  | succ m ih =>
      have hnext : address + 1#16 + BitVec.ofNat 16 m = address + BitVec.ofNat 16 (m + 1) := by
        rw [BitVec.add_assoc, Nat.add_comm m 1, BitVec.ofNat_add]
      rw [Nat.add_right_comm, pgmRead, ih, hnext]
      rfl

theorem pgmRead_take {m n : Nat} (hle : m ≤ n) (address : U16) :
    (pgmRead flash n address).take m = pgmRead flash m address := by
  have hsplit := pgmRead_add flash m (n - m) address
  rw [Nat.add_sub_cancel' hle] at hsplit
  rw [hsplit, List.take_left' (pgmRead_length _ _ _)]

/-- A memory that holds a list of bytes from address 0 on. -/
def flashOf (bytes : List U8) : Flash := fun address => bytes.getD address.toNat 0#8

theorem pgmRead_flashOf {bytes : List U8} (hfits : bytes.length ≤ 65536) (n : Nat)
    {offset : Nat} (hle : offset + n ≤ bytes.length) :
    pgmRead (flashOf bytes) n (BitVec.ofNat 16 offset) = (bytes.drop offset).take n := by
  induction n generalizing offset with
  | zero => simp [pgmRead]
  | succ n ih =>
      have hlt : offset < bytes.length := by omega
      have hread : flashOf bytes (BitVec.ofNat 16 offset) = bytes[offset] := by
        have haddress : (BitVec.ofNat 16 offset).toNat = offset := by
          rw [BitVec.toNat_ofNat]
          exact Nat.mod_eq_of_lt (by omega)
        rw [flashOf, haddress, List.getD_eq_getElem?_getD, List.getElem?_eq_getElem hlt,
          Option.getD_some]
      have hnext : BitVec.ofNat 16 offset + 1#16 = BitVec.ofNat 16 (offset + 1) :=
        (BitVec.ofNat_add offset 1).symm
      rw [pgmRead, hread, hnext, ih (by omega), List.drop_eq_getElem_cons hlt, List.take_succ_cons]

/-- A word is read from its two bytes. -/
theorem pgmReadWord_of_bytes {address word : U16} (hlow : flash address = word.setWidth 8)
    (hhigh : flash (address + 1#16) = (word >>> 8).setWidth 8) :
    pgmReadWord flash address = word := by
  rw [pgmReadWord, hlow, hhigh]
  apply BitVec.eq_of_getLsbD_eq
  intro i hi
  rw [BitVec.getLsbD_append]
  by_cases hlt : i < 8
  · simp [hlt]
  · have hlt' : i - 8 < 8 := by omega
    have hi' : 8 + (i - 8) = i := by omega
    simp [hlt, hlt', hi']

end Memory

/-- The wait for the host goes on as long as it neither reads nor aborts. -/
theorem wait_iff (ueintx : U8) :
    ueintx &&& (1#8 <<< txini ||| 1#8 <<< rxouti) = 0#8 ↔ pollOf ueintx = .busy := by
  revert ueintx
  decide

section Round
variable {flash : Flash} {descAddr : U16} {len ueintx : U8}

theorem sendRound_busy (hbusy : pollOf ueintx = .busy) :
    sendRound flash descAddr len ueintx = (.sending descAddr len, []) :=
  if_pos ((wait_iff ueintx).mpr hbusy)

theorem sendRound_abort (habort : pollOf ueintx = .abort) :
    sendRound flash descAddr len ueintx = (.returned, []) := by
  have hnotBusy : ¬pollOf ueintx = .busy := by
    rw [habort]
    exact Poll.noConfusion
  have hrxouti : ueintx.getLsbD rxouti = true := by
    unfold pollOf at habort
    split at habort
    · assumption
    · split at habort <;> cases habort
  rw [sendRound, if_neg ((wait_iff ueintx).not.mpr hnotBusy), if_pos hrxouti]

/-- A round that lets a packet go. -/
theorem sendRound_ready (hready : pollOf ueintx = .ready) :
    sendRound flash descAddr len ueintx =
      let n := if len < endpoint0Size then len else endpoint0Size
      (if len - n ≠ 0#8 ∨ n = endpoint0Size then .sending (descAddr + n.setWidth 16) (len - n)
        else .returned, [.packet (pgmRead flash n.toNat descAddr)]) := by
  have hnotBusy : ¬pollOf ueintx = .busy := by
    rw [hready]
    exact Poll.noConfusion
  have hrxouti : ¬ueintx.getLsbD rxouti = true := by
    intro hrxouti
    rw [pollOf, if_pos hrxouti] at hready
    cases hready
  rw [sendRound, if_neg ((wait_iff ueintx).not.mpr hnotBusy), if_neg hrxouti]

/-- Fewer bytes than a packet holds are sent as the last packet. -/
theorem sendRound_last (hready : pollOf ueintx = .ready) (hlt : len.toNat < 32) :
    sendRound flash descAddr len ueintx =
      (.returned, [.packet (pgmRead flash len.toNat descAddr)]) := by
  have hlen : len < endpoint0Size := hlt
  have hne : ¬(len - len ≠ 0#8 ∨ len = endpoint0Size) := by
    rw [BitVec.sub_self]
    rintro (hne | rfl)
    · exact hne rfl
    · exact absurd hlt (by decide)
  rw [sendRound_ready hready]
  simp only [if_pos hlen, if_neg hne]

/-- A full packet is followed by another one. -/
theorem sendRound_full (hready : pollOf ueintx = .ready) (hle : 32 ≤ len.toNat) :
    sendRound flash descAddr len ueintx =
      (.sending (descAddr + 32#16) (len - 32#8), [.packet (pgmRead flash 32 descAddr)]) := by
  have hlen : ¬len < endpoint0Size := Nat.not_lt_of_le hle
  rw [sendRound_ready hready]
  simp only [if_neg hlen, or_true, if_true]
  rfl

end Round

section Transfer
variable (image : Image) (request : SetupPacket)

/-- The handler in the transfer loop, and what is left to send. -/
def Sending (image : Image) : Handler → Option (List U8) → Prop
  | .searching _ _, _ => False
  | .sending descAddr len, rest => rest = some (pgmRead image.flash len.toNat descAddr)
  | .returned, rest => rest = none

/-- A round of the transfer loop sends what a sender of packets sends. -/
theorem sendRound_sending (descAddr : U16) (len ueintx : U8) :
    let round := sendRound image.flash descAddr len ueintx
    let next := (sender 32).step (some (pgmRead image.flash len.toNat descAddr)) (pollOf ueintx)
    Sending image round.1 next.1 ∧ round.2 = next.2.map .packet := by
  cases hpoll : pollOf ueintx with
  | busy =>
      rw [sendRound_busy hpoll]
      exact ⟨rfl, rfl⟩
  | abort =>
      rw [sendRound_abort hpoll]
      exact ⟨rfl, rfl⟩
  | ready =>
      by_cases hle : 32 ≤ len.toNat
      · have hrest : (len - 32#8).toNat = len.toNat - 32 := by
          exact BitVec.toNat_sub_of_le hle
        have hdata : pgmRead image.flash len.toNat descAddr =
            pgmRead image.flash 32 descAddr ++
              pgmRead image.flash (len - 32#8).toNat (descAddr + 32#16) := by
          rw [hrest, ← pgmRead_add, Nat.add_sub_cancel' hle]
        rw [sendRound_full hpoll hle]
        simp only [sender, pgmRead_length, if_pos hle]
        constructor
        · rw [hdata, List.drop_left' (pgmRead_length _ _ _)]
          rfl
        · rw [hdata, List.take_left' (pgmRead_length _ _ _)]
          rfl
      · have hlt : len.toNat < 32 := Nat.lt_of_not_le hle
        have hdata : (pgmRead image.flash len.toNat descAddr).take 32 =
            pgmRead image.flash len.toNat descAddr := by
          apply List.take_of_length_le
          rw [pgmRead_length]
          exact Nat.le_of_lt hlt
        rw [sendRound_last hpoll hlt]
        simp only [sender, pgmRead_length, if_neg hle, hdata]
        exact ⟨rfl, rfl⟩

/-- The transfer loop and the sender of packets go on alike. -/
theorem handler_sending (h : Handler) (rest : Option (List U8)) (ueintx : U8)
    (hsending : Sending image h rest) :
    let next := ((sender 32).comap pollOf).step rest ueintx
    Sending image ((handler image request).step h ueintx).1 next.1 ∧
      ((handler image request).step h ueintx).2.filterMap some =
        next.2.filterMap fun bytes => some (.packet bytes) := by
  cases h with
  | searching i list => exact hsending.elim
  | sending descAddr len =>
      obtain rfl : rest = some (pgmRead image.flash len.toNat descAddr) := hsending
      obtain ⟨hnext, hout⟩ := sendRound_sending image descAddr len ueintx
      rw [List.filterMap_some, List.filterMap_eq_map']
      exact ⟨hnext, hout⟩
  | returned =>
      obtain rfl : rest = none := hsending
      exact ⟨rfl, rfl⟩

theorem Sending.returned_iff {image : Image} {h : Handler} {rest : Option (List U8)}
    (hsending : Sending image h rest) : h = .returned ↔ rest = none := by
  cases h <;> simp_all [Sending]

/-- What the transfer loop sends, and when it is left. -/
theorem transfer_run (descAddr : U16) (len : U8) (reads : List U8) :
    let data := pgmRead image.flash len.toNat descAddr
    let polls := reads.map pollOf
    (handler image request).outputs (.sending descAddr len) reads =
        ((packets 32 data).take (readies polls)).map .packet ∧
      ((handler image request).state (.sending descAddr len) reads = .returned ↔
        .abort ∈ polls ∨ (packets 32 data).length ≤ readies polls) := by
  intro data polls
  have hbegun : Sending image (.sending descAddr len) (some data) := rfl
  obtain ⟨hstate, hout⟩ :=
    Machine.simulation (Sending image) (handler_sending image request) hbegun reads
  obtain ⟨hcomap, hcomapOut⟩ := (sender 32).comap_run pollOf (some data) reads
  obtain ⟨hsent, hstopped⟩ := sender_run (by decide : 0 < 32) data polls
  rw [List.filterMap_some, List.filterMap_eq_map'] at hout
  constructor
  · rw [hout, hcomapOut, hsent]
  · rw [hstate.returned_iff, hcomap, hstopped]

end Transfer

section Search
variable {image : Image} {request : SetupPacket} {passed behind : List DescriptorListStruct}
  {entry : DescriptorListStruct}

/-- The address of the `k`-th entry. -/
def Image.entryAt (image : Image) (k : Nat) : U16 := image.descriptorList + BitVec.ofNat 16 (7 * k)

/-- The search loop at the `k`-th entry. -/
def searchingAt (image : Image) (k : Nat) : Handler :=
  .searching (BitVec.ofNat 8 k) (image.entryAt k)

theorem flatMap_bytes_length (entries : List DescriptorListStruct) :
    (entries.flatMap DescriptorListStruct.bytes).length = 7 * entries.length := by
  induction entries with
  | nil => rfl
  | cons entry entries ih =>
      rw [List.flatMap_cons, List.length_append, ih, List.length_cons, Nat.mul_succ, Nat.add_comm]
      rfl

/-- An entry lies where the entries before it end. -/
theorem pgmRead_entry (htable : image.table = passed ++ entry :: behind) :
    pgmRead image.flash 7 (image.entryAt passed.length) = entry.bytes := by
  have hlength : 7 * image.table.length = 7 * passed.length + (7 + 7 * behind.length) := by
    rw [htable, List.length_append, List.length_cons]
    omega
  have hplaced := image.placed
  rw [hlength, pgmRead_add, pgmRead_add, htable, List.flatMap_append, List.flatMap_cons] at hplaced
  obtain ⟨-, hrest⟩ := List.append_inj hplaced (by rw [pgmRead_length, flatMap_bytes_length])
  exact (List.append_inj hrest (pgmRead_length _ _ _)).1

/-- What the search loop reads of an entry. -/
theorem entry_words (htable : image.table = passed ++ entry :: behind) :
    let list := image.entryAt passed.length
    pgmReadWord image.flash list = entry.wValue ∧
      pgmReadWord image.flash (list + 2#16) = entry.wIndex ∧
      pgmReadWord image.flash (list + 2#16 + 2#16) = entry.addr ∧
      image.flash (list + 2#16 + 2#16 + 2#16) = entry.length := by
  intro list
  have hbytes := pgmRead_entry htable
  simp only [pgmRead, DescriptorListStruct.bytes, List.cons.injEq, BitVec.add_assoc,
    BitVec.reduceAdd] at hbytes
  obtain ⟨hvalueLow, hvalueHigh, hindexLow, hindexHigh, haddrLow, haddrHigh, hlength, -⟩ := hbytes
  simp only [BitVec.add_assoc, BitVec.reduceAdd]
  refine ⟨pgmReadWord_of_bytes _ hvalueLow hvalueHigh, pgmReadWord_of_bytes _ hindexLow ?_,
    pgmReadWord_of_bytes _ haddrLow ?_, hlength⟩
  · rw [BitVec.add_assoc]
    exact hindexHigh
  · rw [BitVec.add_assoc]
    exact haddrHigh

/-- The counter of the search loop has not run over. -/
theorem counter_toNat (image : Image) {k : Nat} (hk : k ≤ image.table.length) :
    (BitVec.ofNat 8 k).toNat = k := by
  rw [BitVec.toNat_ofNat]
  exact Nat.mod_eq_of_lt (Nat.lt_of_le_of_lt hk image.short)

/-- Behind the last entry the endpoint is stalled. -/
theorem step_exhausted (image : Image) (request : SetupPacket) (ueintx : U8) :
    (handler image request).step (searchingAt image image.table.length) ueintx =
      (.returned, [.stall]) := by
  have hend : image.table.length ≤ (BitVec.ofNat 8 image.table.length).toNat :=
    (counter_toNat image (Nat.le_refl _)).ge
  exact if_pos hend

/-- The search is not at its end. -/
theorem not_exhausted (htable : image.table = passed ++ entry :: behind) :
    ¬image.table.length ≤ (BitVec.ofNat 8 passed.length).toNat := by
  have hlength : passed.length < image.table.length := by
    rw [htable, List.length_append, List.length_cons]
    omega
  rw [counter_toNat image (Nat.le_of_lt hlength)]
  exact Nat.not_le_of_lt hlength

/-- The next entry is seven bytes further on, whichever word differs. -/
theorem step_passed (htable : image.table = passed ++ entry :: behind)
    (hpassed : ¬entry.Matches request) (ueintx : U8) :
    (handler image request).step (searchingAt image passed.length) ueintx =
      (searchingAt image (passed.length + 1), []) := by
  obtain ⟨hvalue, hindex, -⟩ := entry_words htable
  have hcounter : BitVec.ofNat 8 passed.length + 1#8 = BitVec.ofNat 8 (passed.length + 1) :=
    (BitVec.ofNat_add passed.length 1).symm
  have hnext : image.entryAt passed.length + 7#16 = image.entryAt (passed.length + 1) := by
    rw [Image.entryAt, Image.entryAt, BitVec.add_assoc, Nat.mul_succ, BitVec.ofNat_add]
  have hnext' : image.entryAt passed.length + 2#16 + (7#16 - 2#16) =
      image.entryAt (passed.length + 1) := by
    rw [BitVec.add_assoc]
    exact hnext
  simp only [handler, searchingAt, searchRound, if_neg (not_exhausted htable), hvalue, hindex]
  by_cases hdiffers : entry.wValue = request.wValue
  · have hother : entry.wIndex ≠ request.wIndex := fun hsame => hpassed ⟨hdiffers, hsame⟩
    rw [if_neg (not_not.mpr hdiffers), if_pos hother, hcounter, hnext']
  · rw [if_pos hdiffers, hcounter, hnext]

/-- An entry that matches is sent, as much of it as the request asks for. -/
theorem step_found (htable : image.table = passed ++ entry :: behind)
    (hfound : entry.Matches request) (ueintx : U8) :
    (handler image request).step (searchingAt image passed.length) ueintx =
      (.sending entry.addr (transferLength request.wLength entry.length), []) := by
  obtain ⟨hvalue, hindex, haddr, hlength⟩ := entry_words htable
  simp only [handler, searchingAt, searchRound, if_neg (not_exhausted htable), hvalue, hindex,
    haddr, hlength]
  rw [if_neg (not_not.mpr hfound.1), if_neg (not_not.mpr hfound.2)]

/-- Entries that do not match are passed one at a time, with nothing sent. -/
theorem search_run (skipped : List DescriptorListStruct)
    (htable : image.table = passed ++ skipped ++ behind)
    (hskipped : ∀ entry ∈ skipped, ¬entry.Matches request) (reads : List U8)
    (hreads : reads.length = skipped.length) :
    (handler image request).state (searchingAt image passed.length) reads =
        searchingAt image (passed.length + skipped.length) ∧
      (handler image request).outputs (searchingAt image passed.length) reads = [] := by
  induction skipped generalizing passed reads with
  | nil =>
      obtain rfl := List.eq_nil_of_length_eq_zero hreads
      exact ⟨rfl, rfl⟩
  | cons entry skipped ih =>
      obtain ⟨hentry, hrest⟩ := List.forall_mem_cons.mp hskipped
      cases reads with
      | nil => cases hreads
      | cons ueintx reads =>
          have hfirst : image.table = passed ++ entry :: (skipped ++ behind) := by
            rw [htable, List.append_assoc, List.cons_append]
          have hlater : image.table = passed ++ [entry] ++ skipped ++ behind := by
            rw [hfirst, List.append_assoc, List.append_assoc, List.singleton_append]
          have hrun := ih hlater hrest reads (Nat.succ.inj hreads)
          rw [List.length_append, List.length_singleton] at hrun
          rw [Machine.state_cons, Machine.outputs_cons, step_passed hfirst hentry,
            List.length_cons, Nat.add_comm skipped.length, ← Nat.add_assoc]
          exact hrun

end Search

/-- The 16-bit length of the request, cut to 8 bits. -/
theorem capped_toNat (wLength : U16) :
    (if wLength < 256#16 then wLength.setWidth 8 else 255#8).toNat = min wLength.toNat 255 := by
  by_cases hlow : wLength < 256#16
  · have hnat : wLength.toNat < 256 := hlow
    rw [if_pos hlow, BitVec.toNat_setWidth, Nat.mod_eq_of_lt hnat]
    exact (Nat.min_eq_left (Nat.le_of_lt_succ hnat)).symm
  · have hnat : 256 ≤ wLength.toNat := Nat.le_of_not_lt hlow
    rw [if_neg hlow]
    exact (Nat.min_eq_right (Nat.le_of_lt hnat)).symm

/-- The shorter of two lengths. -/
theorem shorter_toNat (len descLength : U8) :
    (if descLength < len then descLength else len).toNat = min len.toNat descLength.toNat := by
  by_cases hshorter : descLength < len
  · rw [if_pos hshorter]
    exact (Nat.min_eq_right (Nat.le_of_lt hshorter)).symm
  · rw [if_neg hshorter]
    exact (Nat.min_eq_left (Nat.le_of_not_lt hshorter)).symm

theorem transferLength_toNat (wLength : U16) (descLength : U8) :
    (transferLength wLength descLength).toNat =
      min wLength.toNat (min 255 descLength.toNat) := by
  calc (transferLength wLength descLength).toNat
    _ = min (min wLength.toNat 255) descLength.toNat := by
      rw [transferLength, shorter_toNat, capped_toNat]
    _ = min wLength.toNat (min 255 descLength.toNat) := Nat.min_assoc _ _ _

/-- What the request asks for of an entry. -/
def Image.requested (image : Image) (request : SetupPacket) (entry : DescriptorListStruct) :
    List U8 :=
  (image.contents entry).take (min request.wLength.toNat (min 255 entry.length.toNat))

theorem pgmRead_requested (image : Image) (request : SetupPacket) (entry : DescriptorListStruct) :
    pgmRead image.flash (transferLength request.wLength entry.length).toNat entry.addr =
      image.requested request entry := by
  have hle : min request.wLength.toNat (min 255 entry.length.toNat) ≤ entry.length.toNat :=
    Nat.le_trans (Nat.min_le_right _ _) (Nat.min_le_right _ _)
  rw [transferLength_toNat, Image.requested, Image.contents, pgmRead_take _ hle]

section Run
variable {image : Image} {request : SetupPacket} {before behind : List DescriptorListStruct}
  {entry : DescriptorListStruct}

theorem begun_eq (image : Image) : begun image = searchingAt image 0 := by
  rw [begun, searchingAt, Image.entryAt, Nat.mul_zero, BitVec.add_zero]

/-- The search from the beginning. -/
theorem begun_run (htable : image.table = before ++ behind)
    (hbefore : ∀ entry ∈ before, ¬entry.Matches request) {reads : List U8}
    (hreads : reads.length = before.length) :
    (handler image request).state (begun image) reads = searchingAt image before.length ∧
      (handler image request).outputs (begun image) reads = [] := by
  have hfirst : image.table = [] ++ before ++ behind := htable
  have hrun := search_run before hfirst hbefore reads hreads
  rw [List.length_nil, Nat.zero_add] at hrun
  rw [begun_eq]
  exact hrun

/-- A search that has not come to its end has sent nothing. -/
theorem unfinished_run (htable : image.table = before ++ behind)
    (hbefore : ∀ entry ∈ before, ¬entry.Matches request) {reads : List U8}
    (hshort : reads.length ≤ before.length) :
    (handler image request).state (begun image) reads ≠ .returned ∧
      (handler image request).outputs (begun image) reads = [] := by
  have htaken : image.table = before.take reads.length ++ (before.drop reads.length ++ behind) := by
    rw [← List.append_assoc, List.take_append_drop, htable]
  obtain ⟨hstate, hout⟩ := begun_run htaken
    (fun entry hentry => hbefore entry (List.mem_of_mem_take hentry))
    (List.length_take_of_le hshort).symm
  refine ⟨?_, hout⟩
  rw [hstate]
  exact Handler.noConfusion

theorem returned_run (image : Image) (request : SetupPacket) (reads : List U8) :
    (handler image request).state .returned reads = .returned ∧
      (handler image request).outputs .returned reads = [] := by
  induction reads with
  | nil => exact ⟨rfl, rfl⟩
  | cons ueintx reads ih => exact ih

theorem exists_split {k : Nat} {reads : List U8} (hlong : k < reads.length) :
    ∃ ueintx, reads = reads.take k ++ ueintx :: reads.drop (k + 1) := by
  refine ⟨reads[k], ?_⟩
  rw [← List.drop_eq_getElem_cons hlong, List.take_append_drop]

/-- The search of a table without a match ends with the stall. -/
theorem exhausted_run (hnone : ∀ entry ∈ image.table, ¬entry.Matches request) {reads : List U8}
    (hlong : image.table.length < reads.length) :
    (handler image request).outputs (begun image) reads = [.stall] ∧
      (handler image request).state (begun image) reads = .returned := by
  obtain ⟨ueintx, hreads⟩ := exists_split hlong
  obtain ⟨hstate, hout⟩ := begun_run (List.append_nil image.table).symm hnone
    (List.length_take_of_le (Nat.le_of_lt hlong))
  obtain ⟨hreturned, hsilent⟩ :=
    returned_run image request (reads.drop (image.table.length + 1))
  rw [hreads, Machine.outputs_append, Machine.state_append, hstate, hout, Machine.outputs_cons,
    Machine.state_cons, step_exhausted, hsilent, hreturned]
  exact ⟨rfl, rfl⟩

/-- The search that finds an entry is followed by the transfer. -/
theorem found_run (htable : image.table = before ++ entry :: behind)
    (hbefore : ∀ entry ∈ before, ¬entry.Matches request) (hfound : entry.Matches request)
    (reads : List U8) :
    let sent := packets 32 (image.requested request entry)
    let polls := (reads.drop (before.length + 1)).map pollOf
    (handler image request).outputs (begun image) reads =
        (sent.take (readies polls)).map .packet ∧
      ((handler image request).state (begun image) reads = .returned ↔
        .abort ∈ polls ∨ sent.length ≤ readies polls) := by
  intro sent polls
  by_cases hlong : before.length < reads.length
  · obtain ⟨ueintx, hreads⟩ := exists_split hlong
    obtain ⟨hstate, hout⟩ := begun_run htable hbefore
      (List.length_take_of_le (Nat.le_of_lt hlong))
    have htransfer := transfer_run image request entry.addr
      (transferLength request.wLength entry.length) (reads.drop (before.length + 1))
    rw [pgmRead_requested] at htransfer
    rw [hreads, Machine.outputs_append, Machine.state_append, hstate, hout, Machine.outputs_cons,
      Machine.state_cons, step_found htable hfound]
    exact htransfer
  · have hshort : reads.length ≤ before.length := Nat.le_of_not_lt hlong
    obtain ⟨hrunning, hout⟩ := unfinished_run htable hbefore hshort
    have hpolls : polls = [] := by
      have hnone : reads.drop (before.length + 1) = [] :=
        List.drop_of_length_le (Nat.le_succ_of_le hshort)
      exact congrArg (List.map pollOf) hnone
    obtain ⟨full, last, hsent, -⟩ :=
      packets_packeted (by decide : 0 < 32) (image.requested request entry)
    have hnotEmpty : ¬sent.length ≤ 0 := by
      simp [sent, hsent]
    rw [hout, hpolls, readies_nil]
    simp [hrunning, hnotEmpty]

end Run

/-- A table with a match has a first one. -/
theorem exists_first_match {table : List DescriptorListStruct} {request : SetupPacket}
    (hmatch : ∃ entry ∈ table, entry.Matches request) :
    ∃ before entry behind, table = before ++ entry :: behind ∧
      (∀ other ∈ before, ¬other.Matches request) ∧ entry.Matches request := by
  induction table with
  | nil => simp at hmatch
  | cons head table ih =>
      by_cases hhead : head.Matches request
      · exact ⟨[], head, table, rfl, List.forall_mem_nil _, hhead⟩
      · have hlater : ∃ entry ∈ table, entry.Matches request := by
          simpa [hhead] using hmatch
        obtain ⟨before, entry, behind, htable, hbefore, hentry⟩ := ih hlater
        refine ⟨head :: before, entry, behind, ?_, ?_, hentry⟩
        · rw [htable, List.cons_append]
        · exact List.forall_mem_cons.mpr ⟨hhead, hbefore⟩

/-- The handler stalls the endpoint exactly when no entry of the table matches
the request, and then does nothing else. Otherwise it sends the requested bytes
of the first entry that matches in packets of 32 and a shorter one behind them,
as many of the packets as the host is ready for before it aborts, and nothing
else; it returns behind the last of them or with the abort. -/
theorem getDescriptor_run (image : Image) (request : SetupPacket) (reads : List U8) :
    let shown := (handler image request).outputs (begun image) reads
    let after := (handler image request).state (begun image) reads
    (image.table.length < reads.length →
        (.stall ∈ shown ↔ ∀ entry ∈ image.table, ¬entry.Matches request)) ∧
      (image.table.length < reads.length → (∀ entry ∈ image.table, ¬entry.Matches request) →
        shown = [.stall] ∧ after = .returned) ∧
      ∀ before entry behind, image.table = before ++ entry :: behind →
        (∀ other ∈ before, ¬other.Matches request) → entry.Matches request →
        ∃ full last,
          Packeted 32 ((image.contents entry).take
            (min request.wLength.toNat (min 255 entry.length.toNat))) full last ∧
          let polls := (reads.drop (before.length + 1)).map pollOf
          shown = ((full ++ [last]).take (readies polls)).map .packet ∧
            (after = .returned ↔ .abort ∈ polls ∨ full.length < readies polls) := by
  intro shown after
  refine ⟨?_, ?_, ?_⟩
  · intro hlong
    constructor
    · intro hstall entry hentry hmatches
      obtain ⟨before, entry, behind, htable, hbefore, hfound⟩ :=
        exists_first_match ⟨entry, hentry, hmatches⟩
      have hshown := (found_run htable hbefore hfound reads).1
      rw [show shown = _ from hshown] at hstall
      obtain ⟨packet, -, hpacket⟩ := List.mem_map.mp hstall
      cases hpacket
    · intro hnone
      have hshown : shown = [.stall] := (exhausted_run hnone hlong).1
      rw [hshown]
      exact List.mem_singleton.mpr rfl
  · intro hlong hnone
    exact exhausted_run hnone hlong
  · intro before entry behind htable hbefore hfound
    obtain ⟨full, last, hsent, hpacketed⟩ :=
      packets_packeted (by decide : 0 < 32) (image.requested request entry)
    obtain ⟨hout, hreturned⟩ := found_run htable hbefore hfound reads
    rw [hsent] at hout hreturned
    refine ⟨full, last, hpacketed, hout, ?_⟩
    rw [List.length_append, List.length_singleton] at hreturned
    exact hreturned

/-! ## The table of the firmware -/

/-- `device_descriptor` -/
def deviceDescriptor : List U8 := [
  18#8,
  1#8,
  0x00#8, 0x02#8,
  0#8,
  0#8,
  0#8,
  endpoint0Size,
  0x01#8, 0x00#8,
  0x01#8, 0x00#8,
  0x00#8, 0x01#8,
  1#8,
  2#8,
  0#8,
  1#8]

/-- `config1_descriptor`: the configuration, the interface, its HID descriptor
and its endpoint. -/
def config1Descriptor : List U8 := [
  9#8, 2#8, 34#8, 0#8, 1#8, 1#8, 0#8, 0xC0#8, 50#8,
  9#8, 4#8, joystickInterface.setWidth 8, 0#8, 1#8, 0x03#8, 0x01#8, 0x01#8, 0#8,
  9#8, 0x21#8, 0x11#8, 0x01#8, 0#8, 1#8, 0x22#8, BitVec.ofNat 8 joystickHidReportDesc.length, 0#8,
  7#8, 5#8, joystickEndpoint ||| 0x80#8, 0x03#8, 8#8, 0#8, 1#8]

/-- `JOYSTICK_HID_DESC_OFFSET` -/
def joystickHidDescOffset : Nat := 18

/-- A string literal of wide characters, with the one that ends it. -/
def wideString (text : String) : List U8 :=
  (text.toList ++ [Char.ofNat 0]).flatMap fun c => [BitVec.ofNat 8 c.toNat, 0#8]

/-- `STR_MANUFACTURER` -/
def strManufacturer : List U8 := wideString "Matlo"

/-- `STR_PRODUCT` -/
def strProduct : List U8 := wideString "Mouse/Keyboard to PS3 Joystick adapter"

/-- `string0` -/
def string0 : List U8 := [4#8, 3#8, 0x09#8, 0x04#8]

/-- A string descriptor, such as `string1` and `string2`. -/
def stringDescriptor (text : List U8) : List U8 := BitVec.ofNat 8 text.length :: 3#8 :: text

/-- The descriptors, in the order in which they lie behind the table. -/
def descriptors : List (List U8) :=
  [deviceDescriptor, config1Descriptor, joystickHidReportDesc, string0,
    stringDescriptor strManufacturer, stringDescriptor strProduct]

/-- The address of a descriptor behind a table of seven entries. -/
def addressOf (k : Nat) : U16 := BitVec.ofNat 16 (7 * 7 + (descriptors.take k).flatten.length)

/-- `descriptor_list` -/
def descriptorList : List DescriptorListStruct := [
  ⟨0x0100#16, 0x0000#16, addressOf 0, BitVec.ofNat 8 deviceDescriptor.length⟩,
  ⟨0x0200#16, 0x0000#16, addressOf 1, BitVec.ofNat 8 config1Descriptor.length⟩,
  ⟨0x2200#16, joystickInterface, addressOf 2, BitVec.ofNat 8 joystickHidReportDesc.length⟩,
  ⟨0x2100#16, joystickInterface, addressOf 1 + BitVec.ofNat 16 joystickHidDescOffset, 9#8⟩,
  ⟨0x0300#16, 0x0000#16, addressOf 3, 4#8⟩,
  ⟨0x0301#16, 0x0409#16, addressOf 4, BitVec.ofNat 8 strManufacturer.length⟩,
  ⟨0x0302#16, 0x0409#16, addressOf 5, BitVec.ofNat 8 strProduct.length⟩]

/-- The table at address 0, and the descriptors behind it. -/
def firmwareBytes : List U8 :=
  descriptorList.flatMap DescriptorListStruct.bytes ++ descriptors.flatten

theorem firmwareBytes_length : firmwareBytes.length = 266 := by decide +kernel

theorem firmwareBytes_fits : firmwareBytes.length ≤ 65536 := by
  rw [firmwareBytes_length]
  decide

def firmwareImage : Image where
  flash := flashOf firmwareBytes
  descriptorList := 0#16
  table := descriptorList
  short := by decide
  placed := by
    have hinside : 0 + 7 * descriptorList.length ≤ firmwareBytes.length := by
      rw [firmwareBytes_length]
      decide
    have hread : pgmRead (flashOf firmwareBytes) (7 * descriptorList.length) 0#16 =
        firmwareBytes.take (7 * descriptorList.length) :=
      pgmRead_flashOf firmwareBytes_fits _ hinside
    rw [hread, firmwareBytes, List.take_left' (flatMap_bytes_length _)]

theorem firmwareImage_contents (entry : DescriptorListStruct) (hentry : entry ∈ descriptorList) :
    firmwareImage.contents entry =
      (firmwareBytes.drop entry.addr.toNat).take entry.length.toNat := by
  have hinside : entry.addr.toNat + entry.length.toNat ≤ firmwareBytes.length := by
    have hall : ∀ entry ∈ descriptorList, entry.addr.toNat + entry.length.toNat ≤ 266 := by
      decide +kernel
    rw [firmwareBytes_length]
    exact hall entry hentry
  have hread := pgmRead_flashOf firmwareBytes_fits entry.length.toNat hinside
  rw [BitVec.ofNat_toNat, BitVec.setWidth_eq] at hread
  exact hread

/-- What the entries of the table point to. The entries of the two texts have the
length of the text, without the two bytes in front of it. -/
theorem firmware_contents :
    descriptorList.map firmwareImage.contents =
      [deviceDescriptor, config1Descriptor, joystickHidReportDesc,
        (config1Descriptor.drop joystickHidDescOffset).take 9, string0,
        (stringDescriptor strManufacturer).take strManufacturer.length,
        (stringDescriptor strProduct).take strProduct.length] := by
  rw [List.map_congr_left firmwareImage_contents]
  decide +kernel

/-- A host that asks for 32 bytes gets a full packet and an empty one. -/
example :
    (handler firmwareImage ⟨0x80#8, getDescriptor, 0x0200#16, 0x0000#16, 32#16⟩).outputs
        (begun firmwareImage) (List.replicate 4 (1#8 <<< txini)) =
      [.packet (config1Descriptor.take 32), .packet []] := by
  decide +kernel

end DiyPs3Controller.GetDescriptor
