import DiyPs3Controller.SixpairEmu.Requests

/-!
# The customizer of the emulator's identity

`usb_set` finds the device by the ids of its descriptor, reads the identity that
the device shows, and writes the wanted one when the two differ. An identity is
ten bytes: the vendor id and the product id, low byte first, and the address.
-/

namespace DiyPs3Controller.SixpairEmu

open Buffers

/-- The 16-bit field of a descriptor at `offset`. -/
def descriptorWord (descriptor : List U8) (offset : Nat) : Option U16 := do
  let lo ← descriptor[offset]?
  let hi ← descriptor[offset + 1]?
  return readWord #v[lo, hi]

/-- `idVendor` of the device descriptor. -/
def idVendor (d : Device) : Option U16 := descriptorWord (deviceDescriptor d) 8

/-- `idProduct` of the device descriptor. -/
def idProduct (d : Device) : Option U16 := descriptorWord (deviceDescriptor d) 10

@[simp] theorem idVendor_eq (d : Device) : idVendor d = some d.vendorID :=
  congrArg some (readWord_wordBytes d.vendorID)

@[simp] theorem idProduct_eq (d : Device) : idProduct d = some d.productID :=
  congrArg some (readWord_wordBytes d.productID)

/-- `myArray` of `usb_set`. -/
def identityArray (idVendor idProduct : U16) (bdaddr : Bdaddr) : List U8 :=
  [BitVec.ofNat 8 (idVendor.toNat &&& 255), BitVec.ofNat 8 (idVendor.toNat / 256),
    BitVec.ofNat 8 (idProduct.toNat &&& 255), BitVec.ofNat 8 (idProduct.toNat / 256)] ++
    bdaddr.toList

theorem length_identityArray (idVendor idProduct : U16) (bdaddr : Bdaddr) :
    (identityArray idVendor idProduct bdaddr).length = 10 := by
  simp [identityArray]

/-- The read of `usb_set`. -/
def identityRead : ControlRequest := .get 0xDEAD 10

/-- The write of `usb_set`. -/
def identityWrite (idVendor idProduct : U16) (bdaddr : Bdaddr) : ControlRequest :=
  .set 0xDEAD (identityArray idVendor idProduct bdaddr)
    (by rw [length_identityArray]; decide)

/-- The message boxes of `usb_set`. -/
inductive Message
  | deviceNotConnected
  | setRequestFailed
  | setRequestSuccessful
  | nothingChanged
  deriving DecidableEq, Repr

/-- `usb_set`, with the device as the only one on the bus. -/
def usbSet (d : Device) (didVendor didProduct newVendor newProduct : U16) (bdaddr : Bdaddr) :
    Except Fault (Message × Device) :=
  if idVendor d = some didVendor ∧ idProduct d = some didProduct then
    match unhandledControlRequest d identityRead with
    | .error fault => .error fault
    | .ok (d, read) =>
        let myArray := identityArray newVendor newProduct bdaddr
        if myArray.map some ≠ read.flatten then
          match unhandledControlRequest d (identityWrite newVendor newProduct bdaddr) with
          | .error fault => .error fault
          | .ok (d, _) =>
              if myArray.length ≠ 10 then .ok (.setRequestFailed, d)
              else .ok (.setRequestSuccessful, d)
        else .ok (.nothingChanged, d)
  else .ok (.deviceNotConnected, d)

/-- The ten bytes that the device shows. -/
def shownIdentity (d : Device) : List U8 :=
  wordBytes d.vendorID ++ wordBytes d.productID ++ d.volatileDeviceBdaddr.toList

/-- The arithmetic of `usb_set` packs a word as the device stores it. -/
theorem identityArray_eq (newVendor newProduct : U16) (bdaddr : Bdaddr) :
    identityArray newVendor newProduct bdaddr =
      wordBytes newVendor ++ wordBytes newProduct ++ bdaddr.toList := by
  have hlow (w : U16) : BitVec.ofNat 8 (w.toNat &&& 255) = w.setWidth 8 := by
    apply BitVec.eq_of_toNat_eq
    have hand : w.toNat &&& 255 = w.toNat % 2 ^ 8 := Nat.and_two_pow_sub_one_eq_mod w.toNat 8
    rw [BitVec.toNat_ofNat, BitVec.toNat_setWidth, hand, Nat.mod_mod]
  have hhigh (w : U16) : BitVec.ofNat 8 (w.toNat / 256) = (w >>> 8).setWidth 8 := by
    apply BitVec.eq_of_toNat_eq
    rw [BitVec.toNat_ofNat, BitVec.toNat_setWidth, BitVec.toNat_ushiftRight,
      Nat.shiftRight_eq_div_pow]
  simp only [identityArray, hlow, hhigh, wordBytes, List.cons_append, List.nil_append]

theorem isGetReport_identityRead : identityRead.IsGetReport := ControlRequest.isGetReport_get _ _

theorem isSetReport_identityWrite (newVendor newProduct : U16) (bdaddr : Bdaddr) :
    (identityWrite newVendor newProduct bdaddr).IsSetReport := ControlRequest.isSetReport_set _

theorem length_wordBytes (w : U16) : (wordBytes w).length = 2 := rfl

/-- The buffer of the identity branch: 64 cells that start with the identity shown. -/
theorem identityBuffer_spec (d : Device) :
    (replyBuffer d .identity).length = 64 ∧
      (replyBuffer d .identity).take 10 = (shownIdentity d).map some := by
  let empty : List (Option U8) := List.replicate 64 none
  let vendor := copyAt empty 0 ((wordBytes d.vendorID).map some)
  let product := copyAt vendor 2 ((wordBytes d.productID).map some)
  let address := d.volatileDeviceBdaddr.toList.map some
  have hempty : empty.length = 64 := List.length_replicate
  have haddress : address.length = 6 := by simp [address]
  have hvendor : vendor.length = 64 := by
    rw [length_copyAt (by rw [hempty, List.length_map, length_wordBytes]; decide), hempty]
  have hproduct : product.length = 64 := by
    rw [length_copyAt (by rw [hvendor, List.length_map, length_wordBytes]; decide), hvendor]
  have hvendorBytes : vendor.take 2 = empty.take 0 ++ (wordBytes d.vendorID).map some :=
    take_copyAt rfl (by rw [hempty]; decide)
  have hproductBytes : product.take 4 = vendor.take 2 ++ (wordBytes d.productID).map some :=
    take_copyAt rfl (by rw [hvendor]; decide)
  have hbytes : (copyAt product 4 address).take 10 = product.take 4 ++ address :=
    take_copyAt (by rw [haddress]) (by rw [hproduct]; decide)
  constructor
  · exact (length_copyAt (by rw [haddress, hproduct]; decide)).trans hproduct
  · calc (replyBuffer d .identity).take 10
        = (copyAt product 4 address).take 10 := rfl
      _ = ((wordBytes d.vendorID).map some ++ (wordBytes d.productID).map some) ++ address := by
          rw [hbytes, hproductBytes, hvendorBytes]
          rfl
      _ = (shownIdentity d).map some := by
          rw [shownIdentity, List.map_append, List.map_append]

/-- Ten bytes of a GetReport(0xDEAD) are the identity shown, and no state changes. -/
theorem getReport_identityRead (d : Device) :
    getReport d identityRead = (d, (shownIdentity d).map some) := by
  have hkind : reportKind identityRead.wValue = .identity := by decide
  obtain ⟨hlen, hbytes⟩ := identityBuffer_spec d
  apply Prod.ext
  · simp [getReport, hkind]
  · rw [getReport_sent (by rw [hkind]; decide), hkind, ← hbytes]
    exact firstCells_eq_take (by rw [hlen]; decide)

theorem unhandledControlRequest_identityRead (d : Device) :
    unhandledControlRequest d identityRead = .ok (d, [(shownIdentity d).map some]) := by
  rw [unhandledControlRequest_getReport d isGetReport_identityRead, getReport_identityRead]

theorem wLength_identityWrite (newVendor newProduct : U16) (bdaddr : Bdaddr) :
    (identityWrite newVendor newProduct bdaddr).wLength = 10#16 := by
  simp only [identityWrite, ControlRequest.set, length_identityArray]

section UsbSet
variable (d : Device) {didVendor didProduct : U16} (newVendor newProduct : U16) (bdaddr : Bdaddr)

/-- A device that shows the wanted identity is left alone. -/
theorem usbSet_same (hv : d.vendorID = didVendor) (hp : d.productID = didProduct)
    (same : identityArray newVendor newProduct bdaddr = shownIdentity d) :
    usbSet d didVendor didProduct newVendor newProduct bdaddr = .ok (.nothingChanged, d) := by
  rw [usbSet, idVendor_eq, idProduct_eq, hv, hp, if_pos ⟨rfl, rfl⟩,
    unhandledControlRequest_identityRead]
  simp [same]

/-- Any other identity is written. -/
theorem usbSet_new (hv : d.vendorID = didVendor) (hp : d.productID = didProduct)
    (new : identityArray newVendor newProduct bdaddr ≠ shownIdentity d) :
    ∃ d', usbSet d didVendor didProduct newVendor newProduct bdaddr =
        .ok (.setRequestSuccessful, d') ∧
      (emulator.step (.ok d) (.request (identityWrite newVendor newProduct bdaddr))).1 =
        .ok d' := by
  have fits : (identityWrite newVendor newProduct bdaddr).Fits := by
    intro _
    rw [wLength_identityWrite]
    decide
  obtain ⟨d', sent, hwrite, -⟩ := unhandledControlRequest_handled fits d
  have hnew : (identityArray newVendor newProduct bdaddr).map some ≠
      [(shownIdentity d).map some].flatten := by
    simpa using fun h => new (List.map_injective_iff.mpr (fun _ _ => Option.some.inj) h)
  refine ⟨d', ?_, ?_⟩
  · rw [usbSet, idVendor_eq, idProduct_eq, hv, hp, if_pos ⟨rfl, rfl⟩,
      unhandledControlRequest_identityRead]
    simp only [if_pos hnew, hwrite, length_identityArray]
    rfl
  · simp only [emulator, Device.handle, hwrite]

end UsbSet

end DiyPs3Controller.SixpairEmu
