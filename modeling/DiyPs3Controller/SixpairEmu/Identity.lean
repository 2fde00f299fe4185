import DiyPs3Controller.SixpairEmu.Customizer

/-!
# The identity between customizer and firmware

An identity store keeps ten bytes without power and shows those that it was
started with. Writes reach the stored bytes, a power cycle shows them, with the
blank ids replaced. The emulator refines this store, so that what `usb_set`
writes is what the device is after its next power cycle, and not before.
-/

namespace DiyPs3Controller.SixpairEmu

open Buffers

/-- The ten bytes that are kept without power, and the ten that are shown. -/
structure IdentityStore where
  stored : List U8
  active : List U8
  deriving DecidableEq, Repr

/-- A blank id gives way to its default. -/
def fillBlank (id blank : List U8) : List U8 := if id = [0xFF#8, 0xFF#8] then blank else id

/-- What a start shows of the stored bytes. -/
def fillBlanks (stored : List U8) : List U8 :=
  fillBlank (stored.take 2) [0xEB#8, 0x03#8] ++
    fillBlank ((stored.drop 2).take 2) [0x42#8, 0x20#8] ++ (stored.drop 4).take 6

def IdentityStore.next (s : IdentityStore) : Event → IdentityStore
  | .request r => if r.IsSetReport ∧ r.wValue = 0xDEAD#16 then { s with stored := r.data } else s
  | .psButton _ => s
  | .powerCycle => { s with active := fillBlanks s.stored }

/-- The ten bytes in EEPROM. -/
def Eeprom.identity (eeprom : Eeprom) : List U8 :=
  eeprom.vendorId.toList ++ eeprom.productId.toList ++ eeprom.deviceBdaddr.toList

/-- The store after a history that starts with this EEPROM. -/
def identityStore (eeprom : Eeprom) (history : List Event) : IdentityStore :=
  history.foldl IdentityStore.next
    { stored := eeprom.identity, active := fillBlanks eeprom.identity }

/-- A step in service: data stages fit, and identities are written whole. -/
def InService : Event → Prop
  | .request r => r.IsSetReport →
      r.wLength.toNat ≤ 64 ∧ (r.wValue = 0xDEAD#16 → r.wLength.toNat = 10)
  | .psButton _ => True
  | .powerCycle => True

/-- A step that neither writes the identity nor starts the device again. -/
def KeepsIdentity : Event → Prop
  | .request r => r.IsSetReport → r.wLength.toNat ≤ 64 ∧ r.wValue ≠ 0xDEAD#16
  | .psButton _ => True
  | .powerCycle => False

/-- An id as it is loaded. -/
theorem wordBytes_readIdentifier (cell : Vector U8 2) (blank : U16) :
    wordBytes (readIdentifier cell blank) = fillBlank cell.toList (wordBytes blank) := by
  have hblank : readWord cell = 0xFFFF ↔ cell.toList = [0xFF#8, 0xFF#8] := by
    rw [← wordBytes_readWord]
    exact wordBytes_injective.eq_iff.symm
  by_cases h : readWord cell = 0xFFFF
  · rw [readIdentifier, if_pos h, fillBlank, if_pos (hblank.mp h)]
  · rw [readIdentifier, if_neg h, fillBlank, if_neg fun hc => h (hblank.mpr hc),
      wordBytes_readWord]

theorem fillBlanks_append {vendor product bdaddr : List U8} (hv : vendor.length = 2)
    (hp : product.length = 2) (hb : bdaddr.length = 6) :
    fillBlanks (vendor ++ product ++ bdaddr) =
      fillBlank vendor [0xEB#8, 0x03#8] ++ fillBlank product [0x42#8, 0x20#8] ++ bdaddr := by
  have hvendor : (vendor ++ (product ++ bdaddr)).take 2 = vendor := List.take_left' hv
  have hproduct : ((vendor ++ (product ++ bdaddr)).drop 2).take 2 = product := by
    rw [List.drop_left' hv]
    exact List.take_left' hp
  have hbdaddr : ((vendor ++ product ++ bdaddr).drop 4).take 6 = bdaddr := by
    rw [List.drop_left' (by rw [List.length_append, hv, hp])]
    exact List.take_of_length_le (Nat.le_of_eq hb)
  rw [fillBlanks, hbdaddr, List.append_assoc vendor, hvendor, hproduct]

/-- What a started device shows. -/
theorem shownIdentity_powerUp (eeprom : Eeprom) :
    shownIdentity (powerUp eeprom) = fillBlanks eeprom.identity := by
  rw [shownIdentity, powerUp_vendorID, powerUp_productID, powerUp_deviceBdaddr,
    wordBytes_readIdentifier, wordBytes_readIdentifier, Eeprom.identity,
    fillBlanks_append Vector.length_toList Vector.length_toList Vector.length_toList]
  rfl

/-- Of a data stage with an identity in front the first ten bytes are stored. -/
theorem identity_storedIdentity_take (old : Vector U8 64) {data : List U8}
    (h : 10 ≤ data.length) :
    (storedIdentity (overwrite old 0 data)).identity = data.take 10 := by
  rw [Eeprom.identity, storedIdentity, toList_slice_overwrite _ _ (by omega),
    toList_slice_overwrite _ _ (by omega), toList_slice_overwrite _ _ (by omega)]
  calc data.take 2 ++ (data.drop 2).take 2 ++ (data.drop 4).take 6
      = data.take 4 ++ (data.drop 4).take 6 := by rw [← List.take_add]
    _ = data.take 10 := by rw [← List.take_add]

/-- Ten bytes in the scratch buffer are stored as they are. -/
theorem identity_storedIdentity (old : Vector U8 64) {data : List U8} (h : data.length = 10) :
    (storedIdentity (overwrite old 0 data)).identity = data := by
  rw [identity_storedIdentity_take old (Nat.le_of_eq h.symm),
    List.take_of_length_le (Nat.le_of_eq h)]

/-! ## The emulator refines the store -/

/-- The device keeps and shows what the store does. -/
def IdentityKnown (eeprom : Eeprom) (history : List Event) (d : Device) : Prop :=
  d.eeprom.identity = (identityStore eeprom history).stored ∧
    shownIdentity d = (identityStore eeprom history).active

theorem identityStore_concat (eeprom : Eeprom) (history : List Event) (e : Event) :
    identityStore eeprom (history ++ [e]) = (identityStore eeprom history).next e := by
  simp [identityStore]

theorem shownIdentity_of_handled {d d' : Device} {r : ControlRequest}
    (handled : Handled d r d') : shownIdentity d' = shownIdentity d := by
  rw [shownIdentity, handled.vendorID, handled.productID, handled.deviceBdaddr, shownIdentity]

theorem eeprom_of_handled {d d' : Device} {r : ControlRequest} (handled : Handled d r d')
    (h : InService (.request r)) :
    d'.eeprom.identity =
      if r.IsSetReport ∧ r.wValue = 0xDEAD#16 then r.data else d.eeprom.identity := by
  by_cases hwrite : r.IsSetReport ∧ r.wValue = 0xDEAD#16
  · have hlen : r.data.length = 10 := by
      rw [ControlRequest.data_length_of_isSetReport hwrite.1]
      exact (h hwrite.1).2 hwrite.2
    have hdata : r.data ≠ [] := List.ne_nil_of_length_pos (by omega)
    rw [handled.eeprom, if_pos ⟨hwrite.1, hdata, hwrite.2⟩, handled.lastSetData,
      if_pos hwrite.1, identity_storedIdentity _ hlen, if_pos hwrite]
  · rw [handled.eeprom, if_neg fun hs => hwrite ⟨hs.1, hs.2.2⟩, if_neg hwrite]

theorem IdentityKnown.request {eeprom : Eeprom} {history : List Event} {d d' : Device}
    {r : ControlRequest} (known : IdentityKnown eeprom history d) (h : InService (.request r))
    (handled : Handled d r d') : IdentityKnown eeprom (history ++ [.request r]) d' := by
  rw [IdentityKnown, identityStore_concat]
  constructor
  · rw [eeprom_of_handled handled h, known.1, IdentityStore.next]
    split_ifs <;> rfl
  · rw [shownIdentity_of_handled handled, known.2, IdentityStore.next]
    split_ifs <;> rfl

theorem IdentityKnown.powerCycle {eeprom : Eeprom} {history : List Event} {d : Device}
    (known : IdentityKnown eeprom history d) :
    IdentityKnown eeprom (history ++ [.powerCycle]) (powerUp d.eeprom) := by
  rw [IdentityKnown, identityStore_concat, powerUp_eeprom, shownIdentity_powerUp, known.1]
  exact ⟨rfl, rfl⟩

/-- In service the device keeps and shows what the store does. -/
theorem identityKnown_run (eeprom : Eeprom) {history : List Event}
    (h : ∀ e ∈ history, InService e) :
    ∃ d, emulator.state (.ok (powerUp eeprom)) history = .ok d ∧
      IdentityKnown eeprom history d := by
  apply emulator_run (N := InService) (H := IdentityKnown eeprom) _ _ _ _ _ h
  · exact fun r hr hset => (hr hset).1
  · exact fun history d r d' known hr handled => known.request hr handled
  · intro history d value known
    rw [IdentityKnown, identityStore_concat]
    exact known
  · exact fun history d known _ => known.powerCycle
  · constructor
    · rw [powerUp_eeprom]
      rfl
    · exact shownIdentity_powerUp eeprom

/-- Steps that keep the identity leave the store. -/
theorem identityStore_keeps (eeprom : Eeprom) (history : List Event) {between : List Event}
    (h : ∀ e ∈ between, KeepsIdentity e) :
    identityStore eeprom (history ++ between) = identityStore eeprom history := by
  induction between generalizing history with
  | nil => rw [List.append_nil]
  | cons e rest ih =>
      obtain ⟨he, hrest⟩ := List.forall_mem_cons.mp h
      rw [List.append_cons, ih _ hrest, identityStore_concat]
      cases e with
      | request r => exact if_neg fun hw => (he hw.1).2 hw.2
      | psButton value => rfl
      | powerCycle => exact he.elim

theorem next_identityWrite (s : IdentityStore) (newVendor newProduct : U16) (bdaddr : Bdaddr) :
    s.next (.request (identityWrite newVendor newProduct bdaddr)) =
      { s with stored := identityArray newVendor newProduct bdaddr } := by
  rw [IdentityStore.next, if_pos ⟨isSetReport_identityWrite newVendor newProduct bdaddr, rfl⟩]
  rfl

theorem inService_of_keepsIdentity {e : Event} (h : KeepsIdentity e) : InService e := by
  cases e with
  | request r => exact fun hset => ⟨(h hset).1, fun hw => absurd hw (h hset).2⟩
  | psButton value => trivial
  | powerCycle => trivial

theorem inService_identityWrite (newVendor newProduct : U16) (bdaddr : Bdaddr) :
    InService (.request (identityWrite newVendor newProduct bdaddr)) := by
  intro _
  rw [wLength_identityWrite]
  exact ⟨by decide, fun _ => rfl⟩

/-! ## What a device shows of its identity -/

/-- The device is found under these ids, reports them and the address, and needs
no further write. -/
structure ShowsIdentity (d : Device) (vendor product : U16) (bdaddr : Bdaddr) : Prop where
  idVendor : idVendor d = some vendor
  idProduct : idProduct d = some product
  identityReport : answers (.ok d) identityRead =
    [(identityArray vendor product bdaddr).map some]
  bdaddrReport : ∀ wLength : U16, wLength.toNat ≤ 64 →
    ∃ sent, answers (.ok d) (.get 0x03f2 wLength) = [sent] ∧
      (sent.drop 4).take 6 = (bdaddr.toList.map some).take (wLength.toNat - 4)
  usbSet : usbSet d vendor product vendor product bdaddr = .ok (.nothingChanged, d)

theorem answers_identityRead (d : Device) :
    answers (.ok d) identityRead = [(shownIdentity d).map some] := by
  rw [answers_getReport isGetReport_identityRead, getReport_identityRead]

/-- The address in the report 0x03f2. -/
theorem bdaddr_getReport (d : Device) {wLength : U16} (short : wLength.toNat ≤ 64) :
    ((getReport d (.get 0x03f2 wLength)).2.drop 4).take 6 =
      (d.volatileDeviceBdaddr.toList.map some).take (wLength.toNat - 4) := by
  have hkind : reportKind (ControlRequest.get 0x03f2 wLength).wValue = .deviceBdaddr := by
    change reportKind 0x03f2 = .deviceBdaddr
    decide
  rw [getReport_sent (by rw [hkind]; decide), hkind]
  exact field_firstCells_copyAt Vector.length_toList (by decide) short

theorem ShowsIdentity.of_shown {d : Device} {vendor product : U16} {bdaddr : Bdaddr}
    (shown : shownIdentity d = identityArray vendor product bdaddr) :
    ShowsIdentity d vendor product bdaddr := by
  have hbytes := shown
  rw [identityArray_eq, shownIdentity] at hbytes
  obtain ⟨hids, hbdaddr⟩ := List.append_inj hbytes (by simp [length_wordBytes])
  obtain ⟨hvendor, hproduct⟩ := List.append_inj hids rfl
  have hv : d.vendorID = vendor := wordBytes_injective hvendor
  have hp : d.productID = product := wordBytes_injective hproduct
  refine ⟨?_, ?_, ?_, ?_, ?_⟩
  · rw [idVendor_eq, hv]
  · rw [idProduct_eq, hp]
  · rw [answers_identityRead, shown]
  · intro wLength short
    refine ⟨_, answers_getReport (ControlRequest.isGetReport_get _ _) d, ?_⟩
    rw [bdaddr_getReport d short, hbdaddr]
  · exact usbSet_same d vendor product bdaddr hv hp shown.symm

/-- A whole identity with ids other than 0xFFFF is shown as it is stored. -/
theorem fillBlanks_identityArray {vendor product : U16} (hv : vendor ≠ 0xFFFF)
    (hp : product ≠ 0xFFFF) (bdaddr : Bdaddr) :
    fillBlanks (identityArray vendor product bdaddr) = identityArray vendor product bdaddr := by
  have hid (w : U16) (hw : w ≠ 0xFFFF) (blank : List U8) :
      fillBlank (wordBytes w) blank = wordBytes w :=
    if_neg fun h => hw (wordBytes_injective h)
  rw [identityArray_eq, fillBlanks_append rfl rfl Vector.length_toList, hid vendor hv,
    hid product hp]

/-- A new identity: `usb_set` writes it, the device shows the old one until it is
started again, and then the new one. -/
theorem identity_roundTrip (eeprom : Eeprom) {history : List Event} (h : ∀ e ∈ history, InService e)
    {vendor product : U16} (hv : vendor ≠ 0xFFFF) (hp : product ≠ 0xFFFF) (bdaddr : Bdaddr)
    (new : identityArray vendor product bdaddr ≠ (identityStore eeprom history).active) :
    ∃ d, emulator.state (.ok (powerUp eeprom)) history = .ok d ∧
      ∀ didVendor didProduct, idVendor d = some didVendor → idProduct d = some didProduct →
        ∃ d₁, usbSet d didVendor didProduct vendor product bdaddr =
            .ok (.setRequestSuccessful, d₁) ∧
          ∀ between, (∀ e ∈ between, KeepsIdentity e) →
            answers (emulator.state (.ok d₁) between) identityRead =
                [(identityStore eeprom history).active.map some] ∧
              ∃ d₂, emulator.state (.ok d₁) (between ++ [.powerCycle]) = .ok d₂ ∧
                ShowsIdentity d₂ vendor product bdaddr := by
  obtain ⟨d, hd, -, active⟩ := identityKnown_run eeprom h
  refine ⟨d, hd, fun didVendor didProduct hdv hdp => ?_⟩
  rw [idVendor_eq] at hdv
  rw [idProduct_eq] at hdp
  obtain ⟨d₁, hset, hwrite⟩ := usbSet_new d vendor product bdaddr (Option.some.inj hdv)
    (Option.some.inj hdp) (by rw [active]; exact new)
  refine ⟨d₁, hset, fun between hbetween => ?_⟩
  let write := Event.request (identityWrite vendor product bdaddr)
  have hstate : emulator.state (.ok (powerUp eeprom)) (history ++ [write] ++ between) =
      emulator.state (.ok d₁) between := by
    rw [Machine.state_append, Machine.state_append, hd, Machine.state_cons, hwrite,
      Machine.state_nil]
  have hservice : ∀ e ∈ history ++ [write] ++ between, InService e := by
    intro e he
    simp only [List.mem_append, List.mem_singleton] at he
    rcases he with (he | rfl) | he
    · exact h e he
    · exact inService_identityWrite vendor product bdaddr
    · exact inService_of_keepsIdentity (hbetween e he)
  have hstore : identityStore eeprom (history ++ [write] ++ between) =
      { stored := identityArray vendor product bdaddr
        active := (identityStore eeprom history).active } := by
    rw [identityStore_keeps _ _ hbetween, identityStore_concat, next_identityWrite]
  have hknown := identityKnown_run eeprom hservice
  rw [hstate] at hknown
  obtain ⟨d', hd', stored', active'⟩ := hknown
  rw [hstore] at stored' active'
  refine ⟨?_, powerUp d'.eeprom, ?_, ?_⟩
  · rw [hd', answers_identityRead, active']
  · rw [Machine.state_append, hd']
    rfl
  · apply ShowsIdentity.of_shown
    rw [shownIdentity_powerUp, stored', fillBlanks_identityArray hv hp]

/-- The programmed device is made a controller. -/
def controllerHistory : List Event :=
  [.request (identityWrite 0x054c 0x0268 programmedEeprom.deviceBdaddr), .powerCycle]

/-- From a controller back to the programmed device. -/
theorem identity_roundTrip_controller :
    ∃ d, emulator.state (.ok (powerUp programmedEeprom)) controllerHistory = .ok d ∧
      ∀ didVendor didProduct, idVendor d = some didVendor → idProduct d = some didProduct →
        ∃ d₁, usbSet d didVendor didProduct 0x03eb 0x2042 programmedEeprom.deviceBdaddr =
            .ok (.setRequestSuccessful, d₁) ∧
          ∀ between, (∀ e ∈ between, KeepsIdentity e) →
            answers (emulator.state (.ok d₁) between) identityRead =
                [(identityStore programmedEeprom controllerHistory).active.map some] ∧
              ∃ d₂, emulator.state (.ok d₁) (between ++ [.powerCycle]) = .ok d₂ ∧
                ShowsIdentity d₂ 0x03eb 0x2042 programmedEeprom.deviceBdaddr :=
  identity_roundTrip programmedEeprom
    (List.forall_mem_cons.mpr ⟨inService_identityWrite _ _ _, by simp [InService]⟩)
    (by decide) (by decide) programmedEeprom.deviceBdaddr (by decide)

end DiyPs3Controller.SixpairEmu
