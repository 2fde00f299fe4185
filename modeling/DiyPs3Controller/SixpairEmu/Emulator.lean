import DiyPs3Controller.Foundations.Machines
import DiyPs3Controller.Foundations.Buffers
import DiyPs3Controller.Ps2.Avr

/-!
# The pairing emulator and its control requests

The state of the sixaxis emulator that class requests read and write, the
handler of these requests branch by branch, and the start after power-up. A
reply is the bytes that the control stream sends; a byte that no statement of
the branch wrote, or that lies past its buffer, is `none`.
-/

namespace DiyPs3Controller.SixpairEmu

open Buffers

/-! HID class requests. -/

def reqGetReport : U8 := 0x01#8
def reqGetIdle : U8 := 0x02#8
def reqGetProtocol : U8 := 0x03#8
def reqSetReport : U8 := 0x09#8
def reqSetIdle : U8 := 0x0A#8
def reqSetProtocol : U8 := 0x0B#8

/-- `REQDIR_DEVICETOHOST | REQTYPE_CLASS | REQREC_INTERFACE` -/
def classToHost : U8 := 1#8 <<< 7 ||| 1#8 <<< 5 ||| 1#8 <<< 0

/-- `REQDIR_HOSTTODEVICE | REQTYPE_CLASS | REQREC_INTERFACE` -/
def classToDevice : U8 := 0#8 <<< 7 ||| 1#8 <<< 5 ||| 1#8 <<< 0

/-- `USB_ControlRequest`, with the bytes of the data stage that the host sends. -/
structure ControlRequest where
  bmRequestType : U8
  bRequest : U8
  wValue : U16
  wLength : U16
  data : List U8
  data_length : data.length = if bmRequestType.msb then 0 else wLength.toNat
  deriving DecidableEq, Repr

abbrev Bdaddr := Vector U8 6

/-- The cells in EEPROM, byte by byte. -/
structure Eeprom where
  vendorId : Vector U8 2
  productId : Vector U8 2
  deviceBdaddr : Bdaddr
  deriving DecidableEq, Repr

/-- `eeprom_read_word`, and every 16-bit variable in RAM: the low byte comes first. -/
def readWord (cell : Vector U8 2) : U16 := cell[1] ++ cell[0]

def wordBytes (w : U16) : List U8 := [w.setWidth 8, (w >>> 8).setWidth 8]

theorem wordBytes_readWord (cell : Vector U8 2) : wordBytes (readWord cell) = cell.toList := by
  have hlow : (readWord cell).setWidth 8 = cell[0] := by
    apply BitVec.eq_of_getLsbD_eq
    intro i hi
    rw [BitVec.getLsbD_setWidth, readWord, BitVec.getLsbD_append]
    simp [hi]
  have hhigh : (readWord cell >>> 8).setWidth 8 = cell[1] := by
    apply BitVec.eq_of_getLsbD_eq
    intro i hi
    rw [BitVec.getLsbD_setWidth, BitVec.getLsbD_ushiftRight, readWord, BitVec.getLsbD_append]
    simp [hi]
  have hcell : cell.toList = [cell[0], cell[1]] := by
    apply List.ext_getElem
    · simp
    · intro i hi _
      have hlt : i < 2 := by simpa using hi
      rcases Nat.lt_succ_iff_lt_or_eq.mp hlt with h | rfl
      · obtain rfl := Nat.lt_one_iff.mp h
        simp
      · simp
  rw [wordBytes, hlow, hhigh, hcell]

/-- A word is its two bytes. -/
theorem readWord_wordBytes (w : U16) : readWord #v[w.setWidth 8, (w >>> 8).setWidth 8] = w := by
  apply BitVec.eq_of_getLsbD_eq
  intro i hi
  rw [readWord, BitVec.getLsbD_append]
  by_cases h : i < 8
  · simp [h]
  · have hadd : 8 + (i - 8) = i := by omega
    have hlt : i - 8 < 8 := by omega
    simp [h, hadd, hlt]

theorem wordBytes_injective : Function.Injective wordBytes := by
  intro v w h
  obtain ⟨hlow, hhigh⟩ : v.setWidth 8 = w.setWidth 8 ∧
      (v >>> 8).setWidth 8 = (w >>> 8).setWidth 8 := by
    simpa [wordBytes] using h
  rw [← readWord_wordBytes v, hlow, hhigh, readWord_wordBytes]

/-- The variables of the emulator that its control requests use. -/
structure Device where
  eeprom : Eeprom
  vendorID : U16
  productID : U16
  volatileDeviceBdaddr : Bdaddr
  volatileMasterBdaddr : Bdaddr
  reply : U8
  usingReportProtocol : Bool
  idleCount : U16
  refReportData : Vector U8 50
  lastSetData : Vector U8 64
  deriving DecidableEq, Repr

/-! The buffers of the replies, as they are initialised. -/

def buffer03f7 : List U8 :=
  [
    0x01, 0x00, 0x08, 0x03, 0xd2, 0x01, 0xee, 0xff, 0x10, 0x02, 0x00, 0x03, 0x50, 0x81, 0xd8, 0x01,
    0x8a, 0x00, 0x00, 0x01, 0x64, 0x19, 0x01, 0x00, 0x64, 0x00, 0x01, 0x90, 0x00, 0x19, 0xfe, 0x00,
    0x00, 0x00, 0x00, 0x00, 0x00, 0x00, 0x00, 0x00, 0x00, 0x00, 0x00, 0x00, 0x00, 0x00, 0x00, 0x00,
    0x03, 0x00, 0x00, 0x00, 0x00, 0x00, 0x00, 0x00, 0x00, 0x00, 0x00, 0x00, 0x00, 0x00, 0x00, 0x00]

/-- Tells that the bdaddr is not the one of the PS3. -/
def buffer03f5First : List U8 :=
  [
    0x01, 0x00, 0xaa, 0xaa, 0xaa, 0xaa, 0xaa, 0xaa, 0x23, 0x1e, 0x00, 0x03, 0x50, 0x81, 0xd8, 0x01,
    0x8a, 0x00, 0x00, 0x01, 0x64, 0x19, 0x01, 0x00, 0x64, 0x00, 0x01, 0x90, 0x00, 0x19, 0xfe, 0x00,
    0x00, 0x00, 0x00, 0x00, 0x00, 0x00, 0x00, 0x00, 0x00, 0x00, 0x00, 0x00, 0x00, 0x00, 0x00, 0x00,
    0x03, 0x00, 0x00, 0x00, 0x00, 0x00, 0x00, 0x00, 0x00, 0x00, 0x00, 0x00, 0x00, 0x00, 0x00, 0x00]

def buffer03f5 : List U8 :=
  [
    0x01, 0x00, 0x00, 0x00, 0x00, 0x00, 0x00, 0x00, 0x23, 0x1e, 0x00, 0x03, 0x50, 0x81, 0xd8, 0x01,
    0x8a, 0x00, 0x00, 0x01, 0x64, 0x19, 0x01, 0x00, 0x64, 0x00, 0x01, 0x90, 0x00, 0x19, 0xfe, 0x00,
    0x00, 0x00, 0x00, 0x00, 0x00, 0x00, 0x00, 0x00, 0x00, 0x00, 0x00, 0x00, 0x00, 0x00, 0x00, 0x00,
    0x03, 0x00, 0x00, 0x00, 0x00, 0x00, 0x00, 0x00, 0x00, 0x00, 0x00, 0x00, 0x00, 0x00, 0x00, 0x00]

def buffer03f2 : List U8 :=
  [
    0xf2, 0xff, 0xff, 0x00, 0x00, 0x00, 0x00, 0x00, 0x00, 0x00, 0x00, 0x03, 0x50, 0x81, 0xd8, 0x01,
    0x8a, 0x00, 0x00, 0x01, 0x64, 0x19, 0x01, 0x00, 0x64, 0x00, 0x01, 0x90, 0x00, 0x19, 0xfe, 0x00,
    0x00, 0x00, 0x00, 0x00, 0x00, 0x00, 0x00, 0x00, 0x00, 0x00, 0x00, 0x00, 0x00, 0x00, 0x00, 0x00,
    0x03, 0x00, 0x00, 0x00, 0x00, 0x00, 0x00, 0x00, 0x00, 0x00, 0x00, 0x00, 0x00, 0x00, 0x00, 0x00]

def buffer03ef : List U8 :=
  [
    0x00, 0xef, 0x03, 0x00, 0x04, 0x03, 0x01, 0xb0, 0x00, 0x00, 0x00, 0x00, 0x00, 0x00, 0x00, 0x00,
    0x00, 0x02, 0x05, 0x01, 0x92, 0x02, 0x02, 0x01, 0x91, 0x02, 0x05, 0x01, 0x91, 0x02, 0x04, 0x00,
    0x76, 0x00, 0x00, 0x00, 0x00, 0x00, 0x00, 0x00, 0x00, 0x00, 0x00, 0x00, 0x00, 0x00, 0x00, 0x00,
    0x03, 0x00, 0x00, 0x00, 0x00, 0x00, 0x00, 0x00, 0x00, 0x00, 0x00, 0x00, 0x00, 0x00, 0x00, 0x00]

def buffer03ee : List U8 :=
  [
    0x00, 0xee, 0x02, 0x00, 0x04, 0xee, 0x10, 0x00, 0x00, 0x00, 0x00, 0x02, 0x03, 0x08, 0x01, 0xd2,
    0x00, 0x00, 0x02, 0x02, 0x02, 0x00, 0x03, 0x00, 0x00, 0x02, 0x00, 0x00, 0x02, 0x62, 0x01, 0x02,
    0x01, 0x5e, 0x00, 0x32, 0x00, 0x00, 0x00, 0x00, 0x00, 0x00, 0x00, 0x00, 0x00, 0x00, 0x00, 0x00,
    0x00, 0x00, 0x00, 0x00, 0x00, 0x00, 0x00, 0x00, 0x00, 0x00, 0x00, 0x00, 0x00, 0x00, 0x00, 0x00]

def buffer0302 : List U8 :=
  [
    0x00, 0x02, 0x01, 0x00, 0x04, 0x00, 0x00, 0x00, 0x00, 0x00, 0x00, 0x00, 0x00, 0x00, 0x00, 0x00,
    0x00, 0x00, 0x00, 0x00, 0x00, 0x00, 0x00, 0x00, 0x00, 0x00, 0x00, 0x00, 0x00, 0x00, 0x00, 0x00,
    0x00, 0x00, 0x00, 0x00, 0x00, 0x00, 0x00, 0x00, 0x00, 0x00, 0x00, 0x00, 0x00, 0x00, 0x00, 0x00,
    0x00, 0xff, 0xff, 0xff, 0xff, 0xff, 0xff, 0xff, 0xff, 0xff, 0xff, 0xff, 0xff, 0xff, 0xff, 0xff]

def buffer0301 : List U8 :=
  [
    0x00, 0x01, 0x03, 0x00, 0x04, 0x0c, 0x01, 0x02, 0x18, 0x18, 0x18, 0x18, 0x09, 0x0a, 0x10, 0x11,
    0x12, 0x13, 0x00, 0x00, 0x00, 0x00, 0x04, 0x00, 0x02, 0x02, 0x02, 0x02, 0x00, 0x00, 0x00, 0x04,
    0x04, 0x04, 0x04, 0x00, 0x00, 0x01, 0x06, 0x00, 0x00, 0x00, 0x00, 0x00, 0x00, 0x00, 0x00, 0x00,
    0x00, 0x00, 0x00, 0x00, 0x00, 0x00, 0x00, 0x00, 0x00, 0x00, 0x00, 0x00, 0x00, 0x00, 0x00, 0x00]

def buffer0201 : List U8 :=
  [
    0x00, 0x00, 0x00, 0x00, 0x00, 0x00, 0x00, 0x00, 0x00, 0x00, 0x1e, 0xff, 0x27, 0x10, 0x32, 0x32,
    0xff, 0x27, 0x10, 0x32, 0x32, 0xff, 0x27, 0x10, 0x32, 0x32, 0xff, 0x27, 0x10, 0x32, 0x32, 0x00,
    0x00, 0x00, 0x00, 0x00, 0x00, 0x00, 0x00, 0x00, 0x00, 0x00, 0x00, 0x00, 0x00, 0x00, 0x00, 0x00,
    0x00, 0x00, 0x00, 0x00, 0x00, 0x00, 0x00, 0x00, 0x00, 0x00, 0x00, 0x00, 0x00, 0x00, 0x00, 0x00]

def buffer0101 : List U8 :=
  [
    0x00, 0x00, 0x00, 0x00, 0x00, 0x00, 0x80, 0x80, 0x80, 0x80, 0x00, 0x00, 0x00, 0x00, 0x00, 0x00,
    0x00, 0x00, 0x00, 0x00, 0x00, 0x00, 0x00, 0x00, 0x00, 0x00, 0x00, 0x00, 0x00, 0x03, 0xee, 0x10,
    0x00, 0x00, 0x00, 0x00, 0x02, 0x54, 0x77, 0x01, 0x80, 0x01, 0xff, 0x01, 0xff, 0x01, 0xff, 0x01,
    0xff, 0x00, 0x00, 0x00, 0x00, 0x00, 0x00, 0x00, 0x00, 0x00, 0x00, 0x00, 0x00, 0x00, 0x00, 0x00]

/-- The initial `RefReportData`; the last byte has no initialiser. -/
def refReportData : Vector U8 50 :=
  #v[
    0x01, 0x00, 0x00, 0x00, 0x00, 0x00, 0x7a, 0x80, 0x82, 0x7d, 0x00, 0x00, 0x00, 0x00, 0x00, 0x00,
    0x00, 0x00, 0x00, 0x00, 0x00, 0x00, 0x00, 0x00, 0x00, 0x00, 0x00, 0x00, 0x00, 0x02, 0xee, 0x10,
    0x00, 0x00, 0x00, 0x00, 0x02, 0xff, 0x77, 0x01, 0x80, 0x02, 0x1f, 0x02, 0x02, 0x01, 0x9c, 0x00,
    0x05, 0x00]

/-- The branches of a GetReport, in the order of the source. -/
inductive ReportKind
  | identity
  | report03f7
  | masterBdaddr
  | deviceBdaddr
  | report03ef
  | report03ee
  | report0302
  | report0301
  | report0201
  | report0101
  | sixaxis
  deriving DecidableEq, Repr

/-- The tests on `wValue`, in the order of the source. -/
def reportKind (wValue : U16) : ReportKind :=
  if wValue = 0xDEAD#16 then .identity
  else if wValue &&& 0x03f7 = 0x03f7 then .report03f7
  else if wValue &&& 0x03f5 = 0x03f5 then .masterBdaddr
  else if wValue &&& 0x03f2 = 0x03f2 then .deviceBdaddr
  else if wValue &&& 0x03ef = 0x03ef then .report03ef
  else if wValue &&& 0x03ee = 0x03ee then .report03ee
  else if wValue &&& 0x0302 = 0x0302 then .report0302
  else if wValue &&& 0x0301 = 0x0301 then .report0301
  else if wValue &&& 0x0201 = 0x0201 then .report0201
  else if wValue &&& 0x0101 = 0x0101 then .report0101
  else .sixaxis

/-- `CreateSixaxisReport` -/
def createSixaxisReport (d : Device) : List U8 := d.refReportData.toList

/-- The buffer that a GetReport sends from, as its branch leaves it. -/
def replyBuffer (d : Device) : ReportKind → List (Option U8)
  | .identity =>
      let buf := List.replicate 64 none
      let buf := copyAt buf 0 ((wordBytes d.vendorID).map some)
      let buf := copyAt buf 2 ((wordBytes d.productID).map some)
      copyAt buf 4 (d.volatileDeviceBdaddr.toList.map some)
  | .report03f7 => buffer03f7.map some
  | .masterBdaddr =>
      if d.reply = 0#8 then buffer03f5First.map some
      else (copyAt buffer03f5 2 d.volatileMasterBdaddr.toList).map some
  | .deviceBdaddr => (copyAt buffer03f2 4 d.volatileDeviceBdaddr.toList).map some
  | .report03ef => (buffer03ef.set 7 d.lastSetData[6]).map some
  | .report03ee => buffer03ee.map some
  | .report0302 => buffer0302.map some
  | .report0301 => buffer0301.map some
  | .report0201 => buffer0201.map some
  | .report0101 => buffer0101.map some
  | .sixaxis => (createSixaxisReport d).map some

/-- What a data stage to the host carries. -/
abbrev InData := List (Option U8)

/-- `Endpoint_Write_Control_Stream_LE`: the first bytes of the buffer, at most as
many as the host asked for. -/
def writeControlStream (buf : List (Option U8)) (length wLength : U16) : InData :=
  firstCells buf (min length.toNat wLength.toNat)

/-- The GetReport branch. -/
def getReport (d : Device) (r : ControlRequest) : Device × InData :=
  let kind := reportKind r.wValue
  let length := if kind = .sixaxis then 50#16 else r.wLength
  let sent := writeControlStream (replyBuffer d kind) length r.wLength
  (if kind = .masterBdaddr ∧ d.reply = 0#8 then { d with reply := 1#8 } else d, sent)

/-- Why a SetReport does not finish inside its array. -/
inductive Fault
  | outsideArray (index : U8)
  | emptyBank
  deriving DecidableEq, Repr

/-- The loop that reads the data stage: `i` is the counter of the source, the
list holds the bytes still in the bank. -/
def readDataStage (wLength : U16) (i : U8) (lastSetData : Vector U8 64) :
    List U8 → Except Fault (Vector U8 64)
  | [] => if i.toNat < wLength.toNat then .error .emptyBank else .ok lastSetData
  | b :: bank =>
      if i.toNat < wLength.toNat then
        if h : i.toNat < 64 then readDataStage wLength (i + 1) (lastSetData.set i.toNat b) bank
        else .error (.outsideArray i)
      else .ok lastSetData

/-- The three writes of a SetReport(0xDEAD) to EEPROM. -/
def storedIdentity (lastSetData : Vector U8 64) : Eeprom where
  vendorId := slice lastSetData 0 2 (by decide)
  productId := slice lastSetData 2 2 (by decide)
  deviceBdaddr := slice lastSetData 4 6 (by decide)

/-- What the SetReport branch does with a data stage that it has copied. -/
def commit (d : Device) (wValue : U16) : Device :=
  let d :=
    if wValue = 0xDEAD#16 then { d with eeprom := storedIdentity d.lastSetData } else d
  if wValue = 0x03f5#16 then
    { d with volatileMasterBdaddr := slice d.lastSetData 2 6 (by decide) }
  else d

/-- The SetReport branch. Without a data stage it waits for one until the device
is unattached, and returns. -/
def setReport (d : Device) (r : ControlRequest) : Except Fault Device :=
  if r.data = [] then .ok d
  else
    match readDataStage r.wLength 0#8 d.lastSetData r.data with
    | .ok lastSetData => .ok (commit { d with lastSetData } r.wValue)
    | .error fault => .error fault

/-- `EVENT_USB_Device_UnhandledControlRequest`: the next state and the data
stages sent to the host. -/
def unhandledControlRequest (d : Device) (r : ControlRequest) :
    Except Fault (Device × List InData) :=
  if r.bRequest = reqGetReport then
    if r.bmRequestType = classToHost then
      let (d, sent) := getReport d r
      .ok (d, [sent])
    else .ok (d, [])
  else if r.bRequest = reqSetReport then
    if r.bmRequestType = classToDevice then (setReport d r).map fun d => (d, [])
    else .ok (d, [])
  else if r.bRequest = reqGetProtocol then
    if r.bmRequestType = classToHost then
      .ok (d, [[some (if d.usingReportProtocol then 1#8 else 0#8)]])
    else .ok (d, [])
  else if r.bRequest = reqSetProtocol then
    if r.bmRequestType = classToDevice then
      .ok ({ d with usingReportProtocol := r.wValue ≠ 0#16 }, [])
    else .ok (d, [])
  else if r.bRequest = reqSetIdle then
    if r.bmRequestType = classToDevice then
      .ok ({ d with idleCount := (r.wValue &&& 0xFF00) >>> 6 }, [])
    else .ok (d, [])
  else if r.bRequest = reqGetIdle then
    if r.bmRequestType = classToHost then .ok (d, [[some ((d.idleCount >>> 2).setWidth 8)]])
    else .ok (d, [])
  else .ok (d, [])

/-- `readEepromIdentifiers` -/
def readEepromIdentifiers (d : Device) : Device :=
  let d := { d with vendorID := readWord d.eeprom.vendorId,
                    productID := readWord d.eeprom.productId }
  let d := if d.vendorID = 0xFFFF then { d with vendorID := 0x03EB } else d
  let d := if d.productID = 0xFFFF then { d with productID := 0x2042 } else d
  { d with volatileDeviceBdaddr := d.eeprom.deviceBdaddr }

/-- A cell of an identifier, with the value for a blank cell. -/
def readIdentifier (cell : Vector U8 2) (blank : U16) : U16 :=
  if readWord cell = 0xFFFF then blank else readWord cell

theorem readEepromIdentifiers_eq (d : Device) :
    readEepromIdentifiers d =
      { d with vendorID := readIdentifier d.eeprom.vendorId 0x03EB
               productID := readIdentifier d.eeprom.productId 0x2042
               volatileDeviceBdaddr := d.eeprom.deviceBdaddr } := by
  unfold readEepromIdentifiers readIdentifier
  dsimp only
  split_ifs <;> rfl

/-- The initialisers of the variables in RAM, then the load from EEPROM. -/
def powerUp (eeprom : Eeprom) : Device :=
  readEepromIdentifiers
    { eeprom
      vendorID := 0#16
      productID := 0#16
      volatileDeviceBdaddr := Vector.replicate 6 0#8
      volatileMasterBdaddr := Vector.replicate 6 0#8
      reply := 0#8
      usingReportProtocol := true
      idleCount := 500
      refReportData
      lastSetData := Vector.replicate 64 0#8 }

section PowerUp
variable (eeprom : Eeprom)

@[simp] theorem powerUp_eeprom : (powerUp eeprom).eeprom = eeprom := by
  rw [powerUp, readEepromIdentifiers_eq]

@[simp] theorem powerUp_master :
    (powerUp eeprom).volatileMasterBdaddr = Vector.replicate 6 0#8 := by
  rw [powerUp, readEepromIdentifiers_eq]

@[simp] theorem powerUp_reply : (powerUp eeprom).reply = 0#8 := by
  rw [powerUp, readEepromIdentifiers_eq]

@[simp] theorem powerUp_lastSetData :
    (powerUp eeprom).lastSetData = Vector.replicate 64 0#8 := by
  rw [powerUp, readEepromIdentifiers_eq]

@[simp] theorem powerUp_deviceBdaddr :
    (powerUp eeprom).volatileDeviceBdaddr = eeprom.deviceBdaddr := by
  rw [powerUp, readEepromIdentifiers_eq]

@[simp] theorem powerUp_vendorID :
    (powerUp eeprom).vendorID = readIdentifier eeprom.vendorId 0x03EB := by
  rw [powerUp, readEepromIdentifiers_eq]

@[simp] theorem powerUp_productID :
    (powerUp eeprom).productID = readIdentifier eeprom.productId 0x2042 := by
  rw [powerUp, readEepromIdentifiers_eq]

end PowerUp

/-- The eighteen bytes of `DeviceDescriptor`, sent as the device descriptor. -/
def deviceDescriptor (d : Device) : List U8 :=
  [18, 0x01] ++ wordBytes 0x0200 ++ [0x00, 0x00, 0x00, 64] ++ wordBytes d.vendorID ++
    wordBytes d.productID ++ wordBytes 0x0100 ++ [0x01, 0x02, 0, 1]

/-- The EEPROM as it is programmed. -/
def programmedEeprom : Eeprom :=
  { vendorId := #v[0xEB, 0x03]
    productId := #v[0x42, 0x20]
    deviceBdaddr := #v[0x01, 0x02, 0x03, 0x04, 0x05, 0x06] }

/-- What happens to the emulator between two statements of `main`'s loops: a
request, one of the writes to the PS3 button, or a loss of power. -/
inductive Event
  | request (r : ControlRequest)
  | psButton (value : U8)
  | powerCycle
  deriving DecidableEq, Repr

/-- `RefReportData.buffer[4]`, as `main` writes it. -/
def Device.writePsButton (d : Device) (value : U8) : Device :=
  { d with refReportData := d.refReportData.set 4 value }

def Device.handle (d : Device) : Event → Except Fault (Device × List InData)
  | .request r => unhandledControlRequest d r
  | .psButton value => .ok (d.writePsButton value, [])
  | .powerCycle => .ok (powerUp d.eeprom, [])

/-- The emulator as a machine; a fault ends what the source says of it. -/
def emulator : Machine (Except Fault Device) Event InData where
  step s e :=
    match s with
    | .error fault => (.error fault, [])
    | .ok d =>
        match d.handle e with
        | .ok (d, sent) => (.ok d, sent)
        | .error fault => (.error fault, [])

end DiyPs3Controller.SixpairEmu
