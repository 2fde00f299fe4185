import DiyPs3Controller.Foundations.LastWrites
import DiyPs3Controller.Firmware.HeldControls

/-!
# What a sequence of key events leaves on the controls

Every control of the joystick is driven by a few keys. A press of such a key
writes the value of the key, its release writes the neutral value of the
control, and no other scancode touches the control. So after any sequence of
scancodes a control shows what the last event of its own keys wrote.
-/

namespace DiyPs3Controller.KeyControls

open UsbJoystick KeyboardDriver Events HeldControls

/-- Keys that share one control, with the value that a press of each writes; a
release of any of them writes the neutral value. -/
structure KeyGroup (α : Type) where
  keys : List (U8 × α)
  neutral : α

namespace KeyGroup
variable {α : Type} (g : KeyGroup α)

/-- The scancodes of the keys with the values they write. -/
def rows : List (U16 × α) :=
  g.keys.flatMap fun key => [(kbKeyPress key.1, key.2), (kbKeyRelease key.1, g.neutral)]

/-- The value that a scancode writes, if it belongs to one of the keys. -/
def written (scancode : U16) : Option α := g.rows.lookup scancode

/-- The only key of its group. -/
def own (code : U8) : KeyGroup Bool where
  keys := [(code, true)]
  neutral := false

theorem written_eq_none {scancode : U16} (h : scancode ∉ g.rows.map Prod.fst) :
    g.written scancode = none := by
  rw [written, List.lookup_eq_none_iff]
  intro row hrow
  rw [bne_iff_ne]
  rintro rfl
  exact h (List.mem_map_of_mem hrow)

end KeyGroup

/-- A part of the joystick state and the keys that drive it. The key switch
writes it as the keys say and leaves it alone otherwise. -/
structure Control (α : Type) where
  group : KeyGroup α
  read : Joystick → α
  cases_write : ∀ entry ∈ keyCases, ∀ j,
    read (entry.2.apply j) = (group.written entry.1).getD (read j)
  rows_are_cases : ∀ row ∈ group.rows, row.1 ∈ keyCases.map Prod.fst

/-- Scancodes passed to `KB_KeyboardEventFilter` one after the other. -/
def scancodeMachine : Machine Firmware U16 Joystick where
  step fw scancode := handle fw (.scancode scancode)

/-- The key switch on the joystick alone. -/
def switchMachine : Machine Joystick U16 Joystick where
  step j scancode :=
    (joyMachine.state j (keySwitch scancode), joyMachine.outputs j (keySwitch scancode))

/-- Of the keyboard driver only the key switch reaches the joystick. -/
theorem scancodeMachine_joy (fw : Firmware) (scancode : U16) :
    (scancodeMachine.step fw scancode).1.joy = (switchMachine.step fw.joy scancode).1 ∧
      (scancodeMachine.step fw scancode).2 = (switchMachine.step fw.joy scancode).2 :=
  handle_joy fw (.scancode scancode)

namespace Control
variable {α : Type} (c : Control α)

/-- One scancode writes a control as the keys of the control say. -/
theorem read_switch (j : Joystick) (scancode : U16) :
    c.read (switchMachine.step j scancode).1 = (c.group.written scancode).getD (c.read j) := by
  simp only [switchMachine, keySwitch]
  cases h : keyCases.lookup scancode with
  | none =>
      have hrow : scancode ∉ c.group.rows.map Prod.fst := by
        intro hmem
        obtain ⟨row, hrow, rfl⟩ := List.mem_map.mp hmem
        obtain ⟨entry, hentry, heq⟩ := List.mem_map.mp (c.rows_are_cases row hrow)
        have hne := List.lookup_eq_none_iff.mp h entry hentry
        simp [heq] at hne
      rw [c.group.written_eq_none hrow]
      rfl
  | some call =>
      obtain ⟨before, after, hsplit, -⟩ := List.lookup_eq_some_iff.mp h
      have hcase : (scancode, call) ∈ keyCases := by simp [hsplit]
      exact c.cases_write (scancode, call) hcase j

/-- After any scancodes a control shows what the last event of its keys wrote. -/
theorem read_run (fw : Firmware) (scancodes : List U16) :
    c.read (scancodeMachine.state fw scancodes).joy =
      lastWrite c.group.written (c.read fw.joy) scancodes := by
  rw [Machine.state_projection Firmware.joy scancodeMachine_joy]
  exact Machine.state_lastWrite c.read_switch fw.joy scancodes

end Control

/-- What a call writes into the bits under a mask, if it writes them. -/
def maskWrite (mask : U16) : JoyCall → Option U16
  | .press button => if button &&& mask = 0#16 then none else some mask
  | .release button => if button &&& mask = 0#16 then none else some 0#16
  | .pressDir dir => if mask &&& 0xFFF0#16 = mask then none else some (dir &&& mask)
  | .moveX _ | .moveY _ | .moveZrz _ _ | .send => none

/-- A call that writes all of the bits under a mask or none of them. -/
def WritesWhole (mask : U16) : JoyCall → Prop
  | .press button | .release button => button &&& mask = 0#16 ∨ button &&& mask = mask
  | .pressDir dir =>
      mask &&& 0xFFF0#16 = mask ∧ dir &&& mask = 0#16 ∨ mask &&& 0xFFF0#16 = 0#16
  | .moveX _ | .moveY _ | .moveZrz _ _ | .send => True

instance (mask : U16) (call : JoyCall) : Decidable (WritesWhole mask call) :=
  match call with
  | .press _ | .release _ => inferInstanceAs (Decidable (_ ∨ _))
  | .pressDir _ => inferInstanceAs (Decidable (_ ∧ _ ∨ _))
  | .moveX _ | .moveY _ | .moveZrz _ _ | .send => inferInstanceAs (Decidable True)

/-- Such a call writes the bits as `maskWrite` says and leaves them alone otherwise. -/
theorem apply_maskWrite {mask : U16} {call : JoyCall} (h : WritesWhole mask call) (j : Joystick) :
    (call.apply j).buttons &&& mask = (maskWrite mask call).getD (j.buttons &&& mask) := by
  have hsub : j.buttons &&& mask &&& 0xFFF0#16 = j.buttons &&& (mask &&& 0xFFF0#16) :=
    BitVec.and_assoc ..
  rw [apply_mask]
  cases call with
  | press button =>
      simp only [onMask, maskWrite]
      split_ifs with hzero
      · simp [hzero]
      · rw [h.resolve_left hzero, Option.getD_some]
        ext i
        simp
  | release button =>
      simp only [onMask, maskWrite]
      split_ifs with hzero
      · rw [hzero, Option.getD_none]
        exact BitVec.and_allOnes
      · rw [h.resolve_left hzero, Option.getD_some]
        ext i
        simp
  | pressDir dir =>
      simp only [onMask, maskWrite, hsub]
      split_ifs with hwhole
      · rcases h with ⟨-, hdir⟩ | hzero
        · simp [hwhole, hdir]
        · have hmask : mask = 0#16 := hwhole.symm.trans hzero
          simp [hmask]
      · rcases h with ⟨hin, -⟩ | hzero
        · exact absurd hin hwhole
        · simp [hzero]
  | moveX _ | moveY _ | moveZrz _ _ | send => rfl

/-- Whether a button is set. -/
def isDown (button : U16) (j : Joystick) : Bool := j.buttons &&& button == button

/-- The D-pad direction, in the low nibble of the button word. -/
def hat (j : Joystick) : U16 := j.buttons &&& 0x000F#16

/-- The keys that have a button of their own, with these buttons. -/
def buttonKeys : List (U8 × U16) := [
  (spaceKey, crossButton),
  (rightControlKey, circleButton),
  (eKey, triangleButton),
  (rKey, squareButton),
  (leftShiftKey, leftHatButton),
  (escapeKey, startButton),
  (tabKey, selectButton),
  (gKey, r2Button),
  (fKey, rightHatButton),
  (tKey, l2Button)]

/-- `A` and `D` move the left stick sideways. -/
def stickX : KeyGroup U8 where
  keys := [(aKey, 0x00#8), (dKey, 0xFF#8)]
  neutral := 0x80#8

/-- `W` and `S` move the left stick forwards and backwards. -/
def stickY : KeyGroup U8 where
  keys := [(wKey, 0x00#8), (sKey, 0xFF#8)]
  neutral := 0x80#8

/-- `D1` to `D4` choose a direction of the D-pad. -/
def dPad : KeyGroup U16 where
  keys := [(d1Key, upButton), (d2Key, rightButton), (d3Key, leftButton), (d4Key, downButton)]
  neutral := noButton

/-- Tables are checked entry by entry, also where their entries are of a finite type. -/
local instance (priority := high) decidableTable {α : Type} {P : α → Prop} [DecidablePred P]
    (table : List α) : Decidable (∀ entry ∈ table, P entry) :=
  List.decidableBAll P table

theorem buttonKeys_cases : ∀ key ∈ buttonKeys,
    (∀ entry ∈ keyCases, WritesWhole key.2 entry.2 ∧
      (maskWrite key.2 entry.2).map (· == key.2) = (KeyGroup.own key.1).written entry.1) ∧
    ∀ row ∈ (KeyGroup.own key.1).rows, row.1 ∈ keyCases.map Prod.fst := by
  decide +kernel

/-- A button that one key drives. -/
def buttonControl (key : U8 × U16) (h : key ∈ buttonKeys) : Control Bool where
  group := KeyGroup.own key.1
  read := isDown key.2
  cases_write entry hentry j := by
    obtain ⟨hwhole, hwritten⟩ := (buttonKeys_cases key h).1 entry hentry
    have hmask := apply_maskWrite hwhole j
    rw [isDown, hmask, ← hwritten]
    cases maskWrite key.2 entry.2 <;> rfl
  rows_are_cases := (buttonKeys_cases key h).2

theorem dPad_cases : ∀ entry ∈ keyCases, WritesWhole 0x000F#16 entry.2 ∧
    maskWrite 0x000F#16 entry.2 = dPad.written entry.1 := by
  decide +kernel

/-- The D-pad with its four keys. -/
def hatControl : Control U16 where
  group := dPad
  read := hat
  cases_write entry hentry j := by
    obtain ⟨hwhole, hwritten⟩ := dPad_cases entry hentry
    rw [hat, apply_maskWrite hwhole j, hwritten]
    rfl
  rows_are_cases := by decide +kernel

/-- What a call writes to the left stick's two axes and to the right stick. -/
def axisWrites : JoyCall → Option U8 × Option U8 × Option (U8 × U8)
  | .moveX x => (some x, none, none)
  | .moveY y => (none, some y, none)
  | .moveZrz z rz => (none, none, some (z, rz))
  | .press _ | .release _ | .pressDir _ | .send => (none, none, none)

theorem apply_axes (call : JoyCall) (j : Joystick) :
    (call.apply j).axisX = (axisWrites call).1.getD j.axisX ∧
      (call.apply j).axisY = (axisWrites call).2.1.getD j.axisY ∧
      ((call.apply j).axisZ, (call.apply j).axisRz) =
        (axisWrites call).2.2.getD (j.axisZ, j.axisRz) := by
  cases call <;> exact ⟨rfl, rfl, rfl⟩

theorem axis_cases : ∀ entry ∈ keyCases,
    axisWrites entry.2 = (stickX.written entry.1, stickY.written entry.1, none) := by
  decide +kernel

def xControl : Control U8 where
  group := stickX
  read := Joystick.axisX
  cases_write entry hentry j := by
    rw [(apply_axes entry.2 j).1, axis_cases entry hentry]
  rows_are_cases := by decide +kernel

def yControl : Control U8 where
  group := stickY
  read := Joystick.axisY
  cases_write entry hentry j := by
    rw [(apply_axes entry.2 j).2.1, axis_cases entry hentry]
  rows_are_cases := by decide +kernel

/-- No key drives the right stick. -/
def zrzControl : Control (U8 × U8) where
  group := { keys := [], neutral := (0x80#8, 0x80#8) }
  read j := (j.axisZ, j.axisRz)
  cases_write entry hentry j := by
    rw [(apply_axes entry.2 j).2.2, axis_cases entry hentry]
    rfl
  rows_are_cases row hrow := absurd hrow List.not_mem_nil

theorem untouched_cases : ∀ entry ∈ keyCases,
    (WritesWhole r1Button entry.2 ∧ maskWrite r1Button entry.2 = none) ∧
      WritesWhole l1Button entry.2 ∧ maskWrite l1Button entry.2 = none := by
  decide +kernel

/-- No key drives a button that no call of the key switch writes. -/
def untouchedControl (button : U16)
    (h : ∀ entry ∈ keyCases, WritesWhole button entry.2 ∧ maskWrite button entry.2 = none) :
    Control Bool where
  group := { keys := [], neutral := false }
  read := isDown button
  cases_write entry hentry j := by
    obtain ⟨hwhole, hnone⟩ := h entry hentry
    rw [isDown, apply_maskWrite hwhole j, hnone]
    rfl
  rows_are_cases row hrow := absurd hrow List.not_mem_nil

/-- The keys that the key switch names. -/
def mappedKeys : List U8 := [spaceKey, rightControlKey, eKey, rKey, aKey, dKey, wKey, sKey,
  leftShiftKey, escapeKey, tabKey, d1Key, d2Key, d3Key, d4Key, gKey, fKey, tKey]

/-- A press or a release of one of these keys. -/
def Mapped (scancode : U16) : Prop :=
  ∃ code ∈ mappedKeys, scancode = kbKeyPress code ∨ scancode = kbKeyRelease code

instance (scancode : U16) : Decidable (Mapped scancode) := inferInstanceAs (Decidable (∃ _ ∈ _, _))

theorem mapped_iff (scancode : U16) : Mapped scancode ↔ scancode ∈ keyCases.map Prod.fst := by
  have hkeys : keyCases.map Prod.fst =
      mappedKeys.flatMap fun code => [kbKeyPress code, kbKeyRelease code] := by
    decide +kernel
  simp only [hkeys, Mapped, List.mem_flatMap, List.mem_cons, List.not_mem_nil, or_false]

/-- No case of the switch has a send of its own before the one behind it. -/
theorem cases_not_send : ∀ entry ∈ keyCases, entry.2 ≠ .send := by
  decide +kernel

/-- The switch sends once for a mapped scancode and not at all for another one. -/
theorem switch_sends (j : Joystick) (scancode : U16) :
    (switchMachine.step j scancode).2.length = if Mapped scancode then 1 else 0 := by
  simp only [switchMachine, keySwitch, mapped_iff]
  cases h : keyCases.lookup scancode with
  | none =>
      have hnot : scancode ∉ keyCases.map Prod.fst := by
        intro hmem
        obtain ⟨entry, hentry, rfl⟩ := List.mem_map.mp hmem
        have hne := List.lookup_eq_none_iff.mp h entry hentry
        simp at hne
      rw [if_neg hnot]
      rfl
  | some call =>
      obtain ⟨before, after, hsplit, -⟩ := List.lookup_eq_some_iff.mp h
      have hcase : (scancode, call) ∈ keyCases := by simp [hsplit]
      have hcall : call ≠ .send := cases_not_send (scancode, call) hcase
      rw [if_pos (List.mem_map_of_mem (f := Prod.fst) hcase)]
      simp [hcall]

theorem switch_sends_run (j : Joystick) (scancodes : List U16) :
    (switchMachine.outputs j scancodes).length = scancodes.countP fun s => decide (Mapped s) := by
  induction scancodes generalizing j with
  | nil => rfl
  | cons scancode rest ih =>
      rw [Machine.outputs_cons, List.length_append, switch_sends, ih, List.countP_cons,
        Nat.add_comm]
      simp only [decide_eq_true_eq]

/-- From any state, after any sequence of scancodes: each button with a key of
its own is down as the last event of that key says, the left stick and the
D-pad show what the last event of their keys wrote, the other controls are as
before, and there has been one send for each mapped event. -/
theorem scancodes_effect (fw : Firmware) (scancodes : List U16) :
    let after := (scancodeMachine.state fw scancodes).joy
    (∀ key ∈ buttonKeys, isDown key.2 after =
        lastWrite (KeyGroup.own key.1).written (isDown key.2 fw.joy) scancodes) ∧
      after.axisX = lastWrite stickX.written fw.joy.axisX scancodes ∧
      after.axisY = lastWrite stickY.written fw.joy.axisY scancodes ∧
      hat after = lastWrite dPad.written (hat fw.joy) scancodes ∧
      after.axisZ = fw.joy.axisZ ∧
      after.axisRz = fw.joy.axisRz ∧
      isDown r1Button after = isDown r1Button fw.joy ∧
      isDown l1Button after = isDown l1Button fw.joy ∧
      (scancodeMachine.outputs fw scancodes).length =
        scancodes.countP fun scancode => decide (Mapped scancode) := by
  intro after
  have hstick : (after.axisZ, after.axisRz) = (fw.joy.axisZ, fw.joy.axisRz) :=
    (zrzControl.read_run fw scancodes).trans (lastWrite_of_none _ _ fun _ _ => rfl)
  have hr1 : isDown r1Button after = isDown r1Button fw.joy :=
    ((untouchedControl r1Button fun entry h => (untouched_cases entry h).1).read_run fw
      scancodes).trans (lastWrite_of_none _ _ fun _ _ => rfl)
  have hl1 : isDown l1Button after = isDown l1Button fw.joy :=
    ((untouchedControl l1Button fun entry h => (untouched_cases entry h).2).read_run fw
      scancodes).trans (lastWrite_of_none _ _ fun _ _ => rfl)
  have hsends : (scancodeMachine.outputs fw scancodes).length =
      scancodes.countP fun scancode => decide (Mapped scancode) := by
    rw [Machine.outputs_projection Firmware.joy scancodeMachine_joy]
    exact switch_sends_run fw.joy scancodes
  refine ⟨?_, xControl.read_run fw scancodes, yControl.read_run fw scancodes,
    hatControl.read_run fw scancodes, congrArg Prod.fst hstick, congrArg Prod.snd hstick, hr1,
    hl1, hsends⟩
  intro key hkey
  exact (buttonControl key hkey).read_run fw scancodes

end DiyPs3Controller.KeyControls
