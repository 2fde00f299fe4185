import DiyPs3Controller.Firmware.Events

/-!
# Held keys and their controls

Some keys drive controls that the mouse driver writes as well. Seen through
the bits of one control, every joystick call acts on these bits alone, so an
event either leaves them as they are or shows them cleared in its report.
-/

namespace DiyPs3Controller.HeldControls

open UsbJoystick MouseDriver KeyboardDriver Events

/-- What a call does to the bits under a mask. -/
def onMask (mask v : U16) : JoyCall → U16
  | .press button => v ||| (button &&& mask)
  | .release button => v &&& ~~~(button &&& mask)
  | .pressDir dir => (v &&& 0xFFF0#16) ||| (dir &&& mask)
  | .moveX _ | .moveY _ | .moveZrz _ _ | .send => v

@[simp] theorem onMask_send (mask v : U16) : onMask mask v .send = v := rfl

/-- Running calls on the bits under a mask; the outputs are what the reports show of them. -/
def maskMachine (mask : U16) : Machine U16 JoyCall U16 where
  step v call := (onMask mask v call, if call = .send then [v] else [])

theorem apply_mask (mask : U16) (j : Joystick) (call : JoyCall) :
    (call.apply j).buttons &&& mask = onMask mask (j.buttons &&& mask) call := by
  cases call with
  | press button => ext i; simp [JoyCall.apply, onMask]; grind
  | release button => ext i; simp [JoyCall.apply, onMask]; grind
  | pressDir dir => ext i; simp [JoyCall.apply, onMask]; grind
  | moveX x => rfl
  | moveY y => rfl
  | moveZrz z rz => rfl
  | send => rfl

/-- The bits under a mask run on their own. -/
theorem mask_run (mask : U16) (j : Joystick) (calls : List JoyCall) :
    (joyMachine.state j calls).buttons &&& mask =
        (maskMachine mask).state (j.buttons &&& mask) calls ∧
      (joyMachine.outputs j calls).map (fun report => report.buttons &&& mask) =
        (maskMachine mask).outputs (j.buttons &&& mask) calls := by
  have hsim := Machine.simulation (M := joyMachine) (N := maskMachine mask)
    (f := fun report => some (report.buttons &&& mask)) (g := some)
    (fun j v => j.buttons &&& mask = v)
    (by
      rintro j v call rfl
      refine ⟨apply_mask mask j call, ?_⟩
      by_cases hsend : call = .send <;> simp [maskMachine, hsend])
    (rfl : j.buttons &&& mask = j.buttons &&& mask) calls
  simpa using hsim

/-- None of the calls changes the bits `v` under a mask. -/
def Keeps (mask v : U16) (calls : List JoyCall) : Prop := ∀ call ∈ calls, onMask mask v call = v

instance (mask v : U16) (calls : List JoyCall) : Decidable (Keeps mask v calls) :=
  inferInstanceAs (Decidable (∀ _ ∈ _, _))

theorem keeps_run {mask v : U16} {calls : List JoyCall} (h : Keeps mask v calls) :
    (maskMachine mask).state v calls = v ∧
      (∀ o ∈ (maskMachine mask).outputs v calls, o = v) ∧
      (.send ∈ calls → v ∈ (maskMachine mask).outputs v calls) := by
  induction calls with
  | nil => simp
  | cons call rest ih =>
      obtain ⟨hcall, hrest⟩ := List.forall_mem_cons.mp h
      obtain ⟨hstate, hout, hsend⟩ := ih hrest
      have hstep : (maskMachine mask).step v call = (v, if call = .send then [v] else []) := by
        simp [maskMachine, hcall]
      refine ⟨by rw [Machine.state_cons, hstep, hstate], ?_, ?_⟩
      · intro o ho
        rw [Machine.outputs_cons, hstep, List.mem_append] at ho
        rcases ho with hnow | hlater
        · split at hnow
          · exact List.mem_singleton.mp hnow
          · exact absurd hnow List.not_mem_nil
        · exact hout o hlater
      · intro hmem
        rw [Machine.outputs_cons, hstep, List.mem_append]
        rcases List.mem_cons.mp hmem with rfl | hlater
        · exact Or.inl (by simp)
        · exact Or.inr (hsend hlater)

/-- The keys whose controls the mouse driver writes too. -/
inductive HeldKey
  | g
  | t
  | f
  | d1
  | d2
  | d3
  | d4
  deriving DecidableEq, Repr

namespace HeldKey

def code : HeldKey → U8
  | .g => gKey
  | .t => tKey
  | .f => fKey
  | .d1 => d1Key
  | .d2 => d2Key
  | .d3 => d3Key
  | .d4 => d4Key

/-- The bits of the button word that the control of the key takes up. -/
def mask : HeldKey → U16
  | .g => r2Button
  | .t => l2Button
  | .f => rightHatButton
  | .d1 | .d2 | .d3 | .d4 => 0x000F#16

/-- What these bits show while the control is asserted. -/
def value : HeldKey → U16
  | .g => r2Button
  | .t => l2Button
  | .f => rightHatButton
  | .d1 => upButton
  | .d2 => rightButton
  | .d3 => leftButton
  | .d4 => downButton

/-- The keys that drive the same control. -/
def sharing : HeldKey → List U8
  | .g => [gKey]
  | .t => [tKey]
  | .f => [fKey]
  | .d1 | .d2 | .d3 | .d4 => [d1Key, d2Key, d3Key, d4Key]

/-- An event of the key itself, or of another D-pad key when it is one. -/
def Own (key : HeldKey) : Event → Prop
  | .scancode scancode =>
      ∃ code ∈ key.sharing, scancode = kbKeyPress code ∨ scancode = kbKeyRelease code
  | _ => False

instance (key : HeldKey) (e : Event) : Decidable (key.Own e) :=
  match e with
  | .scancode _ => inferInstanceAs (Decidable (∃ _ ∈ _, _))
  | .packet _ | .idleTimeout => inferInstanceAs (Decidable False)

/-- A joystick state in which the control is asserted. -/
def Held (key : HeldKey) (j : Joystick) : Prop := j.buttons &&& key.mask = key.value

instance (key : HeldKey) (j : Joystick) : Decidable (key.Held j) :=
  inferInstanceAs (Decidable (_ = _))

/-- The mouse events that clear the control: R2 and L2 are released by an idle
timeout and by a packet with no wheel movement, RIGHT_HAT when the middle
button goes up, and the D-pad direction by an idle timeout. -/
def Clears (d : Dispatch) : HeldKey → Event → Prop
  | _, .scancode _ => False
  | .g, .packet packet | .t, .packet packet => packet.z = 0#8
  | .f, .packet packet => packet.middle = false ∧ d.middle = true
  | .d1, .packet _ | .d2, .packet _ | .d3, .packet _ | .d4, .packet _ => False
  | key, .idleTimeout => key ≠ .f

instance (d : Dispatch) (key : HeldKey) (e : Event) : Decidable (Clears d key e) :=
  match key, e with
  | .g, .packet _ | .t, .packet _ => inferInstanceAs (Decidable (_ = _))
  | .f, .packet _ => inferInstanceAs (Decidable (_ ∧ _))
  | .d1, .packet _ | .d2, .packet _ | .d3, .packet _ | .d4, .packet _ =>
      inferInstanceAs (Decidable False)
  | .g, .scancode _ | .t, .scancode _ | .f, .scancode _ | .d1, .scancode _ | .d2, .scancode _
  | .d3, .scancode _ | .d4, .scancode _ => inferInstanceAs (Decidable False)
  | .g, .idleTimeout | .t, .idleTimeout | .f, .idleTimeout | .d1, .idleTimeout | .d2, .idleTimeout
  | .d3, .idleTimeout | .d4, .idleTimeout => inferInstanceAs (Decidable (_ ≠ _))

end HeldKey

open HeldKey

section Event
variable {key : HeldKey} {d : Dispatch}

/-- Every case of the key switch that is not the key's own leaves the control alone. -/
theorem keyCases_keep :
    ∀ entry ∈ keyCases, onMask key.mask key.value entry.2 = key.value ∨
      key.Own (.scancode entry.1) := by
  cases key <;> decide +kernel

theorem scancode_keeps {scancode : U16} (hown : ¬ key.Own (.scancode scancode)) :
    Keeps key.mask key.value (joyCalls d (.scancode scancode)) := by
  apply forall_keySwitch
  · intro call hcase
    exact (keyCases_keep (scancode, call) hcase).resolve_right hown
  · rfl

theorem idle_keeps (hclear : ¬ Clears d key .idleTimeout) :
    Keeps key.mask key.value (joyCalls d .idleTimeout) := by
  have hkey : key = .f := by
    cases key <;> simp_all [Clears]
  subst hkey
  rw [joyCalls]
  decide

/-- A call on a button outside the mask changes nothing under it. -/
theorem onMask_disjoint {mask button : U16} (v : U16) (hmask : button &&& mask = 0#16) :
    onMask mask v (.press button) = v ∧ onMask mask v (.release button) = v := by
  simp only [onMask, hmask]
  exact ⟨BitVec.or_zero, by rw [BitVec.not_zero, BitVec.and_allOnes]⟩

/-- The calls of a button edge are on that button. -/
theorem buttonEdge_keeps {mask v button : U16} (hmask : button &&& mask = 0#16)
    (remembered now : Bool) : Keeps mask v (buttonEdge remembered now button).2 := by
  obtain ⟨hpress, hrelease⟩ := onMask_disjoint v hmask
  exact forall_buttonEdge hpress hrelease remembered now

/-- The wheel touches the two buttons alone. -/
theorem wheel_keeps {mask v : U16} (hr2 : r2Button &&& mask = 0#16)
    (hl2 : l2Button &&& mask = 0#16) (z : U8) : Keeps mask v (wheel z) :=
  forall_wheel (onMask_disjoint v hr2) (onMask_disjoint v hl2) z

/-- The calls of a packet, part by part. -/
theorem packet_keeps_of_parts {mask v : U16} {packet : Packet}
    (hleft : Keeps mask v (buttonEdge d.left packet.left r1Button).2)
    (hright : Keeps mask v (buttonEdge d.right packet.right l1Button).2)
    (hmiddle : Keeps mask v (buttonEdge d.middle packet.middle rightHatButton).2)
    (hwheel : Keeps mask v (wheel packet.z)) :
    Keeps mask v (joyCalls d (.packet packet)) :=
  forall_eventDispatcher (fun _ _ => rfl) hleft hright hmiddle hwheel rfl

theorem packet_keeps {packet : Packet} (hclear : ¬ Clears d key (.packet packet)) :
    Keeps key.mask key.value (joyCalls d (.packet packet)) := by
  cases key with
  | g =>
      apply packet_keeps_of_parts <;> try exact buttonEdge_keeps (by decide) _ _
      rcases wheel_moved hclear with h | h <;> rw [h] <;> decide
  | t =>
      apply packet_keeps_of_parts <;> try exact buttonEdge_keeps (by decide) _ _
      rcases wheel_moved hclear with h | h <;> rw [h] <;> decide
  | f =>
      apply packet_keeps_of_parts
      · exact buttonEdge_keeps (by decide) _ _
      · exact buttonEdge_keeps (by decide) _ _
      · have hedge : packet.middle = false → d.middle = false := by
          simpa [Clears] using hclear
        cases hm : packet.middle with
        | false => rw [hedge hm]; decide
        | true => cases d.middle <;> decide
      · exact wheel_keeps (by decide) (by decide) _
  | d1 | d2 | d3 | d4 =>
      apply packet_keeps_of_parts <;>
        first
        | exact buttonEdge_keeps (by decide) _ _
        | exact wheel_keeps (by decide) (by decide) _

/-- Calls that first change the masked bits and then keep them show the change in a report. -/
theorem changed_reported {mask v w : U16} {pre mid post : List JoyCall} (hpre : Keeps mask v pre)
    (hmid : (maskMachine mask).state v mid = w) (hpost : Keeps mask w post)
    (hsend : .send ∈ post) : w ∈ (maskMachine mask).outputs v (pre ++ (mid ++ post)) := by
  rw [Machine.outputs_append, (keeps_run hpre).1, Machine.outputs_append, hmid]
  exact List.mem_append_right _ (List.mem_append_right _ ((keeps_run hpost).2.2 hsend))

theorem keeps_cons_append {mask v : U16} (z rz : U8) {xs ys : List JoyCall}
    (hxs : Keeps mask v xs) (hys : Keeps mask v ys) :
    Keeps mask v (.moveZrz z rz :: (xs ++ ys)) :=
  List.forall_mem_cons.mpr ⟨rfl, List.forall_mem_append.mpr ⟨hxs, hys⟩⟩

/-- A packet without wheel movement shows both wheel buttons released. -/
theorem wheel_reported (mask : U16) {v : U16} (hr1 : r1Button &&& mask = 0#16)
    (hl1 : l1Button &&& mask = 0#16) (hhat : rightHatButton &&& mask = 0#16) {packet : Packet}
    (hz : packet.z = 0#8) :
    (maskMachine mask).state v (wheel 0#8) ∈
      (maskMachine mask).outputs v (joyCalls d (.packet packet)) := by
  have hleft := buttonEdge_keeps (v := v) hr1 d.left packet.left
  have hright := buttonEdge_keeps (v := v) hl1 d.right packet.right
  have hmiddle := buttonEdge_keeps (v := v) hhat d.middle packet.middle
  have hbefore := keeps_cons_append (val (vectorX packet) 3) (0xFF#8 - val (vectorY packet) 3)
    hleft (List.forall_mem_append.mpr ⟨hright, hmiddle⟩)
  have hafter : Keeps mask ((maskMachine mask).state v (wheel packet.z)) [.send] := by
    simp [Keeps]
  have hreport := changed_reported hbefore rfl hafter List.mem_cons_self
  rw [hz] at hreport
  simpa [joyCalls, eventDispatcher, eventDispatcherBy, hz] using hreport

/-- A packet whose middle button has gone up shows RIGHT_HAT released. -/
theorem middle_reported {packet : Packet} (hup : packet.middle = false) (hdown : d.middle = true) :
    0#16 ∈ (maskMachine rightHatButton).outputs rightHatButton (joyCalls d (.packet packet)) := by
  have hleft : Keeps rightHatButton rightHatButton (buttonEdge d.left packet.left r1Button).2 :=
    buttonEdge_keeps (by decide) _ _
  have hright : Keeps rightHatButton rightHatButton (buttonEdge d.right packet.right l1Button).2 :=
    buttonEdge_keeps (by decide) _ _
  have hwheel : Keeps rightHatButton 0#16 (wheel packet.z) :=
    wheel_keeps (by decide) (by decide) packet.z
  have hbefore := keeps_cons_append (val (vectorX packet) 3) (0xFF#8 - val (vectorY packet) 3)
    hleft hright
  have hedge : (maskMachine rightHatButton).state rightHatButton
      (buttonEdge true false rightHatButton).2 = 0#16 := by decide
  have hafter : Keeps rightHatButton 0#16 (wheel packet.z ++ [.send]) :=
    List.forall_mem_append.mpr ⟨hwheel, by simp⟩
  have hreport := changed_reported hbefore hedge hafter (by simp)
  simpa [joyCalls, eventDispatcher, eventDispatcherBy, hup, hdown] using hreport

/-- An idle timeout shows everything but RIGHT_HAT released. -/
theorem idle_reported (hkey : key ≠ .f) :
    ∃ o ∈ (maskMachine key.mask).outputs key.value idleCalls, o ≠ key.value := by
  cases key with
  | g | t => exact ⟨0#16, by decide +kernel, by decide⟩
  | f => exact absurd rfl hkey
  | d1 | d2 | d3 | d4 => exact ⟨noButton, by decide +kernel, by decide⟩

/-- An event that clears the control shows it cleared in its report. -/
theorem cleared_reported {e : Event} (hclear : Clears d key e) :
    ∃ o ∈ (maskMachine key.mask).outputs key.value (joyCalls d e), o ≠ key.value := by
  cases e with
  | scancode scancode => cases key <;> exact hclear.elim
  | idleTimeout =>
      have hkey : key ≠ .f := by
        rintro rfl
        exact hclear rfl
      exact idle_reported hkey
  | packet packet =>
      cases key with
      | g =>
          have hstill : packet.z = 0#8 := hclear
          exact ⟨_, wheel_reported HeldKey.g.mask (by decide) (by decide) (by decide) hstill,
            by decide⟩
      | t =>
          have hstill : packet.z = 0#8 := hclear
          exact ⟨_, wheel_reported HeldKey.t.mask (by decide) (by decide) (by decide) hstill,
            by decide⟩
      | f =>
          have hparts : packet.middle = false ∧ d.middle = true := hclear
          exact ⟨0#16, middle_reported hparts.1 hparts.2, by decide⟩
      | d1 | d2 | d3 | d4 => exact hclear.elim

end Event

section Run
variable {key : HeldKey} {fw : Firmware} {e : Event}

theorem handle_mask (mask : U16) (fw : Firmware) (e : Event) :
    (handle fw e).1.joy.buttons &&& mask =
        (maskMachine mask).state (fw.joy.buttons &&& mask) (joyCalls fw.ms.dispatch e) ∧
      (handle fw e).2.map (fun report => report.buttons &&& mask) =
        (maskMachine mask).outputs (fw.joy.buttons &&& mask) (joyCalls fw.ms.dispatch e) := by
  rw [(handle_joy fw e).1, (handle_joy fw e).2]
  exact mask_run mask fw.joy _

/-- Without a clearing event the control stays asserted, in the state and in the report. -/
theorem held_step (hheld : key.Held fw.joy) (hown : ¬ key.Own e)
    (hclear : ¬ Clears fw.ms.dispatch key e) :
    key.Held (handle fw e).1.joy ∧ ∀ report ∈ (handle fw e).2, key.Held report := by
  have hkeeps : Keeps key.mask key.value (joyCalls fw.ms.dispatch e) := by
    cases e with
    | scancode scancode => exact scancode_keeps hown
    | packet packet => exact packet_keeps hclear
    | idleTimeout => exact idle_keeps hclear
  obtain ⟨hstate, hout, -⟩ := keeps_run hkeeps
  obtain ⟨hjoy, hreports⟩ := handle_mask key.mask fw e
  have hvalue : fw.joy.buttons &&& key.mask = key.value := hheld
  rw [hvalue] at hjoy hreports
  refine ⟨hjoy.trans hstate, fun report hreport => hout _ ?_⟩
  rw [← hreports]
  exact List.mem_map_of_mem hreport

/-- One event leaves the control asserted in its reports exactly when it does not clear it. -/
theorem held_step_iff (hheld : key.Held fw.joy) (hown : ¬ key.Own e) :
    (∀ report ∈ (handle fw e).2, key.Held report) ↔ ¬ Clears fw.ms.dispatch key e := by
  constructor
  · intro hall hclear
    have hvalue : fw.joy.buttons &&& key.mask = key.value := hheld
    obtain ⟨o, ho, hne⟩ := cleared_reported hclear
    rw [← hvalue, ← (handle_mask key.mask fw e).2] at ho
    obtain ⟨report, hreport, rfl⟩ := List.mem_map.mp ho
    exact hne (hall report hreport)
  · exact fun hclear => (held_step hheld hown hclear).2

theorem press_button (button buttons : U16) :
    onMask button (buttons &&& button) (.press button) = button := by
  ext i
  simp [onMask]

theorem press_direction {dir : U16} (hdir : dir &&& 0x000F#16 = dir) (buttons : U16) :
    onMask 0x000F#16 (buttons &&& 0x000F#16) (.pressDir dir) = dir := by
  have hlow : 0x000F#16 &&& 0xFFF0#16 = 0#16 := by decide
  rw [onMask, hdir, BitVec.and_assoc, hlow, BitVec.and_zero, BitVec.zero_or]

/-- The case of a key press sets the bits of its control, whatever they were. -/
theorem press_call (key : HeldKey) :
    ∃ call, keySwitch (kbKeyPress key.code) = [call, .send] ∧ call ≠ .send ∧
      ∀ buttons, onMask key.mask (buttons &&& key.mask) call = key.value := by
  cases key with
  | g => exact ⟨_, rfl, by simp, press_button r2Button⟩
  | t => exact ⟨_, rfl, by simp, press_button l2Button⟩
  | f => exact ⟨_, rfl, by simp, press_button rightHatButton⟩
  | d1 => exact ⟨_, rfl, by simp, press_direction (by decide)⟩
  | d2 => exact ⟨_, rfl, by simp, press_direction (by decide)⟩
  | d3 => exact ⟨_, rfl, by simp, press_direction (by decide)⟩
  | d4 => exact ⟨_, rfl, by simp, press_direction (by decide)⟩

/-- Pressing the key asserts its control from every state. -/
theorem press_held (key : HeldKey) (fw : Firmware) :
    key.Held (handle fw (.scancode (kbKeyPress key.code))).1.joy ∧
      ∀ report ∈ (handle fw (.scancode (kbKeyPress key.code))).2, key.Held report := by
  obtain ⟨call, hcalls, hne, hvalue⟩ := press_call key
  obtain ⟨hjoy, hreports⟩ := handle_mask key.mask fw (.scancode (kbKeyPress key.code))
  rw [joyCalls, hcalls] at hjoy hreports
  have hrun : (maskMachine key.mask).state (fw.joy.buttons &&& key.mask) [call, .send] =
        key.value ∧
      ∀ o ∈ (maskMachine key.mask).outputs (fw.joy.buttons &&& key.mask) [call, .send],
        o = key.value := by
    simp [maskMachine, hne, hvalue]
  refine ⟨hjoy.trans hrun.1, fun report hreport => hrun.2 _ ?_⟩
  rw [← hreports]
  exact List.mem_map_of_mem hreport

end Run

/-- From the press of a key on, every report asserts its control as long as no
mouse event clears it; the first event that does shows it cleared. -/
theorem held_reports_iff (key : HeldKey) (fw : Firmware) (events : List Event)
    (hfree : ∀ e ∈ events, ¬ key.Own e) :
    (∀ report ∈ eventMachine.outputs fw (.scancode (kbKeyPress key.code) :: events),
        key.Held report) ↔
      eventMachine.Along (fun fw e => ¬ Clears fw.ms.dispatch key e)
        (eventMachine.step fw (.scancode (kbKeyPress key.code))).1 events := by
  obtain ⟨hheld, hreports⟩ := press_held key fw
  rw [Machine.outputs_cons, List.forall_mem_append]
  have hiff := Machine.forall_outputs_iff_along (M := eventMachine)
    (I := fun fw => key.Held fw.joy) (N := fun e => ¬ key.Own e)
    (P := fun fw e => ¬ Clears fw.ms.dispatch key e) (Q := key.Held)
    (fun fw e hheld hown hclear => (held_step hheld hown hclear).1)
    (fun fw e hheld hown => held_step_iff hheld hown) hheld hfree
  exact ⟨fun h => hiff.mp h.2, fun h => ⟨hreports, hiff.mpr h⟩⟩

/-- The firmware after start-up. -/
def started : Firmware := { kb := kbInit, ms := msInit, joy := usbJoystickRaz }

/-- With `G` held, a wheel movement, `Space` and a still mouse: the last report is clear of R2. -/
theorem held_reports_iff_stillWheel :
    (∀ report ∈ eventMachine.outputs started (.scancode (kbKeyPress HeldKey.g.code) ::
        [.packet { size := 4#8, bytes := [0x08#8, 0#8, 0#8, 1#8] },
          .scancode (kbKeyPress spaceKey),
          .packet { size := 4#8, bytes := [0x08#8, 5#8, 0#8, 0#8] }]), HeldKey.g.Held report) ↔
      eventMachine.Along (fun fw e => ¬ Clears fw.ms.dispatch .g e)
        (eventMachine.step started (.scancode (kbKeyPress HeldKey.g.code))).1
        [.packet { size := 4#8, bytes := [0x08#8, 0#8, 0#8, 1#8] },
          .scancode (kbKeyPress spaceKey),
          .packet { size := 4#8, bytes := [0x08#8, 5#8, 0#8, 0#8] }] :=
  held_reports_iff .g started _ (by decide)

/-- An idle timeout releases the D-pad direction of a key that is still down. -/
theorem idleTimeout_not_held :
    ¬ ∀ (key : HeldKey) (fw : Firmware) (events : List Event), (∀ e ∈ events, ¬ key.Own e) →
      ∀ report ∈ eventMachine.outputs fw (.scancode (kbKeyPress key.code) :: events),
        key.Held report := by
  intro h
  have hreport := h .d1 started [.idleTimeout] (by decide)
    { usbJoystickRaz with buttons := noButton } (by decide +kernel)
  exact absurd hreport (by decide)

end DiyPs3Controller.HeldControls
