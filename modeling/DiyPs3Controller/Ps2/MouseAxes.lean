import DiyPs3Controller.Ps2.MouseDriver

/-!
# The right stick

A mouse packet carries two signed 9-bit movements, and `EventDispatcher` turns
each of them into the position of one axis. The law of an axis is stated over
the integers; `Val` follows it for every movement but `-256`, whose absolute
value does not fit in the eight bits that `AbsoluteValue` has for it.
-/

namespace DiyPs3Controller.MouseAxes

open UsbJoystick MouseDriver

/-- What the dispatcher works on: the joystick and the remembered buttons. -/
structure Pad where
  joy : Joystick
  dispatch : Dispatch
  deriving DecidableEq, Repr

/-- The state after a packet. -/
def Pad.dispatched (s : Pad) (mul : Nat) (p : Packet) : Pad where
  joy := joyMachine.state s.joy (eventDispatcherBy mul s.dispatch p).2
  dispatch := (eventDispatcherBy mul s.dispatch p).1

/-- The neutral joystick with no button remembered. -/
def padStart : Pad where
  joy := usbJoystickRaz
  dispatch := { left := false, right := false, middle := false }

/-- The signed 9-bit movement of a sign bit and a byte. -/
def movement (sign : Bool) (data : U8) : Int := data.toNat - if sign then 256 else 0

def xMovement (p : Packet) : Int := movement p.xsign p.x
def yMovement (p : Packet) : Int := movement p.ysign p.y

/-- How far an axis is to leave its centre for a movement of so many counts. -/
def shift (mul counts : Nat) : Nat := if counts = 0 then 0 else mul * counts + 25

/-- The position of an axis that is to leave its centre so far. -/
def position (negative : Bool) (shift : Nat) : Int :=
  if shift ≤ 126 then (if negative then 128 - shift else 128 + shift)
  else if negative then 0 else 255

/-- The position of an axis for a signed movement. -/
def axisLaw (mul : Nat) (d : Int) : Int := position (d < 0) (shift mul d.natAbs)

section Law
variable {mul : Nat}

theorem shift_zero : shift mul 0 = 0 := if_pos rfl

theorem axisLaw_zero : axisLaw mul 0 = 128 := rfl

theorem shift_mono {m n : Nat} (h : m ≤ n) : shift mul m ≤ shift mul n := by
  have hmul : mul * m ≤ mul * n := Nat.mul_le_mul_left mul h
  unfold shift
  split_ifs <;> omega

theorem dead_zone_lt_shift (hmul : 1 ≤ mul) {n : Nat} (hn : n ≠ 0) : 25 < shift mul n := by
  have hpos : 1 ≤ mul * n := Nat.mul_pos hmul (Nat.pos_of_ne_zero hn)
  rw [shift, if_neg hn]
  omega

theorem axisLaw_neg (hmul : 1 ≤ mul) {d : Int} (hd : d < 0) : axisLaw mul d < 103 := by
  have hshift := dead_zone_lt_shift hmul (Int.natAbs_ne_zero.mpr hd.ne)
  rw [axisLaw, position, decide_eq_true hd, if_pos rfl, if_pos rfl]
  split <;> omega

theorem axisLaw_pos (hmul : 1 ≤ mul) {d : Int} (hd : 0 < d) : 153 < axisLaw mul d := by
  have hshift := dead_zone_lt_shift hmul (Int.natAbs_ne_zero.mpr hd.ne')
  rw [axisLaw, position, decide_eq_false (Int.not_lt_of_ge hd.le), if_neg Bool.false_ne_true,
    if_neg Bool.false_ne_true]
  split <;> omega

/-- A faster movement never leaves the axis less far on its side. -/
theorem axisLaw_mono (hmul : 1 ≤ mul) {d e : Int} (h : d ≤ e) : axisLaw mul d ≤ axisLaw mul e := by
  rcases Int.lt_trichotomy d 0 with hd | rfl | hd
  · have hneg := axisLaw_neg hmul hd
    rcases Int.lt_trichotomy e 0 with he | rfl | he
    · have hshift : shift mul e.natAbs ≤ shift mul d.natAbs := shift_mono (by omega)
      simp only [axisLaw, position, decide_eq_true hd, decide_eq_true he, if_true]
      split_ifs <;> omega
    · rw [axisLaw_zero]
      omega
    · have hpos := axisLaw_pos hmul he
      omega
  · rcases Int.lt_or_eq_of_le h with he | rfl
    · have hpos := axisLaw_pos hmul he
      rw [axisLaw_zero]
      omega
    · exact le_rfl
  · have he : 0 < e := Int.lt_of_lt_of_le hd h
    have hshift : shift mul d.natAbs ≤ shift mul e.natAbs := shift_mono (by omega)
    simp only [axisLaw, position, decide_eq_false (Int.not_lt_of_ge hd.le),
      decide_eq_false (Int.not_lt_of_ge he.le), Bool.false_eq_true, if_false]
    split_ifs <;> omega

end Law

section Source
variable {mul : Nat} {v : MsVector}

/-- `AbsoluteValue` has eight bits for the absolute value. -/
theorem absoluteValue_data (hover : v.overflow = false) :
    (absoluteValue v).data.toNat = (movement v.sign v.data).natAbs % 256 := by
  have hlt := v.data.isLt
  rw [absoluteValue, hover, movement]
  cases v.sign with
  | false =>
      simp only [Bool.false_eq_true, if_false]
      omega
  | true =>
      have hneg : (~~~v.data + 1#8).toNat = (256 - v.data.toNat) % 256 := by bv_omega
      simp only [Bool.false_eq_true, if_false, if_true, hneg]
      omega

/-- `Val` where the multiplication stays below 65536. -/
theorem val_position (hmul : 1 ≤ mul) (hsmall : mul * 255 + 25 < 65536) :
    ((val v mul).toNat : Int) = position v.sign (shift mul v.data.toNat) := by
  have hdata : v.data.toNat ≤ 255 := Nat.le_of_lt_succ v.data.isLt
  have hbound : mul * v.data.toNat ≤ mul * 255 := Nat.mul_le_mul_left mul hdata
  have hzero : mul * v.data.toNat = 0 ↔ v.data.toNat = 0 :=
    ⟨fun h => (Nat.mul_eq_zero.mp h).resolve_left (by omega), fun h => by rw [h, Nat.mul_zero]⟩
  have hidle : actionVwIdle.setWidth 16 = 128#16 := rfl
  simp only [val, position, shift, hidle, actionVwDeadZone, actionVwMaxvector, ← hzero]
  generalize mul * v.data.toNat = scaled at hbound
  by_cases hnone : scaled = 0
  · subst hnone
    cases v.sign <;> rfl
  · have hscaled : BitVec.ofNat 16 scaled ≠ 0#16 := by bv_omega
    rw [if_pos hscaled, if_neg hnone]
    cases v.sign with
    | false =>
        simp only [Bool.false_eq_true, if_false]
        split_ifs <;> bv_omega
    | true =>
        simp only [if_true]
        split_ifs <;> bv_omega

/-- The sign of a movement is its sign bit. -/
theorem movement_neg_iff (sign : Bool) (data : U8) : movement sign data < 0 ↔ sign = true := by
  have hlt := data.isLt
  unfold movement
  cases sign with
  | false => simp
  | true => simp; omega

theorem movement_bounds (sign : Bool) (data : U8) :
    -256 ≤ movement sign data ∧ movement sign data ≤ 255 := by
  have hlt := data.isLt
  unfold movement
  split <;> omega

/-- `Val` of an absolute value follows the law of the axis, except at `-256`,
where it leaves the axis at its centre. -/
theorem val_absoluteValue (hmul : 1 ≤ mul) (hsmall : mul * 255 + 25 < 65536)
    (hover : v.overflow = false) :
    ((val (absoluteValue v) mul).toNat : Int) =
      if movement v.sign v.data = -256 then 128 else axisLaw mul (movement v.sign v.data) := by
  obtain ⟨hlow, hhigh⟩ := movement_bounds v.sign v.data
  have hsign : (absoluteValue v).sign = v.sign := rfl
  rw [val_position hmul hsmall, absoluteValue_data hover, hsign]
  split_ifs with hextreme
  · rw [hextreme]
    show position v.sign (shift mul 0) = 128
    rw [shift_zero]
    cases v.sign <;> rfl
  · have hdecide : decide (movement v.sign v.data < 0) = v.sign := by
      simp only [movement_neg_iff, Bool.decide_eq_true]
    rw [axisLaw, hdecide, Nat.mod_eq_of_lt (by omega)]

/-- With the overflow bit set the multiplier 3 takes the axis to its end. -/
theorem val_overflow (hover : v.overflow = true) :
    val (absoluteValue v) 3 = if v.sign then 0#8 else 255#8 := by
  have hdata : (absoluteValue v).data = 126#8 := by
    rw [absoluteValue, hover]
    rfl
  have hsign : (absoluteValue v).sign = v.sign := rfl
  rw [val, hdata, hsign]
  cases v.sign <;> rfl

end Source

/-- A call that does not move the right stick. -/
def Steady : JoyCall → Prop
  | .moveZrz _ _ => False
  | _ => True

theorem steady_run {calls : List JoyCall} (h : ∀ call ∈ calls, Steady call) (j : Joystick) :
    (joyMachine.state j calls).axisZ = j.axisZ ∧ (joyMachine.state j calls).axisRz = j.axisRz := by
  have hstep : ∀ next call, (next.axisZ = j.axisZ ∧ next.axisRz = j.axisRz) → Steady call →
      ((joyMachine.step next call).1.axisZ = j.axisZ ∧
          (joyMachine.step next call).1.axisRz = j.axisRz) ∧
        ∀ o ∈ (joyMachine.step next call).2, True := by
    intro next call haxes hsteady
    refine ⟨?_, fun _ _ => trivial⟩
    cases call with
    | moveZrz z rz => exact hsteady.elim
    | press _ | release _ | pressDir _ | moveX _ | moveY _ | send => exact haxes
  exact (Machine.run_of_step (I := fun next : Joystick =>
    next.axisZ = j.axisZ ∧ next.axisRz = j.axisRz) hstep ⟨rfl, rfl⟩ h).1

theorem buttonEdge_steady (remembered now : Bool) (button : U16) :
    ∀ call ∈ (buttonEdge remembered now button).2, Steady call :=
  forall_buttonEdge trivial trivial remembered now

theorem wheel_steady (z : U8) : ∀ call ∈ wheel z, Steady call :=
  forall_wheel ⟨trivial, trivial⟩ ⟨trivial, trivial⟩ z

/-- No call of a packet but the first moves the right stick. -/
theorem dispatched_axes (s : Pad) (mul : Nat) (p : Packet) :
    (s.dispatched mul p).joy.axisZ = val (vectorX p) mul ∧
      (s.dispatched mul p).joy.axisRz = 0xFF#8 - val (vectorY p) mul := by
  have hsend : Steady .send := trivial
  have hrest := forall_dispatched (buttonEdge_steady s.dispatch.left p.left r1Button)
    (buttonEdge_steady s.dispatch.right p.right l1Button)
    (buttonEdge_steady s.dispatch.middle p.middle rightHatButton) (wheel_steady p.z) hsend
  exact steady_run hrest
    { s.joy with axisZ := val (vectorX p) mul, axisRz := 0xFF#8 - val (vectorY p) mul }

/-- The position of the horizontal axis after a packet. -/
theorem axisZ_law {mul : Nat} (hmul : 1 ≤ mul) (hsmall : mul * 255 + 25 < 65536) (s : Pad)
    {p : Packet} (hover : p.xoverflow = false) :
    ((s.dispatched mul p).joy.axisZ.toNat : Int) =
      if xMovement p = -256 then 128 else axisLaw mul (xMovement p) := by
  rw [(dispatched_axes s mul p).1]
  exact val_absoluteValue hmul hsmall hover

/-- The vertical axis is turned round within `0` to `255`. -/
theorem axisRz_law (s : Pad) {p : Packet} (hover : p.yoverflow = false) :
    ((s.dispatched 3 p).joy.axisRz.toNat : Int) =
      255 - if yMovement p = -256 then 128 else axisLaw 3 (yMovement p) := by
  have hval : ((val (vectorY p) 3).toNat : Int) =
      if yMovement p = -256 then 128 else axisLaw 3 (yMovement p) :=
    val_absoluteValue (by decide) (by decide) hover
  have hlt := (val (vectorY p) 3).isLt
  rw [(dispatched_axes s 3 p).2, ← hval]
  bv_omega

/-- What a packet is to do to the horizontal axis. -/
structure Deflected (mul : Nat) (p : Packet) : Prop where
  still : p.xoverflow = false → xMovement p = 0 →
    ∀ s : Pad, (s.dispatched mul p).joy.axisZ = 128#8
  right : p.xoverflow = false → 0 < xMovement p →
    ∀ s : Pad, 128 + 25 < (s.dispatched mul p).joy.axisZ.toNat
  left : p.xoverflow = false → xMovement p < 0 →
    ∀ s : Pad, (s.dispatched mul p).joy.axisZ.toNat + 25 < 128
  overflow : p.xoverflow = true → mul = 3 →
    ∀ s : Pad, (s.dispatched mul p).joy.axisZ = if p.xsign then 0#8 else 255#8

/-- Two packets each deflect the axis, and the faster one never less than the slower. -/
structure Proportional (mul : Nat) (p q : Packet) : Prop where
  first : Deflected mul p
  second : Deflected mul q
  monotone : p.xoverflow = false → q.xoverflow = false → xMovement p ≤ xMovement q →
    ∀ s t : Pad, (s.dispatched mul p).joy.axisZ ≤ (t.dispatched mul q).joy.axisZ

/-- A movement whose absolute value `AbsoluteValue` cannot hold. -/
def Unheld (p : Packet) : Prop := p.xoverflow = false ∧ xMovement p = -256

instance (p : Packet) : Decidable (Unheld p) := inferInstanceAs (Decidable (_ ∧ _))

section Proportional
variable {mul : Nat} (hmul : 1 ≤ mul) (hsmall : mul * 255 + 25 < 65536)
include hmul hsmall

theorem deflected_iff (p : Packet) : Deflected mul p ↔ ¬Unheld p := by
  constructor
  · rintro h ⟨hover, hextreme⟩
    have hlow := h.left hover (by omega) padStart
    have hlaw := axisZ_law hmul hsmall padStart hover
    rw [if_pos hextreme] at hlaw
    omega
  · intro hheld
    have hlaw : p.xoverflow = false → ∀ s : Pad,
        ((s.dispatched mul p).joy.axisZ.toNat : Int) = axisLaw mul (xMovement p) := by
      intro hover s
      rw [axisZ_law hmul hsmall s hover, if_neg fun hextreme => hheld ⟨hover, hextreme⟩]
    constructor
    · intro hover hzero s
      have hz := hlaw hover s
      rw [hzero, axisLaw_zero] at hz
      apply BitVec.eq_of_toNat_eq
      exact Int.ofNat_inj.mp hz
    · intro hover hpos s
      have hz := hlaw hover s
      have hfar := axisLaw_pos hmul hpos
      omega
    · intro hover hneg s
      have hz := hlaw hover s
      have hfar := axisLaw_neg hmul hneg
      omega
    · rintro hover rfl s
      rw [(dispatched_axes s 3 p).1]
      exact val_overflow hover

end Proportional

/-- For every multiplier that keeps `Val` below 65536 the horizontal axis follows
the movement exactly when neither packet reports `-256`. -/
theorem proportional_iff {mul : Nat} (hmul : 1 ≤ mul) (hsmall : mul * 255 + 25 < 65536)
    (p q : Packet) : Proportional mul p q ↔ ¬Unheld p ∧ ¬Unheld q := by
  constructor
  · intro h
    exact ⟨(deflected_iff hmul hsmall p).mp h.first, (deflected_iff hmul hsmall q).mp h.second⟩
  · rintro ⟨hp, hq⟩
    refine ⟨(deflected_iff hmul hsmall p).mpr hp, (deflected_iff hmul hsmall q).mpr hq, ?_⟩
    intro hoverP hoverQ hle s t
    have hlawP := axisZ_law hmul hsmall s hoverP
    have hlawQ := axisZ_law hmul hsmall t hoverQ
    rw [if_neg fun hextreme => hp ⟨hoverP, hextreme⟩] at hlawP
    rw [if_neg fun hextreme => hq ⟨hoverQ, hextreme⟩] at hlawQ
    have hmono := axisLaw_mono hmul hle
    rw [BitVec.le_def]
    omega

/-- A slow movement to the left and a fast one to the right. -/
theorem proportional_iff_leftRight :
    let slow : Packet := { size := 4#8, bytes := [0x18#8, 0xFD#8, 0#8, 0#8] }
    let fast : Packet := { size := 4#8, bytes := [0x08#8, 40#8, 0#8, 0#8] }
    Proportional 3 slow fast ↔ ¬Unheld slow ∧ ¬Unheld fast := by
  intro slow fast
  exact proportional_iff (by decide) (by decide) slow fast

/-- The fastest movement to the left leaves the axis at its centre. -/
theorem leftmost_not_proportional :
    ¬∀ (mul : Nat) (p q : Packet), 1 ≤ mul → mul * 255 + 25 < 65536 → Proportional mul p q := by
  intro h
  let leftmost : Packet := { size := 4#8, bytes := [0x18#8, 0#8, 0#8, 0#8] }
  have hleft := (h 3 leftmost leftmost (by decide) (by decide)).first.left (by decide) (by decide)
    padStart
  revert hleft
  decide

/-- Neither overflow bit is set. -/
def NoOverflow (p : Packet) : Prop := p.xoverflow = false ∧ p.yoverflow = false

instance (p : Packet) : Decidable (NoOverflow p) := inferInstanceAs (Decidable (_ ∧ _))

/-- `Val` takes its second branch and sets the axis to one of its ends. -/
def Saturates (v : MsVector) (mul : Nat) : Prop := 126 < shift mul v.data.toNat

/-- The distance of an axis from its centre. -/
def offCentre (axis : U8) : Nat := ((axis.toNat : Int) - 128).natAbs

/-- The vertical axis rests at the centre, and below saturation a vertical
movement deflects it as far as a horizontal one deflects the other axis, and as
far as the opposite one. -/
structure Mirrored (p : Packet) : Prop where
  rest : yMovement p = 0 → ∀ s : Pad, (s.dispatched 3 p).joy.axisRz = actionVwIdle
  sideways : ¬Saturates (vectorY p) 3 → ∀ (s t : Pad) (q : Packet), NoOverflow q →
    xMovement q = yMovement p →
      offCentre (s.dispatched 3 p).joy.axisRz = offCentre (t.dispatched 3 q).joy.axisZ
  opposite : ¬Saturates (vectorY p) 3 → ∀ (s t : Pad) (q : Packet), NoOverflow q →
    yMovement q = -yMovement p →
      offCentre (s.dispatched 3 p).joy.axisRz = offCentre (t.dispatched 3 q).joy.axisRz

theorem saturates_iff {p : Packet} (hover : p.yoverflow = false) :
    Saturates (vectorY p) 3 ↔ 34 ≤ (yMovement p).natAbs ∧ yMovement p ≠ -256 := by
  have hdata : (vectorY p).data.toNat = (yMovement p).natAbs % 256 := absoluteValue_data hover
  obtain ⟨hlow, hhigh⟩ := movement_bounds p.ysign p.y
  have hmovement : yMovement p = movement p.ysign p.y := rfl
  rw [Saturates, shift, hdata, hmovement]
  split_ifs <;> omega

/-- A packet that moves sideways as another one moves upwards or downwards. -/
def turned (p : Packet) : Packet where
  size := 4#8
  bytes := [if p.ysign then 0x10#8 else 0#8, p.y, 0#8, 0#8]

theorem turned_spec (p : Packet) : NoOverflow (turned p) ∧ xMovement (turned p) = yMovement p := by
  have hy : (turned p).x = p.y := rfl
  have hsign : (turned p).xsign = p.ysign := by
    cases h : p.ysign <;> simp [turned, Packet.xsign, Packet.header, h]
  have hover : NoOverflow (turned p) := by
    cases h : p.ysign <;>
      simp [turned, NoOverflow, Packet.xoverflow, Packet.yoverflow, Packet.header, h]
  exact ⟨hover, by rw [xMovement, yMovement, hy, hsign]⟩

/-- The two axes are never as far from their centre for the same movement: the
vertical one is turned round about `127.5`. -/
theorem offCentre_ne {p : Packet} (hover : NoOverflow p) (s t : Pad) :
    offCentre (s.dispatched 3 p).joy.axisRz ≠ offCentre (t.dispatched 3 (turned p)).joy.axisZ := by
  obtain ⟨hturned, hmovement⟩ := turned_spec p
  have hrz := axisRz_law s hover.2
  have hz := axisZ_law (by decide : 1 ≤ 3) (by decide) t hturned.1
  rw [hmovement] at hz
  rw [← hz] at hrz
  unfold offCentre
  omega

/-- Without overflow the vertical axis mirrors the horizontal one only where it
saturates, so that nothing but the end of the axis is asked for. -/
theorem mirrored_iff {p : Packet} (hover : NoOverflow p) :
    Mirrored p ↔ 34 ≤ (yMovement p).natAbs ∧ yMovement p ≠ -256 := by
  rw [← saturates_iff hover.2]
  constructor
  · intro h
    by_contra hfree
    obtain ⟨hturned, hmovement⟩ := turned_spec p
    exact offCentre_ne hover padStart padStart
      (h.sideways hfree padStart padStart (turned p) hturned hmovement)
  · intro hends
    refine ⟨?_, fun hfree => absurd hends hfree, fun hfree => absurd hends hfree⟩
    intro hstill
    rw [saturates_iff hover.2, hstill] at hends
    exact absurd hends.1 (by decide)

/-- A movement of 40 counts upwards. -/
theorem mirrored_iff_upwards :
    let up : Packet := { size := 4#8, bytes := [0x08#8, 0#8, 40#8, 0#8] }
    Mirrored up ↔ 34 ≤ (yMovement up).natAbs ∧ yMovement up ≠ -256 := by
  intro up
  exact mirrored_iff (by decide)

/-- A packet without any movement moves the vertical axis off its centre. -/
theorem still_not_mirrored : ¬∀ p, NoOverflow p → Mirrored p := by
  intro h
  let still : Packet := { size := 4#8, bytes := [0x08#8, 0#8, 0#8, 0#8] }
  have hrest := (h still (by decide)).rest (by decide) padStart
  revert hrest
  decide

end DiyPs3Controller.MouseAxes
