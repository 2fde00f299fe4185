import Mathlib.Data.List.Induction
import DiyPs3Controller.Firmware.KeyControls
import DiyPs3Controller.Ps2.ScancodeRoundTrip

/-!
# Overlapping direction keys

The driver does not keep track of which keys are held. A control shared by
several keys shows what the last event of its group wrote: the direction of the
key pressed last, until any key of the group goes up.
-/

namespace DiyPs3Controller.Rollover

open UsbJoystick MouseDriver KeyboardDriver Events KeyControls ScancodeRoundTrip

/-- The last event of a key is a press. -/
def Held (scancodes : List U16) (code : U8) : Prop :=
  lastWrite (KeyGroup.own code).written false scancodes = true

instance (scancodes : List U16) (code : U8) : Decidable (Held scancodes code) :=
  inferInstanceAs (Decidable (_ = _))

variable {α : Type}

/-- The last event that belongs to one of the keys. -/
def lastEvent (g : KeyGroup α) (scancodes : List U16) : Option U16 :=
  (scancodes.filter fun scancode => decide (scancode ∈ g.rows.map Prod.fst)).getLast?

/-- Only this key of its group is held. -/
def OnlyHeld (g : KeyGroup α) (scancodes : List U16) (key : U8 × α) : Prop :=
  ∀ other ∈ g.keys, Held scancodes other.1 ↔ other.1 = key.1

instance (g : KeyGroup α) (scancodes : List U16) (key : U8 × α) :
    Decidable (OnlyHeld g scancodes key) :=
  inferInstanceAs (Decidable (∀ _ ∈ _, _))

/-- With no key held the control is neutral, and with one it shows this key. -/
def FollowsHeld (g : KeyGroup α) (scancodes : List U16) (shown : α) : Prop :=
  ((∀ key ∈ g.keys, ¬ Held scancodes key.1) → shown = g.neutral) ∧
    ∀ key ∈ g.keys, OnlyHeld g scancodes key → shown = key.2

/-- With no key held the control is neutral, and with one it shows this key as
long as no other key of the group has gone up since, and is neutral otherwise. -/
def FollowsLast (g : KeyGroup α) (scancodes : List U16) (shown : α) : Prop :=
  ((∀ key ∈ g.keys, ¬ Held scancodes key.1) → shown = g.neutral) ∧
    ∀ key ∈ g.keys, OnlyHeld g scancodes key →
      shown = if lastEvent g scancodes = some (kbKeyPress key.1) then key.2 else g.neutral

theorem press_fields (code : U8) :
    evaEventTrigger (kbKeyPress code) = 0#8 ∧ evaEventValue (kbKeyPress code) = code :=
  (flagged_fields 0#2 code).2

theorem release_fields (code : U8) :
    evaEventTrigger (kbKeyRelease code) = 1#8 ∧ evaEventValue (kbKeyRelease code) = code :=
  (flagged_fields 1#2 code).2

theorem press_ne_release (code code' : U8) : kbKeyPress code ≠ kbKeyRelease code' := by
  intro h
  have htrigger := congrArg evaEventTrigger h
  rw [(press_fields code).1, (release_fields code').1] at htrigger
  exact absurd htrigger (by decide)

/-- The keys of a group write their own values. -/
def Distinct (g : KeyGroup α) : Prop :=
  ∀ key ∈ g.keys, g.written (kbKeyPress key.1) = some key.2 ∧
    g.written (kbKeyRelease key.1) = some g.neutral

instance [DecidableEq α] (g : KeyGroup α) : Decidable (Distinct g) :=
  inferInstanceAs (Decidable (∀ _ ∈ _, _))

theorem own_distinct (code : U8) : Distinct (KeyGroup.own code) := by
  intro key hkey
  obtain rfl : key = (code, true) := List.mem_singleton.mp hkey
  have hne : (kbKeyRelease code == kbKeyPress code) = false :=
    beq_eq_false_iff_ne.mpr (press_ne_release code code).symm
  simp [KeyGroup.written, KeyGroup.rows, KeyGroup.own, List.lookup_cons, hne]

section Group
variable {g : KeyGroup α} {scancode : U16}

theorem mem_rows_iff : scancode ∈ g.rows.map Prod.fst ↔
    ∃ key ∈ g.keys, scancode = kbKeyPress key.1 ∨ scancode = kbKeyRelease key.1 := by
  simp [KeyGroup.rows, List.map_flatMap]

/-- What belongs to a key of the group belongs to the group. -/
theorem own_written_of_other (hother : scancode ∉ g.rows.map Prod.fst) {key : U8 × α}
    (hkey : key ∈ g.keys) : (KeyGroup.own key.1).written scancode = none := by
  apply KeyGroup.written_eq_none
  rw [mem_rows_iff] at hother ⊢
  rintro ⟨other, hown, hscancode⟩
  obtain rfl : other = (key.1, true) := List.mem_singleton.mp hown
  exact hother ⟨key, hkey, hscancode⟩

/-- A press shows the value of its key, whichever of the group's keys is held alone. -/
theorem followsLast_of_press (hg : Distinct g) {key : U8 × α} (hkey : key ∈ g.keys)
    {scancodes : List U16} (hlast : lastEvent g scancodes = some (kbKeyPress key.1))
    (hheld : Held scancodes key.1) : FollowsLast g scancodes key.2 := by
  refine ⟨fun hnone => absurd hheld (hnone key hkey), ?_⟩
  intro other hother honly
  have hcode : key.1 = other.1 := (honly key hkey).mp hheld
  have hvalue : key.2 = other.2 := by
    have hwritten := (hg key hkey).1
    rw [hcode, (hg other hother).1] at hwritten
    exact (Option.some.inj hwritten).symm
  rw [hlast, if_pos (by rw [hcode]), hvalue]

/-- After a release the control is neutral. -/
theorem followsLast_of_release {scancodes : List U16} {code : U8}
    (hlast : lastEvent g scancodes = some (kbKeyRelease code)) :
    FollowsLast g scancodes g.neutral := by
  refine ⟨fun _ => rfl, ?_⟩
  intro other hother honly
  have hne : lastEvent g scancodes ≠ some (kbKeyPress other.1) := by
    rw [hlast]
    exact fun h => press_ne_release other.1 code (Option.some.inj h).symm
  rw [if_neg hne]

/-- The last event of a group decides what its control shows. -/
theorem followsLast_run (hg : Distinct g) (scancodes : List U16) :
    FollowsLast g scancodes (lastWrite g.written g.neutral scancodes) := by
  induction scancodes using List.reverseRecOn with
  | nil =>
      refine ⟨fun _ => rfl, ?_⟩
      intro key hkey honly
      have hheld : Held [] key.1 := (honly key hkey).mpr rfl
      exact absurd hheld Bool.false_ne_true
  | append_singleton before scancode ih =>
      rw [lastWrite_concat]
      by_cases hrow : scancode ∈ g.rows.map Prod.fst
      · have hlast : lastEvent g (before ++ [scancode]) = some scancode := by
          simp [lastEvent, List.filter_append, hrow]
        obtain ⟨key, hkey, rfl | rfl⟩ := mem_rows_iff.mp hrow
        · have hheld : Held (before ++ [kbKeyPress key.1]) key.1 := by
            rw [Held, lastWrite_concat, (own_distinct key.1 (key.1, true) List.mem_cons_self).1]
            rfl
          rw [(hg key hkey).1]
          exact followsLast_of_press hg hkey hlast hheld
        · rw [(hg key hkey).2]
          exact followsLast_of_release hlast
      · have hheld : ∀ key ∈ g.keys,
            (Held (before ++ [scancode]) key.1 ↔ Held before key.1) := by
          intro key hkey
          rw [Held, lastWrite_concat, own_written_of_other hrow hkey]
          rfl
        have hlast : lastEvent g (before ++ [scancode]) = lastEvent g before := by
          simp [lastEvent, List.filter_append, hrow]
        rw [g.written_eq_none hrow, Option.getD_none]
        constructor
        · intro hnone
          exact ih.1 fun key hkey h => hnone key hkey ((hheld key hkey).mpr h)
        · intro key hkey honly
          rw [hlast]
          apply ih.2 key hkey
          intro other hother
          exact (hheld other hother).symm.trans (honly other hother)

end Group

/-- From a neutral controller and all keys up, after any sequence of scancodes,
each of the three groups of direction keys is neutral when none of its keys is
held, and when exactly one is held it shows that key if the last event of the
group is its press and is neutral if another key of the group went up later. -/
theorem directions_follow_last (kb : Keyboard) (ms : Mouse) (scancodes : List U16) :
    let after := (scancodeMachine.state (neutralStart kb ms) scancodes).joy
    FollowsLast stickX scancodes after.axisX ∧
      FollowsLast stickY scancodes after.axisY ∧
      FollowsLast dPad scancodes (hat after) := by
  intro after
  have hx : after.axisX = lastWrite stickX.written stickX.neutral scancodes :=
    xControl.read_run (neutralStart kb ms) scancodes
  have hy : after.axisY = lastWrite stickY.written stickY.neutral scancodes :=
    yControl.read_run (neutralStart kb ms) scancodes
  have hneutral : hat usbJoystickRaz = dPad.neutral := by decide
  have hhat : hat after = lastWrite dPad.written dPad.neutral scancodes := by
    rw [← hneutral]
    exact hatControl.read_run (neutralStart kb ms) scancodes
  obtain ⟨hdx, hdy, hdpad⟩ : Distinct stickX ∧ Distinct stickY ∧ Distinct dPad := by decide
  rw [hx, hy, hhat]
  exact ⟨followsLast_run hdx scancodes, followsLast_run hdy scancodes,
    followsLast_run hdpad scancodes⟩

/-- `A` goes down, then `D` goes down and up. -/
def tapAcross : List U16 := [kbKeyPress aKey, kbKeyPress dKey, kbKeyRelease dKey]

theorem directions_follow_last_tapAcross :
    OnlyHeld stickX tapAcross (aKey, 0x00#8) ∧
      (scancodeMachine.state (neutralStart kbInit msInit) tapAcross).joy.axisX =
        if lastEvent stickX tapAcross = some (kbKeyPress aKey) then 0x00#8 else 0x80#8 :=
  ⟨by decide +kernel, (directions_follow_last kbInit msInit tapAcross).1.2 (aKey, 0x00#8)
    (by decide) (by decide +kernel)⟩

/-- With `A` still held alone the stick is back in the middle. -/
theorem tapAcross_neutral :
    ¬ ∀ (kb : Keyboard) (ms : Mouse) (scancodes : List U16),
      let after := (scancodeMachine.state (neutralStart kb ms) scancodes).joy
      FollowsHeld stickX scancodes after.axisX ∧
        FollowsHeld stickY scancodes after.axisY ∧
        FollowsHeld dPad scancodes (hat after) := by
  intro h
  obtain ⟨⟨-, hfollows⟩, -⟩ := h kbInit msInit tapAcross
  have hshown := hfollows (aKey, 0x00#8) (by decide) (by decide +kernel)
  revert hshown
  decide +kernel

end DiyPs3Controller.Rollover
