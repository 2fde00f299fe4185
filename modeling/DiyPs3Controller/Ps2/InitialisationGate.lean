import DiyPs3Controller.Ps2.StartupSequence

/-!
# No input before initialisation completes

Packets should be dispatched only to a filter that has matched every row left
since the last reset. The error state of the filter lies past the table, just
as stream mode does, so a filter that has given up gathers packets again. This
is the only way around the table.
-/

namespace DiyPs3Controller.InitialisationGate

open UsbJoystick MouseDriver StartupSequence

/-- The scancodes since the last reset begin with an acknowledgement of every remaining row. -/
def Acknowledged (log : Log) : Prop :=
  ∃ acks stream, log.scancodes = acks ++ stream ∧ Acks log.row rows acks

/-- The filter has given up. -/
def GivenUp (m : Mouse) : Prop := m.filter.state = 0xFF#8

instance (m : Mouse) : Decidable (GivenUp m) := inferInstanceAs (Decidable (_ = _))

/-- `EventDispatcher` is called only behind the startup sequence. -/
def DispatchGated (s : Logged) (input : FilterInput) : Prop :=
  ∀ packet, .eventDispatcher packet ∈ (loggedMachine.step s input).2 → Acknowledged s.log

/-- One input does not get around the startup sequence: a packet is dispatched
only behind it, and a scancode that finds the filter given up neither enters a
packet nor reaches the joystick. -/
structure GatedAt (s : Logged) (input : FilterInput) : Prop where
  dispatch : DispatchGated s input
  givenUp : ∀ b, input = .scancode b → GivenUp s.mouse →
    (loggedMachine.step s input).1.mouse.packet = s.mouse.packet ∧
      ∀ call, .joy call ∉ (loggedMachine.step s input).2

/-- No input of a run gets around the startup sequence. -/
def Gated (inputs : List FilterInput) : Prop := loggedMachine.Along GatedAt powerOn inputs

/-- A scancode that finds the filter given up has bit 3 clear and finds no packet begun. -/
def SkippedWhenGivenUp (m : Mouse) : FilterInput → Prop
  | .scancode b => GivenUp m → Skipped m b
  | _ => True

instance (m : Mouse) (input : FilterInput) : Decidable (SkippedWhenGivenUp m input) :=
  match input with
  | .scancode _ => inferInstanceAs (Decidable (_ → _))
  | .mouseReset | .setResolution _ | .setFrequency _ | .setScaling _ =>
      inferInstanceAs (Decidable True)

section Step
variable {s : Logged} {input : FilterInput}

/-- In the table the driver calls neither the dispatcher nor the joystick. -/
theorem eventFilter_quiet {m : Mouse} (hin : m.filter.state < m.filter.size) (b : U8) :
    (∀ packet, .eventDispatcher packet ∉ (eventFilter m b).2) ∧
      ∀ call, .joy call ∉ (eventFilter m b).2 := by
  have hstep := eventFilter_step m b
  generalize eventFilter m b = next at hstep ⊢
  cases hstep with
  | accepted hm => simp [answer_calls]
  | retried => simp [resetState, sendByte]
  | gaveUp => simp
  | skipped hp | stored hp | dispatched hp => exact absurd hin hp

theorem resetState_quiet (m : Mouse) (packet : Packet) :
    .eventDispatcher packet ∉ (resetState m).2 := by
  simp [resetState, sendByte]

/-- Only a scancode that is not skipped past the table is dispatched. -/
theorem past_of_dispatch {m : Mouse} {packet : Packet}
    (h : .eventDispatcher packet ∈ (filterMachine.step m input).2) :
    ∃ b, input = .scancode b ∧ Past m ∧ ¬ Skipped m b := by
  cases input with
  | mouseReset => exact absurd h (resetState_quiet _ _)
  | setResolution resolution => exact absurd h (resetState_quiet _ _)
  | setFrequency frequency => exact absurd h (resetState_quiet _ _)
  | setScaling scale => exact absurd h (resetState_quiet _ _)
  | scancode b =>
      have hp : Past m := fun hin => (eventFilter_quiet hin b).1 packet h
      refine ⟨b, rfl, hp, fun hk => ?_⟩
      have hskip : filterMachine.step m (.scancode b) = _ := eventFilter_skip hp hk
      simp [hskip] at h

theorem past_of_givenUp (h : Tracked s) (hg : GivenUp s.mouse) : Past s.mouse := by
  have hstate : s.mouse.filter.state = 0xFF#8 := hg
  rw [Past, hstate, h.size]
  decide

/-- A filter past its table has not given up only behind the last row. -/
theorem acknowledged_of_past (h : Tracked s) (hp : Past s.mouse) (hg : ¬ GivenUp s.mouse) :
    Acknowledged s.log := by
  obtain ⟨k, hrow⟩ := h.progress.resolve_left hg
  have hlast : k = rows := h.last_of_past hp hrow
  obtain ⟨acks, stream, hsplit, hacks, -⟩ := hrow.acknowledged
  exact ⟨acks, stream, hsplit, hlast ▸ hacks⟩

/-- A scancode that is not skipped enters the packet or completes it. -/
theorem taken_of_not_skipped {m : Mouse} {b : U8} (hp : Past m) (hk : ¬ Skipped m b) :
    (eventFilter m b).1.packet ≠ m.packet ∨ .joy .send ∈ (eventFilter m b).2 := by
  have hstep := eventFilter_step m b
  generalize eventFilter m b = next at hstep ⊢
  cases hstep with
  | accepted hm => exact absurd hm.1 hp
  | retried hs | gaveUp hs => exact absurd hs hp
  | skipped _ hskip => exact absurd hskip hk
  | dispatched => exact Or.inr (by simp [eventDispatcher, eventDispatcherBy])
  | stored =>
      left
      intro heq
      have hgrow : m.packet.size + 1#8 = m.packet.size := congrArg Packet.size heq
      bv_omega

/-- An input stays behind the gate exactly when it is skipped in the error state. -/
theorem gatedAt_iff (h : Tracked s) : GatedAt s input ↔ SkippedWhenGivenUp s.mouse input := by
  constructor
  · intro hgate
    cases input with
    | mouseReset => trivial
    | setResolution resolution => trivial
    | setFrequency frequency => trivial
    | setScaling scale => trivial
    | scancode b =>
        intro hg
        obtain ⟨hpacket, hjoy⟩ := hgate.givenUp b rfl hg
        by_contra hk
        rcases taken_of_not_skipped (past_of_givenUp h hg) hk with hgrow | hsend
        · exact hgrow hpacket
        · exact hjoy _ hsend
  · intro hskip
    constructor
    · intro packet hdispatch
      obtain ⟨b, rfl, hp, hk⟩ := past_of_dispatch hdispatch
      exact acknowledged_of_past h hp fun hg => hk (hskip hg)
    · rintro b rfl hg
      have hstep : filterMachine.step s.mouse (.scancode b) = _ :=
        eventFilter_skip (past_of_givenUp h hg) (hskip hg)
      simp [loggedMachine, hstep]

end Step

/-- A run is gated exactly when every scancode that finds the filter given up
has bit 3 clear and finds no packet begun. -/
theorem gated_iff (inputs : List FilterInput) :
    Gated inputs ↔
      loggedMachine.Along (fun s input => SkippedWhenGivenUp s.mouse input) powerOn inputs :=
  Machine.along_congr tracked_step (fun _ _ h => gatedAt_iff h) tracked_powerOn inputs

/-- An acknowledged log has a scancode for every row that was left. -/
theorem Acknowledged.length_le {log : Log} (h : Acknowledged log) :
    rows - log.row ≤ log.scancodes.length := by
  obtain ⟨acks, stream, hsplit, hacks⟩ := h
  have hlen := hacks.length_eq
  simp only [List.length_drop, List.length_take, targets, List.length_map, List.length_range,
    Nat.min_self] at hlen
  rw [hsplit, List.length_append]
  omega

/-- Six wrong bytes make the filter give up; four more bytes are then a packet. -/
def wrongBytesThenPacket : List FilterInput :=
  (List.replicate 6 0x55#8 ++ [0x08#8, 0#8, 0#8, 0#8]).map .scancode

/-- A packet is dispatched although not one row of the table was acknowledged. -/
theorem wrongBytesThenPacket_not_gated :
    ¬ loggedMachine.Along DispatchGated powerOn wrongBytesThenPacket := by
  intro h
  have hlast := (Machine.along_iff_forall_split _ _).mp h
    ((List.replicate 6 0x55#8 ++ [0x08#8, 0#8, 0#8]).map .scancode) (.scancode 0#8) [] rfl
  have hack := hlast { size := 4#8, bytes := [0x08#8, 0#8, 0#8, 0#8] }
    (by decide +kernel)
  have hlen := hack.length_le
  revert hlen
  decide +kernel

end DiyPs3Controller.InitialisationGate
