import DiyPs3Controller.Ps2.StartupSequence

/-!
# The startup transcript

Whenever the filter has reached the end of its table, what it has sent since
it entered the table is the whole startup sequence for the settings in force.
-/

namespace DiyPs3Controller.StartupTranscript

open MouseDriver StartupSequence

/-- The startup commands for a configuration. -/
def startupBytes (c : Config) : List U8 :=
  [0xFF#8, 0xFF#8, 0xFF#8, 0xF3#8, 200#8, 0xF3#8, 100#8, 0xF3#8, 80#8, 0xF2#8, 0xE8#8,
    c.resolution.setWidth 8, if c.scale = 1#2 then 0xE6#8 else 0xE7#8, 0xF3#8, c.frequency, 0xF4#8]

/-- All rows together send the startup commands. -/
theorem sentBefore_rows (c : Config) : sentBefore c rows = startupBytes c := by
  simp [sentBefore, answers, rows, msStateTable, List.range_succ, reply, startupBytes]

/-- A filter at the end of its table is past the last row. -/
theorem atRow_rows {s : Logged} (h : Tracked s)
    (hend : s.mouse.filter.state = s.mouse.filter.size) : AtRow s rows := by
  have hstate : s.mouse.filter.state = 52#8 := hend.trans h.size
  rcases h.progress with herror | ⟨k, hrow⟩
  · rw [hstate] at herror
    exact absurd herror (by decide)
  · have hle := hrow.le_rows
    have heq : k = rows := by
      have hk := hrow.state
      rw [hstate] at hk
      simp only [rows] at hle ⊢
      bv_omega
    exact heq ▸ hrow

/-- In every run from power-on, a filter at the end of its table, which is at
52, has sent exactly the startup commands for the current configuration. -/
theorem streaming_transcript (inputs : List FilterInput)
    (hend : (loggedMachine.state powerOn inputs).mouse.filter.state =
      (loggedMachine.state powerOn inputs).mouse.filter.size) :
    (loggedMachine.state powerOn inputs).mouse.filter.size = 52#8 ∧
      (loggedMachine.state powerOn inputs).log.sent =
        startupBytes (loggedMachine.state powerOn inputs).mouse.config := by
  have h := tracked_run inputs
  exact ⟨h.size, (atRow_rows h hend).answered.trans (sentBefore_rows _)⟩

/-- A mouse that acknowledges every row after a change of the sample rate. -/
def acknowledgedStartup : List FilterInput :=
  .setFrequency 40#8 :: targets.map .scancode

theorem streaming_transcript_acknowledged :
    (loggedMachine.state powerOn acknowledgedStartup).mouse.filter.size = 52#8 ∧
      (loggedMachine.state powerOn acknowledgedStartup).log.sent =
        startupBytes (loggedMachine.state powerOn acknowledgedStartup).mouse.config :=
  streaming_transcript acknowledgedStartup (by decide +kernel)

end DiyPs3Controller.StartupTranscript
