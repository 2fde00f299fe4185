import DiyPs3Controller.Firmware.Events
import DiyPs3Controller.Firmware.HeldControls
import DiyPs3Controller.Firmware.HostReports
import DiyPs3Controller.Firmware.KeyControls
import DiyPs3Controller.Firmware.MouseButtons
import DiyPs3Controller.Firmware.ReportLayout
import DiyPs3Controller.Firmware.Rollover
import DiyPs3Controller.Firmware.TypedKeys
import DiyPs3Controller.Firmware.WheelButtons
import DiyPs3Controller.Foundations.BitLists
import DiyPs3Controller.Foundations.BoundedQueues
import DiyPs3Controller.Foundations.Budgets
import DiyPs3Controller.Foundations.Buffers
import DiyPs3Controller.Foundations.ChangeFeeds
import DiyPs3Controller.Foundations.Channels
import DiyPs3Controller.Foundations.CircularWindows
import DiyPs3Controller.Foundations.DeadZones
import DiyPs3Controller.Foundations.Deadlines
import DiyPs3Controller.Foundations.FixedFields
import DiyPs3Controller.Foundations.Framing
import DiyPs3Controller.Foundations.HidReports
import DiyPs3Controller.Foundations.Histories
import DiyPs3Controller.Foundations.LastWrites
import DiyPs3Controller.Foundations.Loops
import DiyPs3Controller.Foundations.Machines
import DiyPs3Controller.Foundations.Numerals
import DiyPs3Controller.Foundations.Packets
import DiyPs3Controller.Foundations.Patterns
import DiyPs3Controller.Foundations.Progress
import DiyPs3Controller.Foundations.Stopwatches
import DiyPs3Controller.Foundations.Watchdogs
import DiyPs3Controller.Ps2.Avr
import DiyPs3Controller.Ps2.ControlEndpoint
import DiyPs3Controller.Ps2.FilterInvariant
import DiyPs3Controller.Ps2.FilterRuns
import DiyPs3Controller.Ps2.FrameIntegrity
import DiyPs3Controller.Ps2.Frames
import DiyPs3Controller.Ps2.GetDescriptor
import DiyPs3Controller.Ps2.IdleRecentring
import DiyPs3Controller.Ps2.InitialisationGate
import DiyPs3Controller.Ps2.KeyboardDriver
import DiyPs3Controller.Ps2.LedCommands
import DiyPs3Controller.Ps2.LineDrivers
import DiyPs3Controller.Ps2.LockLeds
import DiyPs3Controller.Ps2.LockProtocol
import DiyPs3Controller.Ps2.MouseAxes
import DiyPs3Controller.Ps2.MouseDriver
import DiyPs3Controller.Ps2.MouseReset
import DiyPs3Controller.Ps2.MouseSchedules
import DiyPs3Controller.Ps2.PacketStream
import DiyPs3Controller.Ps2.ParityCheck
import DiyPs3Controller.Ps2.PointingDevice
import DiyPs3Controller.Ps2.ReceiveRecovery
import DiyPs3Controller.Ps2.ReceiveStreams
import DiyPs3Controller.Ps2.Reception
import DiyPs3Controller.Ps2.ResendBound
import DiyPs3Controller.Ps2.RingBuffer
import DiyPs3Controller.Ps2.RingRefinement
import DiyPs3Controller.Ps2.ScancodeRoundTrip
import DiyPs3Controller.Ps2.ScancodeStream
import DiyPs3Controller.Ps2.SendHandshake
import DiyPs3Controller.Ps2.SendTimeout
import DiyPs3Controller.Ps2.StandardMouse
import DiyPs3Controller.Ps2.StartupBound
import DiyPs3Controller.Ps2.StartupProtocol
import DiyPs3Controller.Ps2.StartupSequence
import DiyPs3Controller.Ps2.StartupTranscript
import DiyPs3Controller.Ps2.Transmission
import DiyPs3Controller.Ps2.UsbJoystick
import DiyPs3Controller.Ps2.UsbSend
import DiyPs3Controller.SixpairEmu.AddressEntry
import DiyPs3Controller.SixpairEmu.ControlRegisters
import DiyPs3Controller.SixpairEmu.ControlStream
import DiyPs3Controller.SixpairEmu.Customizer
import DiyPs3Controller.SixpairEmu.Disclosure
import DiyPs3Controller.SixpairEmu.Emulator
import DiyPs3Controller.SixpairEmu.HostConversation
import DiyPs3Controller.SixpairEmu.Identity
import DiyPs3Controller.SixpairEmu.IdleReports
import DiyPs3Controller.SixpairEmu.InterruptReports
import DiyPs3Controller.SixpairEmu.MainProgram
import DiyPs3Controller.SixpairEmu.Pairing
import DiyPs3Controller.SixpairEmu.ReportIds
import DiyPs3Controller.SixpairEmu.Requests
import DiyPs3Controller.SixpairEmu.SetReportLoop
import DiyPs3Controller.SixpairEmu.ShortSetReport
import DiyPs3Controller.SixpairEmu.UsbDevice
import DiyPs3Controller.Tools.AclFrames
import DiyPs3Controller.Tools.DeadZoneRemoval
import DiyPs3Controller.Tools.L2capProxy
import DiyPs3Controller.Tools.LatencyResults
import DiyPs3Controller.Tools.SerialBench
import DiyPs3Controller.Tools.SixProxy
import DiyPs3Controller.Tools.Sixemulat
import DiyPs3Controller.Tools.SixemulatUsb
