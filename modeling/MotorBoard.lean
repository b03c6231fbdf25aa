import MotorBoard.Bytes.Basic
import MotorBoard.Bytes.Binary
import MotorBoard.Checksum
import MotorBoard.Crc32
import MotorBoard.Text.Utf8
import MotorBoard.Text.Messages
import MotorBoard.Bytes.Field
import MotorBoard.Bytes.Image
import MotorBoard.Error
import MotorBoard.Slave
import MotorBoard.Call
import MotorBoard.Bus.Telegram
import MotorBoard.Bus.Link
import MotorBoard.Bus.SyncManager
import MotorBoard.Guarded
import MotorBoard.Mailbox.Command
import MotorBoard.Mailbox.Limits
import MotorBoard.Mailbox.State
import MotorBoard.Mailbox.Channel
import MotorBoard.ProcessData.Command
import MotorBoard.ProcessData.Status
import MotorBoard.Record.ActuatorInfo
import MotorBoard.Record.HeatingConfig
import MotorBoard.Record.ConfigInfo
import MotorBoard.Record.UserConfig
import MotorBoard.Record.SafetyStatus
import MotorBoard.Record.DiagnosticsInfo
import MotorBoard.Eeprom.SpiCommand
import MotorBoard.Eeprom.Programmer
import MotorBoard.Cycle.Machine
import MotorBoard.Diagnostics.Collected
import MotorBoard.Diagnostics.Report
import MotorBoard.Hardware
import MotorBoard.Models
import MotorBoard.Device.Basic
import MotorBoard.Device.Cycle
import MotorBoard.Device.Collect
import MotorBoard.Device.BringUp
import MotorBoard.Device.Monitor
import MotorBoard.Board.Memory
import MotorBoard.Board.Basic
import MotorBoard.Board.Execute
import MotorBoard.Board.Exchange
import MotorBoard.Bench.Tap
import MotorBoard.Bench.StandIn
import MotorBoard.Bench.Script
import MotorBoard.Bench.Trace
import MotorBoard.Bench.Session
import MotorBoard.Proofs.Call.Triple
import MotorBoard.Proofs.Bus.Retry
import MotorBoard.Proofs.Board.Conduct
import MotorBoard.Proofs.Board.Wire
import MotorBoard.Proofs.Board.Ranges
import MotorBoard.Proofs.Checksum
import MotorBoard.Proofs.Crc32
import MotorBoard.Proofs.Mailbox.Header
import MotorBoard.Proofs.Mailbox.Codec
import MotorBoard.Proofs.Board.Frames
import MotorBoard.Proofs.Board.Commands
import MotorBoard.Proofs.Mailbox.Polling
import MotorBoard.Proofs.Mailbox.Transfers
import MotorBoard.Proofs.Mailbox.Fetching
import MotorBoard.Proofs.Mailbox.Reading
import MotorBoard.Proofs.Mailbox.Writing
import MotorBoard.Proofs.Mailbox.Keeping
import MotorBoard.Proofs.Mailbox.Recovery
import MotorBoard.Proofs.Call.Spending
import MotorBoard.Proofs.Cycle.Verdict
import MotorBoard.Proofs.Device.Verifying
import MotorBoard.Proofs.Device.Output
import MotorBoard.Proofs.Device.Interlock
import MotorBoard.Proofs.Mailbox.Executing
import MotorBoard.Proofs.Board.Engine
import MotorBoard.Proofs.Mailbox.Sequence
import MotorBoard.Proofs.Mailbox.Undisturbed
import MotorBoard.Proofs.Eeprom.Transfers
import MotorBoard.Proofs.Eeprom.Undisturbed
import MotorBoard.Proofs.Eeprom.Pages
import MotorBoard.Proofs.Eeprom.Readback
import MotorBoard.Proofs.Mailbox.Responders
import MotorBoard.Proofs.Mailbox.Success
import MotorBoard.Proofs.Call.Agreement
import MotorBoard.Proofs.Board.Twins
import MotorBoard.Proofs.Mailbox.Pairs
import MotorBoard.Proofs.Mailbox.Splitting
import MotorBoard.Proofs.Mailbox.Handshakes
import MotorBoard.Proofs.Mailbox.Reposting
import MotorBoard.Proofs.Record.Checks
import MotorBoard.Proofs.Record.Corruption
import MotorBoard.Proofs.Device.BringUp
import MotorBoard.Proofs.Device.Collecting
import MotorBoard.Proofs.Device.Offset
import MotorBoard.Proofs.Device.Restart
import MotorBoard.Proofs.Device.HandOver
import MotorBoard.Proofs.Device.Totals
import MotorBoard.Proofs.Device.Reset
import MotorBoard.Proofs.Device.Inference
import MotorBoard.Proofs.Device.Learning
import MotorBoard.Proofs.Device.Claiming
import MotorBoard.Proofs.Cycle.Drops
import MotorBoard.Proofs.Cycle.Jumps
import MotorBoard.Proofs.Cycle.Sticky
import MotorBoard.Proofs.Cycle.Lockout
import MotorBoard.Proofs.Eeprom.Polling
import MotorBoard.Proofs.Mailbox.Patience
import MotorBoard.Proofs.Mailbox.Working
import MotorBoard.Proofs.Mailbox.Counting
import MotorBoard.Proofs.Mailbox.Accounts
import MotorBoard.Proofs.Mailbox.Journal
import MotorBoard.Proofs.Mailbox.Numbering
import MotorBoard.Proofs.Mailbox.Traffic
import MotorBoard.Proofs.Device.Machine
import MotorBoard.Proofs.Device.Announcing
import MotorBoard.Proofs.Device.Unreadable
import MotorBoard.Proofs.Numbers.Zeros
import MotorBoard.Proofs.Numbers.Steps
import MotorBoard.Proofs.Device.Temperatures
import MotorBoard.Proofs.Device.Current
import MotorBoard.Proofs.Device.Reporting
import MotorBoard.Proofs.Record.RoundTrips
import MotorBoard.Proofs.Text.Fields
import MotorBoard.Proofs.Record.Fields
import MotorBoard.Proofs.Record.Setters
