import SmdControlServer.Interaction.Program
import SmdControlServer.Interaction.Monitor
import SmdControlServer.Interaction.Execution
import SmdControlServer.Interaction.Threads
import SmdControlServer.Interaction.Traces
import SmdControlServer.Interaction.Progress
import SmdControlServer.Interaction.Showing
import SmdControlServer.Interaction.Handles
import SmdControlServer.Interaction.Obedience
import SmdControlServer.Interaction.Watching
import SmdControlServer.Interaction.Environment
import SmdControlServer.Interaction.Shares
import SmdControlServer.Interaction.Budgets
import SmdControlServer.Interaction.Conversation
import SmdControlServer.Device.Triggered
import SmdControlServer.Text.CString
import SmdControlServer.Text.Fields
import SmdControlServer.Text.Numeral
import SmdControlServer.Text.Getopt
import SmdControlServer.Text.Binary
import SmdControlServer.Text.Lines
import SmdControlServer.Server.Main
import SmdControlServer.Server.State
import SmdControlServer.Server.Requests
import SmdControlServer.Server.Utilities
import SmdControlServer.Server.Modbus
import SmdControlServer.Server.MotorCommands
import SmdControlServer.Server.AssembledMove
import SmdControlServer.Server.ManualMode
import SmdControlServer.Server.SocketOps
import SmdControlServer.Server.Workers
import SmdControlServer.Server.Clients
import SmdControlServer.Server.Rules
import SmdControlServer.Drive.Sending
import SmdControlServer.Drive.Writes
import SmdControlServer.Drive.FailedWrites
import SmdControlServer.Drive.RegisterLine
import SmdControlServer.Drive.Reading
import SmdControlServer.Drive.Sessions
import SmdControlServer.Commands.Conversion
import SmdControlServer.Commands.Messages
import SmdControlServer.Commands.Address
import SmdControlServer.Commands.Dispatch
import SmdControlServer.Commands.Parameters
import SmdControlServer.Commands.Decisions
import SmdControlServer.Commands.Programs
import SmdControlServer.Commands.Codes
import SmdControlServer.Commands.LostTokens
import SmdControlServer.Commands.ExactValues
import SmdControlServer.Commands.Registers
import SmdControlServer.Commands.Words
import SmdControlServer.Commands.Tokens
import SmdControlServer.Server.Iteration
import SmdControlServer.Commands.Recognition
import SmdControlServer.Commands.Refusals
import SmdControlServer.Server.Footprint
import SmdControlServer.Commands.Footprint
import SmdControlServer.Commands.Independence
import SmdControlServer.Commands.Reception
import SmdControlServer.Commands.Reports
import SmdControlServer.Upload.Segments
import SmdControlServer.Upload.Profile
import SmdControlServer.Upload.Handshake
import SmdControlServer.Upload.Collection
import SmdControlServer.Upload.SentSegments
import SmdControlServer.Upload.Limits
import SmdControlServer.Upload.Loaded
import SmdControlServer.Commands.Telling
import SmdControlServer.Commands.Errands
import SmdControlServer.Commands.Answers
import SmdControlServer.Upload.StatusBits
import SmdControlServer.Upload.HexStrings
import SmdControlServer.Upload.AbsentItems
import SmdControlServer.Upload.ReadResults
import SmdControlServer.Commands.StopAttempts
import SmdControlServer.Commands.Ranges
import SmdControlServer.Manual.Controller
import SmdControlServer.Manual.Decoding
import SmdControlServer.Manual.Samples
import SmdControlServer.Manual.Calls
import SmdControlServer.Manual.Delivery
import SmdControlServer.Manual.MainThread
import SmdControlServer.Manual.Stopping
import SmdControlServer.Manual.Accounts
import SmdControlServer.Manual.Accounted
import SmdControlServer.Manual.Executions
import SmdControlServer.Manual.LateJogs
import SmdControlServer.Manual.Connection
import SmdControlServer.Manual.Starting
import SmdControlServer.Manual.Traffic
import SmdControlServer.Manual.Ranges
import SmdControlServer.Manual.Misreadings
import SmdControlServer.Manual.Leftovers
import SmdControlServer.Manual.Descriptors
import SmdControlServer.Motor.Commands
import SmdControlServer.Motor.Drive
import SmdControlServer.Motor.Executions
import SmdControlServer.Session.Protocol
import SmdControlServer.Session.Dialogue
import SmdControlServer.Session.Commands
import SmdControlServer.Session.Replies
import SmdControlServer.Session.Turns
import SmdControlServer.Session.Executions
import SmdControlServer.Session.Addressees
import SmdControlServer.Session.Profiles
import SmdControlServer.Startup.Orders
import SmdControlServer.Session.Unfailing
import SmdControlServer.Session.Faults
import SmdControlServer.Sketch.Program
import SmdControlServer.Sketch.File
import SmdControlServer.Sketch.Jogs
import SmdControlServer.BackAndForth.Script
import SmdControlServer.BackAndForth.Turns
import SmdControlServer.BackAndForth.Moves
import SmdControlServer.BackAndForth.Finish
