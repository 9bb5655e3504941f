import VoxShift.Theory.Machine
import VoxShift.Theory.Changes
import VoxShift.Theory.Crash
import VoxShift.Theory.Framing
import VoxShift.Theory.Channel
import VoxShift.Theory.Mirror
import VoxShift.Theory.Transit
import VoxShift.Theory.Unwinding
import VoxShift.Theory.Watch
import VoxShift.Theory.Record
import VoxShift.Core.State
import VoxShift.Core.Coordinator
import VoxShift.Core.Pending
import VoxShift.Core.Snapshot
import VoxShift.Core.Issue
import VoxShift.Core.Turns
import VoxShift.Core.Faulted
import VoxShift.Core.Settled
import VoxShift.Core.InitialSync
import VoxShift.Core.Repeat
import VoxShift.Core.Conflict
import VoxShift.Core.Pair
import VoxShift.Core.Peers
import VoxShift.Core.Feedback
import VoxShift.Core.Flipping
import VoxShift.Core.Convergence
import VoxShift.Core.System
import VoxShift.Core.Display
import VoxShift.Core.Absence
import VoxShift.Core.Stamp
import VoxShift.Core.Deadlines
import VoxShift.Core.Token
import VoxShift.Discord.Client
import VoxShift.Discord.Frame
import VoxShift.Discord.Auth
import VoxShift.Discord.Sessions
import VoxShift.Discord.Run
import VoxShift.Discord.Chunking
import VoxShift.Discord.ReadFrame
import VoxShift.Discord.ErrorReply
import VoxShift.Discord.Restore
import VoxShift.Discord.Rotation
import VoxShift.Discord.Pacing
import VoxShift.Discord.Armed
import VoxShift.Discord.Connection
import VoxShift.Storage.Config
import VoxShift.Storage.Kept
import VoxShift.Storage.Reload
import VoxShift.Storage.Document
import VoxShift.Storage.Logging
import VoxShift.Platform.Credentials
import VoxShift.Platform.Overflow
import VoxShift.Platform.SingleInstance
import VoxShift.Vrchat.Osc
import VoxShift.Vrchat.Pulse
import VoxShift.Ui.I18n
import VoxShift.Ui.ViewModel
import VoxShift.App.Worker
import VoxShift.App.Queues
import VoxShift.App.Reconnect
import VoxShift.App.Phases
import VoxShift.App.Delivery
import VoxShift.App.Coordination
import VoxShift.App.Absent
import VoxShift.App.Bridge
import VoxShift.App.Consent
import VoxShift.App.Language
