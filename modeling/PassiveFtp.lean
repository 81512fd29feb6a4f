import PassiveFtp.Arguments
import PassiveFtp.Buffer
import PassiveFtp.Control.Conversation
import PassiveFtp.Control.Frame
import PassiveFtp.Dispatch
import PassiveFtp.Duration
import PassiveFtp.Files.Edit
import PassiveFtp.Files.Name
import PassiveFtp.Files.Path
import PassiveFtp.Files.Resolve
import PassiveFtp.Files.Tree
import PassiveFtp.IoError
import PassiveFtp.Login
import PassiveFtp.Main
import PassiveFtp.Navigation
import PassiveFtp.Net.DataAddress
import PassiveFtp.Net.Ipv4
import PassiveFtp.Net.Ipv6
import PassiveFtp.Net.SocketAddress
import PassiveFtp.Number.Binary64
import PassiveFtp.Number.Shortest
import PassiveFtp.Proofs.Confinement
import PassiveFtp.Proofs.Conversations
import PassiveFtp.Proofs.Framing
import PassiveFtp.Proofs.Handled
import PassiveFtp.Proofs.LoginGate
import PassiveFtp.Proofs.Navigation
import PassiveFtp.Proofs.PassiveLifecycle
import PassiveFtp.Proofs.Places
import PassiveFtp.Proofs.Resolution
import PassiveFtp.Proofs.Runs
import PassiveFtp.Proofs.Sending
import PassiveFtp.Reply
import PassiveFtp.Request
import PassiveFtp.Server
import PassiveFtp.ServerError
import PassiveFtp.Session
import PassiveFtp.Settings
import PassiveFtp.Settings.Json
import PassiveFtp.Settings.Key
import PassiveFtp.Settings.Layers
import PassiveFtp.Settings.Load
import PassiveFtp.Settings.Toml
import PassiveFtp.Settings.Toml.Item
import PassiveFtp.Settings.Toml.Moment
import PassiveFtp.Settings.Toml.Scalar
import PassiveFtp.Settings.Toml.Section
import PassiveFtp.Settings.Toml.Token
import PassiveFtp.Settings.Value
import PassiveFtp.Text.Ascii
import PassiveFtp.Text.Blank
import PassiveFtp.Text.Cased
import PassiveFtp.Text.Combining
import PassiveFtp.Text.Decimal
import PassiveFtp.Text.Hex
import PassiveFtp.Text.Lowercase
import PassiveFtp.Text.Quoted
import PassiveFtp.Text.Unprintable
import PassiveFtp.Text.Utf8
import PassiveFtp.Transfer.File
import PassiveFtp.Transfer.Listing
import PassiveFtp.Transfer.Parameters
import PassiveFtp.Transfer.Passive
import PassiveFtp.Transfer.Sink
import PassiveFtp.Proofs.AsciiBytes
import PassiveFtp.Proofs.ShownPaths
import PassiveFtp.Proofs.ReplyEncoding
import PassiveFtp.Proofs.ReplyLines
import PassiveFtp.Proofs.ReplyTable
import PassiveFtp.Proofs.ListedPlaces
import PassiveFtp.Proofs.AlikeTrees
import PassiveFtp.Proofs.OutsideUnseen
import PassiveFtp.Proofs.SinkReach
import PassiveFtp.Proofs.TruthfulReplies
import PassiveFtp.Proofs.HeldConversations
import PassiveFtp.Proofs.ControlLines
import PassiveFtp.Proofs.UsableNames
import PassiveFtp.Proofs.SessionsApart
import PassiveFtp.Proofs.InertLines
import PassiveFtp.Proofs.SinkAnswers
import PassiveFtp.Proofs.FileOutcomes
import PassiveFtp.Proofs.ListingBytes
import PassiveFtp.Proofs.FailingWriter
import PassiveFtp.Proofs.SessionChanges
import PassiveFtp.Proofs.Targets
import PassiveFtp.Proofs.LexicalResolution
import PassiveFtp.Proofs.WayBack
import PassiveFtp.Proofs.ResolversAgree
import PassiveFtp.Proofs.Climbing
import PassiveFtp.Proofs.AddressTuples
import PassiveFtp.Proofs.AccountLogin
import PassiveFtp.Proofs.CommandGrammar
import PassiveFtp.Proofs.SettingsLayers
import PassiveFtp.Proofs.Allocation
import PassiveFtp.Proofs.IllFormedParts
import PassiveFtp.Proofs.DecodedLines
