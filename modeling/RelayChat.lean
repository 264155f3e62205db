import RelayChat.Echo
import RelayChat.FileTree
import RelayChat.Main
import RelayChat.Proofs.CommandEffects
import RelayChat.Proofs.DirectoryChanges
import RelayChat.Proofs.FreshRuns
import RelayChat.Proofs.NicknameRegistry
import RelayChat.Proofs.LoginGate
import RelayChat.Proofs.ChannelRegistry
import RelayChat.Proofs.Credentials
import RelayChat.Proofs.Recipients
import RelayChat.Proofs.LineSegments
import RelayChat.Proofs.ChannelDelivery
import RelayChat.Proofs.ChannelReplicas
import RelayChat.Proofs.MultiplexerActions
import RelayChat.Proofs.Journal
import RelayChat.Proofs.ServerRuns
import RelayChat.Proofs.PendingChanges
import RelayChat.Proofs.EventProtocol
import RelayChat.Proofs.PasswordRejection
import RelayChat.Proofs.OutputDelivery
import RelayChat.Proofs.OwedLines
import RelayChat.Proofs.MessageOrigins
import RelayChat.Proofs.Outsiders
import RelayChat.Proofs.DirectMessages
import RelayChat.Proofs.SingleLines
import RelayChat.Proofs.Signatures
import RelayChat.Proofs.LineFrame
import RelayChat.Proofs.Visits
import RelayChat.Proofs.RefusedCommands
import RelayChat.Proofs.MessageReading
import RelayChat.Proofs.TextBytes
import RelayChat.Proofs.TrafficFrames
import RelayChat.Proofs.Founders
import RelayChat.Proofs.LiveSessions
import RelayChat.Proofs.NamesList
import RelayChat.Proofs.ServerLifecycle
import RelayChat.Proofs.IndependentLines
import RelayChat.Proofs.ChannelJoining
import RelayChat.Proofs.ChannelLeaving
import RelayChat.Proofs.Renaming
import RelayChat.Proofs.Farewells
import RelayChat.Proofs.ChannelTopics
import RelayChat.Proofs.StaleHandles
import RelayChat.Proofs.WordLists
import RelayChat.Proofs.ClosingRequests
import RelayChat.Proofs.PasswordSecrecy
import RelayChat.Proofs.CommandTokens
import RelayChat.Proofs.LineGrammar
import RelayChat.Proofs.RepeatedSplits
import RelayChat.Proofs.SettlingPasses
import RelayChat.Proofs.FramerCalls
import RelayChat.Proofs.LineByLine
import RelayChat.Proofs.BoundedBuffers
import RelayChat.Proofs.AlikeHosts
import RelayChat.Proofs.HostRecords
import RelayChat.Proofs.ReadySockets
import RelayChat.Proofs.LineDelivery
import RelayChat.Proofs.WatchedWrites
