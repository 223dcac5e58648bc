import Flextunnel.Analysis.PendingStart
import Flextunnel.Analysis.SelfBlockDurability
import Flextunnel.Analysis.LiveNonces
import Flextunnel.Analysis.AuthorizedPeers
import Flextunnel.Analysis.BlockedClients
import Flextunnel.Analysis.SelfBlockShutdown
import Flextunnel.Analysis.BridgeHops
import Flextunnel.Analysis.FailClosed
import Flextunnel.Analysis.RequestCodec
import Flextunnel.Analysis.ForwardedHead
import Flextunnel.Analysis.HandshakeSize
import Flextunnel.Analysis.EndpointClose
import Flextunnel.Analysis.ServerNonces
import Flextunnel.Analysis.HeartbeatSync
import Flextunnel.Analysis.KeptSecrets
import Flextunnel.Analysis.AppliedConfig
import Flextunnel.Analysis.UncoveredForwards
import Flextunnel.Analysis.RemoteHosts
import Flextunnel.Analysis.HeadReading
import Flextunnel.Analysis.LocalAnswers
import Flextunnel.Analysis.GreedyFilters
import Flextunnel.Analysis.NameForms
import Flextunnel.Analysis.LocalPorts
import Flextunnel.Analysis.CappedLines
import Flextunnel.Analysis.PairedResponses
import Flextunnel.Analysis.PortHandover
import Flextunnel.Analysis.StaleFailures
import Flextunnel.Analysis.AcceptRetries
import Flextunnel.Analysis.RebuildIntervals
import Flextunnel.Analysis.RegistryEntries
import Flextunnel.Analysis.RemovedServer
import Flextunnel.Analysis.DetectionRecords
import Flextunnel.Analysis.ResponsiveLoop
import Flextunnel.Analysis.ClientStatus
import Flextunnel.Analysis.CompleteFile
import Flextunnel.Analysis.FfiReconciling
import Flextunnel.Analysis.RelayCounts
import Flextunnel.Analysis.UpstreamSlot
