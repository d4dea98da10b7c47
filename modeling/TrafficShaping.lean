import TrafficShaping.Dict
import TrafficShaping.Text.Quoted
import TrafficShaping.Text.Blank
import TrafficShaping.Text.Utf8
import TrafficShaping.Number.Shortest
import TrafficShaping.Json.Parser
import TrafficShaping.Json.Fields
import TrafficShaping.Instant
import TrafficShaping.NodeId
import TrafficShaping.Shaping.Command
import TrafficShaping.Report.Wire
import TrafficShaping.ControlRequest
import TrafficShaping.Dispatch
import TrafficShaping.CommandLine
import TrafficShaping.Report.Assembly
import TrafficShaping.Server.Router
import TrafficShaping.Daemon.Client
import TrafficShaping.Procfs
import TrafficShaping.Program.Start
import TrafficShaping.Proofs.CacheReplay
import TrafficShaping.Proofs.Affix
import TrafficShaping.Proofs.DictLookup
import TrafficShaping.Proofs.Words
import TrafficShaping.Proofs.ParamText
import TrafficShaping.Proofs.CommandOptions
import TrafficShaping.Proofs.CacheHistory
import TrafficShaping.Proofs.LockHolders
import TrafficShaping.Proofs.HostAgreement
import TrafficShaping.Proofs.ReportNodes
import TrafficShaping.Proofs.ControlAnswers
import TrafficShaping.Proofs.OfferedControls
import TrafficShaping.Proofs.ShownValues
import TrafficShaping.Proofs.DaemonHistory
import TrafficShaping.Proofs.Convergence
import TrafficShaping.Proofs.Utf8Text
import TrafficShaping.Proofs.ByteOrder
import TrafficShaping.Proofs.JsonText
import TrafficShaping.Proofs.JsonScalars
import TrafficShaping.Proofs.JsonRecords
import TrafficShaping.Proofs.WireRoundTrip
import TrafficShaping.Proofs.ControlRoute
import TrafficShaping.Proofs.PresetCommands
import TrafficShaping.Proofs.RunningProcesses
import TrafficShaping.Proofs.StoreHistory
import TrafficShaping.Proofs.DestroyedContainers
import TrafficShaping.Proofs.ReportContents
import TrafficShaping.Proofs.ReportIndependence
import TrafficShaping.Proofs.SyncOutcome
import TrafficShaping.Proofs.EventEffects
import TrafficShaping.Proofs.FileTrees
import TrafficShaping.Proofs.FileCalls
import TrafficShaping.Proofs.SocketOwnership
import TrafficShaping.Proofs.SourceLiteral
import TrafficShaping.Proofs.SampleLayout
import TrafficShaping.Proofs.Enrichment
import TrafficShaping.Proofs.PathParents
import TrafficShaping.Proofs.SocketFootprint
import TrafficShaping.Proofs.NamespaceLinks
import TrafficShaping.Proofs.PodNames
import TrafficShaping.Proofs.JsonDecoding
import TrafficShaping.Proofs.RequestLayouts
import TrafficShaping.Proofs.JsonReading
import TrafficShaping.Proofs.ParamOrigins
import TrafficShaping.Proofs.DaemonRequests
import TrafficShaping.Proofs.CommandLineSettings
import TrafficShaping.Proofs.CommandRuns
import TrafficShaping.Proofs.Serving
