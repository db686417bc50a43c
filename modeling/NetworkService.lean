import NetworkService.Types
import NetworkService.Library.Execution
import NetworkService.Library.Json
import NetworkService.Library.JsonMeaning
import NetworkService.Library.Disk
import NetworkService.Library.Scanner
import NetworkService.Library.Search
import NetworkService.Library.Cutting
import NetworkService.Library.Fallible
import NetworkService.Library.Lockstep
import NetworkService.Platform.NetworkConfigurator
import NetworkService.Platform.ResolverFile
import NetworkService.Platform.InterfaceSnapshot
import NetworkService.Platform.DhcpLeaseStore
import NetworkService.Platform.UdhcpcScript
import NetworkService.Platform.LeaseFence
import NetworkService.Platform.LeaseRoundTrip
import NetworkService.Config.EthernetConfig
import NetworkService.Config.LoadSaved
import NetworkService.Config.StagedFile
import NetworkService.ControlPlane.Operations
import NetworkService.ControlPlane.Executions
import NetworkService.ControlPlane.RouteOwnership
import NetworkService.ControlPlane.Records
import NetworkService.ControlPlane.Reliable
import NetworkService.ControlPlane.RecordCouplings
import NetworkService.ControlPlane.RoutePolicy
import NetworkService.ControlPlane.LinkPass
import NetworkService.ControlPlane.ChangeReport
import NetworkService.ControlPlane.Independence
import NetworkService.ControlPlane.Convergence
import NetworkService.ControlPlane.MistakenRoute
import NetworkService.ControlPlane.SettledDns
import NetworkService.ControlPlane.IdleLinks
import NetworkService.ControlPlane.ForeignEthernet
import NetworkService.ControlPlane.OrphanRoutes
import NetworkService.ControlPlane.Idempotence
import NetworkService.ControlPlane.FailureFree
import NetworkService.ControlPlane.PolicyRollback
import NetworkService.ControlPlane.RefusedPolicy
import NetworkService.ControlPlane.RecordEdits
import NetworkService.ControlPlane.CheckedArguments
import NetworkService.ControlPlane.PolicyChanges
import NetworkService.ControlPlane.RefusedStart
import NetworkService.ControlPlane.ResolverOwnership
import NetworkService.ControlPlane.Dns
import NetworkService.ControlPlane.Kernel
import NetworkService.ControlPlane.Outcomes
import NetworkService.ControlPlane.Routes
import NetworkService.ControlPlane.State
import NetworkService.Wifi.Manager
import NetworkService.Wifi.ExplicitStop
import NetworkService.Wifi.LinkLoss
import NetworkService.Wifi.EventMonitor
import NetworkService.Wifi.FailureReason
import NetworkService.Wifi.EventNames
import NetworkService.Wifi.ScanLifecycle
import NetworkService.Wifi.ScanFence
import NetworkService.Wifi.ScanCompletion
import NetworkService.Wifi.LinkRace
import NetworkService.Wifi.ProfilePolicy
import NetworkService.Wifi.ProfileStore
import NetworkService.Wifi.ProfileRuns
import NetworkService.Wifi.SupplicantProfiles
import NetworkService.Wifi.ProfileOwnership
import NetworkService.Wifi.BackendReplies
import NetworkService.Ipc.Codec
import NetworkService.Ipc.RequestText
import NetworkService.Ipc.IndexedScanners
import NetworkService.Ipc.ScanBounds
import NetworkService.Ipc.PayloadBounds
import NetworkService.Ipc.IndexedReader
import NetworkService.Ipc.ReaderBounds
import NetworkService.Ipc.BoundedScanners
import NetworkService.Ipc.Session
import NetworkService.Ipc.BusinessDispatch
import NetworkService.Ipc.Events
import NetworkService.Ipc.Outbound
import NetworkService.Ipc.OutboundAccounting
import NetworkService.Ipc.Reactor
import NetworkService.Ipc.ReactorMoves
import NetworkService.Ipc.StallTimer
import NetworkService.Ipc.EventStream
import NetworkService.Ipc.EventNumbering
import NetworkService.Ipc.Decoding
import NetworkService.Ipc.Framing
import NetworkService.Ipc.Wire
import NetworkService.Ipc.SessionRuns
import NetworkService.Ipc.Scanning
import NetworkService.Ipc.ScanningExact
import NetworkService.Ipc.Numbers
import NetworkService.Ipc.RequestMembers
import NetworkService.Ipc.RequestCorrelation
import NetworkService.Ipc.RequestWellformed
import NetworkService.Ipc.Answers
import NetworkService.Ipc.Intake
import NetworkService.Ipc.ReactorFrames
import NetworkService.Ipc.ReactorIntake
import NetworkService.Ipc.IntakeRuns
import NetworkService.Ipc.RequestLines
import NetworkService.Ipc.InputBounds
import NetworkService.Ipc.StreamHandling
import NetworkService.Ipc.ResponseOrder
import NetworkService.Ipc.Documents
import NetworkService.Ipc.ReadBack
import NetworkService.Ipc.FaithfulPayloads
import NetworkService.Ipc.FaithfulReplies
import NetworkService.Ipc.ParameterReader
import NetworkService.Ipc.ParameterMeaning
import NetworkService.Ipc.Representation
import NetworkService.Daemon.EthernetTransaction
import NetworkService.Daemon.StaticRoundTrip
import NetworkService.Daemon.PolicyWedge
import NetworkService.Daemon.DiskTransaction
import NetworkService.Daemon.ChangeDetector
import NetworkService.Daemon.NetworkState
import NetworkService.Ipc.ParserAgreement
import NetworkService.Ipc.RequestMeaning
import NetworkService.Ipc.FieldExtraction
import NetworkService.Library.Shell
import NetworkService.Platform.ShellCommands
import NetworkService.Platform.CommandLines
