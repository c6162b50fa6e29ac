import Netfusion.Lib.Machine
import Netfusion.Lib.Calls
import Netfusion.Lib.Collections
import Netfusion.Lib.Extremes
import Netfusion.Lib.Sorting
import Netfusion.Lib.Text
import Netfusion.Lib.Addresses
import Netfusion.Lib.Decimal
import Netfusion.Lib.Columns
import Netfusion.Lib.Calendar
import Netfusion.Lib.CalendarReading
import Netfusion.Lib.Tables
import Netfusion.Lib.Reporting
import Netfusion.Lib.Fallible
import Netfusion.Lib.Averages
import Netfusion.Lib.ExponentialMeans
import Netfusion.Lib.Interpolation
import Netfusion.Lib.Rounding
import Netfusion.Lib.Netfilter
import Netfusion.Lib.Regression
import Netfusion.Lib.Saturation
import Netfusion.Lib.Windows
import Netfusion.Lib.Bincode
import Netfusion.Lib.Framing
import Netfusion.Shared.Config
import Netfusion.Shared.Types
import Netfusion.Shared.Events
import Netfusion.Shared.Ipc
import Netfusion.Shared.Validate
import Netfusion.Shared.Wire
import Netfusion.Shared.WireMessages
import Netfusion.Shared.WireCodec
import Netfusion.Daemon.Server
import Netfusion.Daemon.ConfigStore
import Netfusion.Daemon.WireAgreement
import Netfusion.Daemon.ConfigReload
import Netfusion.Daemon.Session
import Netfusion.Daemon.Lockstep
import Netfusion.Daemon.Conversation
import Netfusion.Daemon.Linearized
import Netfusion.Daemon.Client
import Netfusion.Core.Command
import Netfusion.Core.Health
import Netfusion.Core.CompositeScore
import Netfusion.Core.Monitoring
import Netfusion.Core.ScoreRuns
import Netfusion.Core.SmoothedHistory
import Netfusion.Core.Ping
import Netfusion.Core.Throughput
import Netfusion.Core.Discovery
import Netfusion.Core.NetDev
import Netfusion.Core.LinkMessages
import Netfusion.Core.Wireless
import Netfusion.Daemon.Answers
import Netfusion.Core.ProbeTargets
import Netfusion.Core.Predictive
import Netfusion.Core.PredictiveTrend
import Netfusion.Core.PredictiveIndicators
import Netfusion.Core.PredictiveCoherence
import Netfusion.Core.PredictiveImproving
import Netfusion.Core.PredictiveClearing
import Netfusion.Core.Analytics
import Netfusion.Core.Reliability
import Netfusion.Core.ReliabilityReports
import Netfusion.Core.PathSteering
import Netfusion.Core.SteeringSpec
import Netfusion.Core.SteeringHysteresis
import Netfusion.Core.SteeringFeed
import Netfusion.Core.SteeringDecisions
import Netfusion.Core.SteeringBufferbloat
import Netfusion.Core.SteadyScores
import Netfusion.Core.SteeringDegradation
import Netfusion.Core.DegradedCounter
import Netfusion.Core.DeadLink
import Netfusion.Core.FailingLink
import Netfusion.Core.Bonding
import Netfusion.Core.BondMembers
import Netfusion.Core.BondFlapping
import Netfusion.Core.BondLinks
import Netfusion.Core.BondNames
import Netfusion.Core.BondSlaves
import Netfusion.Core.BondLeader
import Netfusion.Core.Failover
import Netfusion.Core.FailoverReports
import Netfusion.Core.FailoverReadings
import Netfusion.Core.FailoverCooldown
import Netfusion.Core.WireGuard
import Netfusion.Core.WireGuardReports
import Netfusion.Core.Tunnels
import Netfusion.Core.Reconnect
import Netfusion.Core.TunnelStates
import Netfusion.Core.ReconnectBackoff
import Netfusion.Core.DelayGrowth
import Netfusion.Core.TunnelRemoval
import Netfusion.Core.TunnelCreation
import Netfusion.Core.Qdisc
import Netfusion.Core.Nftables
import Netfusion.Core.Dscp
import Netfusion.Core.Balancing
import Netfusion.Core.WeightedBalancing
import Netfusion.Core.Adaptive
import Netfusion.Core.AdaptiveNormalizers
import Netfusion.Core.AdaptiveRecommendations
import Netfusion.Core.Routing
import Netfusion.Core.Ecmp
import Netfusion.Core.SafeApply
import Netfusion.Core.Rollback
import Netfusion.Core.RollbackLog
import Netfusion.Core.StateStore
import Netfusion.Core.StateHistory
import Netfusion.Core.StateRowIds
import Netfusion.Core.StateBonds
import Netfusion.Tui.App
import Netfusion.Tui.MainLoop
import Netfusion.Tui.Fetcher
import Netfusion.Tui.Sources
import Netfusion.Tui.Screen
import Netfusion.Relay.Server
import Netfusion.Relay.Echo
import Netfusion.Relay.ConnectionLimit
