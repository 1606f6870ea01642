import ChartingPlatform.Forward.GapHealing
import ChartingPlatform.Forward.StoreRuns
import ChartingPlatform.Runtime.Protocol
import ChartingPlatform.Ranking.Independence
import ChartingPlatform.Account.Checkpoints
import ChartingPlatform.Quota.Runtime
import ChartingPlatform.Quota.Agreement
import ChartingPlatform.Quota.TokenBuckets
import ChartingPlatform.Quota.RetryTimes
import ChartingPlatform.Quota.Reconciliations
import ChartingPlatform.Quota.LiveSettlement
import ChartingPlatform.Dispatch.Payload
import ChartingPlatform.Refresh.Leases
import ChartingPlatform.Bars.FreshRuns
import ChartingPlatform.Bars.RollUps
import ChartingPlatform.Storage.Concurrency
import ChartingPlatform.Attempts.Progress
import ChartingPlatform.Attempts.RetryChains
import ChartingPlatform.Strategy.ReplayAgreement
import ChartingPlatform.Strategy.WindowRecovery
import ChartingPlatform.Workers.LostSlots
import ChartingPlatform.Account.FillOrder
import ChartingPlatform.Experiments.SelectionQueue
import ChartingPlatform.Screener.IndicatorCache
import ChartingPlatform.Artifacts.Retention
import ChartingPlatform.Strategy.TapeSlices
import ChartingPlatform.Experiments.ParameterGrids
import ChartingPlatform.Nautilus.EquityTraceAgreement
import ChartingPlatform.Rebalance.Plans
import ChartingPlatform.Allocation.Metrics
import ChartingPlatform.Nautilus.TargetOrders
import ChartingPlatform.Nautilus.PnlConservation
import ChartingPlatform.Risk.OrderGates
import ChartingPlatform.Nautilus.SessionEquity
import ChartingPlatform.Bars.RangeCoverage
import ChartingPlatform.Charts.Renko
import ChartingPlatform.Charts.Kagi
import ChartingPlatform.Charts.PointFigure
import ChartingPlatform.Options.Summaries
import ChartingPlatform.Snapshots.PreflightSoundness
import ChartingPlatform.Snapshots.EtfPointInTime
import ChartingPlatform.Workers.LeaseAnswers
import ChartingPlatform.Indicators.ParabolicSar
import ChartingPlatform.Alerts.ScreenerMembership
import ChartingPlatform.Experiments.PairedInference
import ChartingPlatform.Dispatch.RelayCycles
