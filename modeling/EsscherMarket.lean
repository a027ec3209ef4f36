import EsscherMarket.Risk.Ledger.Lifecycle
import EsscherMarket.Risk.Kernel.Control
import EsscherMarket.Risk.Kernel.Limits
import EsscherMarket.Lifecycle.Recovery
import EsscherMarket.Runtime.Interleaving
import EsscherMarket.Runtime.HostTotality
import EsscherMarket.Runtime.PaperMcp.TruthSource
import EsscherMarket.Risk.Kernel.Passport
import EsscherMarket.Runtime.PaperMcp.BlockedStates
import EsscherMarket.Alpha.ShadowLedger
import EsscherMarket.Execution.CompiledToPermit
import EsscherMarket.Execution.Expression.Report
import EsscherMarket.Passport.Paper
import EsscherMarket.SourceData.Alignment
import EsscherMarket.SourceData.PriorWindows
import EsscherMarket.SourceData.LineageGate
import EsscherMarket.Strategy.Gate
import EsscherMarket.Contracts.ReleaseLog
import EsscherMarket.Runtime.StageBudgets
import EsscherMarket.SourceData.SquareRoot
import EsscherMarket.Execution.Expression.Geometry
import EsscherMarket.Alpha.QFast
import EsscherMarket.SourceData.SynchronizedWindow
import EsscherMarket.Contracts.ArmRecord
import EsscherMarket.Autonomy.AllocationRuns
import EsscherMarket.Autonomy.Scan
import EsscherMarket.Lifecycle.Outages
import EsscherMarket.PaperDemo.PermitWindow
import EsscherMarket.PaperDemo.PnlRange
import EsscherMarket.PaperDemo.WireQuantity
import EsscherMarket.Scheduled.StateStore
import EsscherMarket.Autonomy.OpportunityFormat
import EsscherMarket.OptionEvents.Identity
import EsscherMarket.OptionEvents.JournalMigration
import EsscherMarket.OptionEvents.Portfolio
import EsscherMarket.PaperDemo.FlatProof
import EsscherMarket.Risk.PolicyFormat
import EsscherMarket.Runtime.ArmClocks
import EsscherMarket.Runtime.Sidecar.ClocksDocument
import EsscherMarket.Lifecycle.RoundTrip
import EsscherMarket.OptionEvents.Accounting
