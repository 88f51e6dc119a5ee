import StockResearch.DataAccess.ExactDecimal
import StockResearch.DataAccess.SnapshotLaw
import StockResearch.DataAccess.Ingestion
import StockResearch.DataAccess.IngestionLaw
import StockResearch.Documents.CitationLaw
import StockResearch.Documents.HtmlLaw
import StockResearch.Documents.ParserLaw
import StockResearch.Documents.RangeLaw
import StockResearch.Documents.VersionLaw
import StockResearch.Financials.AsOf
import StockResearch.Financials.BindingLaw
import StockResearch.Financials.FactMapping
import StockResearch.Financials.FormulaLaw
import StockResearch.Financials.QuarterLaw
import StockResearch.Financials.ScaleLaw
import StockResearch.Financials.TtmLaw
import StockResearch.Financials.Units
import StockResearch.Financials.WindowLaw
import StockResearch.Infrastructure.BlobAliases
import StockResearch.Infrastructure.DeletePairLaw
import StockResearch.Infrastructure.WritePairLaw
import StockResearch.LiveEvidence.Budget
import StockResearch.LiveEvidence.Expiry
import StockResearch.LiveEvidence.PilotLaw
import StockResearch.LiveEvidence.QualityStop
import StockResearch.LiveEvidence.SnapshotPlan
import StockResearch.LiveEvidence.TerminalLaw
import StockResearch.Providers.Checkpoint
import StockResearch.Providers.BreakerLaw
import StockResearch.Providers.HttpClient
import StockResearch.Providers.RateLimit
import StockResearch.Providers.RecordKeys
import StockResearch.Providers.ControlPlane
import StockResearch.Providers.FactBridgesLaw
import StockResearch.Providers.SecurityBridgeLaw
import StockResearch.Providers.Temporal
import StockResearch.Providers.TusharePlan
import StockResearch.Reports.BindingGraph
import StockResearch.Reports.InputLaw
import StockResearch.ResearchAgent.BudgetLaw
import StockResearch.ResearchAgent.Observations
import StockResearch.ResearchAgent.ClaimLaw
import StockResearch.ResearchAgent.Conflicts
import StockResearch.ResearchAgent.Idempotency
import StockResearch.ResearchAgent.Invocations
import StockResearch.ResearchAgent.PackageLaw
import StockResearch.ResearchAgent.PlanOrder
import StockResearch.ResearchAgent.ProposalLaw
import StockResearch.ResearchAgent.HiddenSecrets
import StockResearch.ResearchAgent.ToolContextLaw
import StockResearch.Retrieval.EvidenceBundle
import StockResearch.Retrieval.FusionLaw
import StockResearch.Retrieval.IndexLaw
import StockResearch.Retrieval.PhraseLaw
import StockResearch.Retrieval.PointInTime
import StockResearch.Securities.NameLookup
import StockResearch.Core.Bracketed
import StockResearch.Core.Placeholders
import StockResearch.Providers.EndpointLaw
import StockResearch.Reports.Content
import StockResearch.Reports.RevisionLaw
import StockResearch.Reports.AllocationLaw
import StockResearch.Reports.ChecksumLaw
import StockResearch.Reports.MarkdownLaw
import StockResearch.Reports.ReleaseLaw
