import ThreatFusion.Alerts.StoreRuns
import ThreatFusion.Analyst.Workflow
import ThreatFusion.Analyst.TlsReading
import ThreatFusion.Correlation.Aggregates
import ThreatFusion.Datasets.Leakage
import ThreatFusion.LiveConsole.IngestRuns
import ThreatFusion.Gates.Threads
import ThreatFusion.Inference.Scoring
import ThreatFusion.Admission.Admit
import ThreatFusion.Orchestrator.Persistence
import ThreatFusion.Transport.Protocol
import ThreatFusion.Soar.DispatchRuns
import ThreatFusion.Soar.Tamper
import ThreatFusion.Storage.Snapshot
import ThreatFusion.Correlation.Windows
import ThreatFusion.Soar.Executor
import ThreatFusion.Lifecycle.Runs
import ThreatFusion.LiveConsole.ContainmentRuns
import ThreatFusion.LiveConsole.StitchRuns
import ThreatFusion.Browser.Serving
import ThreatFusion.Browser.Approval
import ThreatFusion.Audit.StoreRuns
import ThreatFusion.Audit.Archive
import ThreatFusion.Risk.MissingEvidence
import ThreatFusion.Credentials.Identity
import ThreatFusion.Credentials.ArchiveCheck
import ThreatFusion.Feedback.Runs
import ThreatFusion.Analyst.ViewSize
import ThreatFusion.Preprocessing.Pairing
import ThreatFusion.Adapters.LabSensor
import ThreatFusion.Adapters.Passes
import ThreatFusion.Eve.Follow
import ThreatFusion.Preprocessing.Transform
import ThreatFusion.Datasets.PreflightOverlaps
import ThreatFusion.Risk.TriageOrder
import ThreatFusion.Browser.Cuts
import ThreatFusion.Datasets.UnionRuns
import ThreatFusion.Enrichment.NoLeak
import ThreatFusion.Advisory.Grounding
import ThreatFusion.LabHunt.ChainFile
