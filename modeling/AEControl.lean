import AEControl.Lib.Runs
import AEControl.Lib.Table
import AEControl.Lib.Dict
import AEControl.Lib.While
import AEControl.Lib.Grid
import AEControl.Lib.Matching
import AEControl.Lib.Except
import AEControl.Lib.Text
import AEControl.Lib.Json
import AEControl.Lib.JsonEquiv
import AEControl.Lib.Decimal
import AEControl.Lib.Jsonb
import AEControl.Lib.HashChain
import AEControl.Lib.Locking
import AEControl.Lib.Session
import AEControl.Lib.RowSecurity
import AEControl.Lib.Mirror
import AEControl.Lib.Trigger
import AEControl.Lib.Noninterference
import AEControl.Lib.CreateOnly
import AEControl.Lib.Base64
import AEControl.Lib.Unicode
import AEControl.Lib.JsonText
import AEControl.Lib.JsonObject
import AEControl.Lib.JsonPath
import AEControl.Lib.PyValue
import AEControl.Lib.Framing
import AEControl.Models
import AEControl.Jobs.Store
import AEControl.Jobs.Lifecycle
import AEControl.Jobs.Quota
import AEControl.Jobs.Fencing
import AEControl.Jobs.Stranded
import AEControl.Jobs.Transactions
import AEControl.Jobs.Submission
import AEControl.Jobs.Worker
import AEControl.Jobs.Placement
import AEControl.Jobs.Claiming
import AEControl.Jobs.Matching
import AEControl.Jobs.Queries
import AEControl.Jobs.Capacity
import AEControl.Jobs.Demand
import AEControl.Jobs.DemandHistory
import AEControl.Jobs.Clearance
import AEControl.Evaluation.Sandbox
import AEControl.Evaluation.Engine
import AEControl.Evaluation.Verdict
import AEControl.Evaluation.Compare
import AEControl.Evaluation.Gate
import AEControl.Evaluation.Accounting
import AEControl.Evaluation.PassRates
import AEControl.Evaluation.Cleanup
import AEControl.Evidence.Integrity
import AEControl.Evidence.Checkpoints
import AEControl.Evidence.Publication
import AEControl.Evidence.Canonical
import AEControl.Evidence.Store
import AEControl.Evidence.Audit
import AEControl.Evidence.Ledger
import AEControl.Evidence.Signatures
import AEControl.Evidence.Saving
import AEControl.Evidence.Replicas
import AEControl.Evidence.Migration
import AEControl.Evidence.Retention
import AEControl.Evidence.Forgery
import AEControl.Evidence.Anchoring
import AEControl.Evidence.Recovery
import AEControl.Evidence.Tampering
import AEControl.Evidence.Queries
import AEControl.Evidence.FileSink
import AEControl.Evidence.ObjectLock
import AEControl.Evidence.ReportArchive
import AEControl.Evidence.S3Sink
import AEControl.Evidence.Replication
import AEControl.Evidence.Isolation
import AEControl.Evidence.Stability
import AEControl.Tenancy.Registry
import AEControl.Tenancy.AdminAccess
import AEControl.Tenancy.Federation
import AEControl.Tenancy.Auth
import AEControl.Jobs.Fleet
import AEControl.Jobs.FleetReport
import AEControl.Jobs.Rollups
import AEControl.Jobs.Isolation
import AEControl.Guardrails.Policies
import AEControl.Guardrails.Bundle
import AEControl.Guardrails.Checks
import AEControl.Guardrails.Provenance
import AEControl.Tenancy.Isolation
import AEControl.Hardware.Dcgm
import AEControl.Promotion.Token
import AEControl.Promotion.Contract
import AEControl.Promotion.Orchestrator
import AEControl.Promotion.Safety
import AEControl.Drills.Orchestrator
import AEControl.Drills.Retention
import AEControl.LangGraph.Adapter
import AEControl.LangGraph.Outcome
import AEControl.Evaluation.Gather
import AEControl.Jobs.Workers
import AEControl.Guardrails.Efficacy
import AEControl.Evaluation.Validation
import AEControl.Lib.Exposition
import AEControl.Observability.Prometheus
import AEControl.Evaluation.Runtime
import AEControl.Evidence.RemoteSigners
import AEControl.LangGraph.Trace
import AEControl.LangGraph.Noninterference
