/-
  The job queue of one tenant: the six `ArtifactStore` methods that read or write
  `evaluation_jobs`, each one transaction.

  A `Queue` is what the tenant's transactions see through row-level security: the job rows, the
  ids of the tenant's stored runs (for the foreign key of `run_id`), the tenant's quota row and
  the database clock.  A method returns what its caller gets together with the state it leaves;
  `transaction` is psycopg's connection block, which commits when the block ends and rolls back
  when it raises.  Checks the code makes after the block (`_leased_job_or_error`, the `ValueError`
  of `cancel_job`) come after the commit here as well.
-/
import Mathlib.Data.List.MinMax
import Mathlib.Data.Prod.Lex
import AEControl.Lib.Json
import AEControl.Lib.Table
import AEControl.Models

namespace AEControl.Jobs

/-- One tenant's view of the database. -/
structure Queue where
  now : Timestamp
  quota : Option TenantQuotaLimits
  jobs : List EvaluationJob
  runs : List UUID

/-- `with self._connect() as connection:` — commit on success, roll back on an exception. -/
def transaction {α : Type} (body : Queue → Except StoreError (α × Queue)) (q : Queue) :
    Except StoreError α × Queue :=
  match body q with
  | .ok (a, q') => (.ok a, q')
  | .error e => (.error e, q)

/-! ## Row predicates -/

/-- `status = 'running' AND lease_expires_at >= now()`. -/
def activeRunning (now : Timestamp) (j : EvaluationJob) : Bool :=
  j.status = .running && j.leaseExpiresAt.any (now ≤ ·)

/-- `activeRunning` with `required_accelerator = 'cuda'`. -/
def activeRunningCuda (now : Timestamp) (j : EvaluationJob) : Bool :=
  activeRunning now j && j.requiredAccelerator = .cuda

/-- `status = 'running' AND lease_expires_at < now()`. -/
def expired (now : Timestamp) (j : EvaluationJob) : Bool :=
  j.status = .running && j.leaseExpiresAt.any (· < now)

/-- `status = 'running' AND lease_owner = worker_id`: the guard of renew, complete and fail. -/
def leasedBy (workerId : String) (j : EvaluationJob) : Bool :=
  j.status = .running && j.leaseOwner = some workerId

/-- The columns of the claim predicate that do not concern the worker:
    `attempts < max_attempts AND (status = 'queued' OR (status = 'running' AND
    lease_expires_at < now()))`. -/
def claimable (now : Timestamp) (j : EvaluationJob) : Bool :=
  j.attempts < j.maxAttempts && (j.status = .queued || expired now j)

/-- The device predicate inside the claim's `EXISTS`.  `greatest(0, total - used)` is the
    truncated subtraction; a comparison with a null column is not true. -/
def gpuAdmits (j : EvaluationJob) (gpu : GpuDevice) : Bool :=
  j.minimumGpuMemoryMb ≤ gpu.memoryTotalMb &&
    j.minimumCudaComputeCapability.all (fun minimum =>
      gpu.computeCapability.any (minimum.sqlLe ·)) &&
    (j.minimumGpuMemoryAvailableMb = 0 || gpu.memoryUsedMb.any (fun used =>
      j.minimumGpuMemoryAvailableMb ≤ gpu.memoryTotalMb - used)) &&
    j.maximumGpuUtilizationPercent.all (fun maximum =>
      gpu.utilizationPercent.any (·.sqlLe maximum)) &&
    j.requiredMigProfile.all (fun profile => gpu.migProfile = some profile)

/-- The worker's side of a claim: what `lease_job` sends of the worker's capabilities. -/
structure Offer where
  accelerators : List Accelerator
  labels : Labels
  gpus : List GpuDevice

/-- `lease_job`'s defaults for a caller without a capability document: a bare CPU worker. -/
def Offer.ofCapabilities : Option WorkerCapabilities → Offer
  | none => ⟨[.cpu], [], []⟩
  | some c => ⟨c.accelerators, c.labels, c.gpus⟩

/-- The placement conjuncts that do not concern a device. -/
def hostAdmits (o : Offer) (cudaQuotaAvailable : Bool) (j : EvaluationJob) : Bool :=
  o.accelerators.contains j.requiredAccelerator &&
    (j.requiredAccelerator ≠ .cuda || cudaQuotaAvailable) &&
    o.labels.contain j.requiredLabels

/-- The job asks nothing of a device: what stands before the `OR EXISTS`. -/
def deviceFree (j : EvaluationJob) : Bool :=
  j.minimumGpuMemoryMb = 0 && j.minimumCudaComputeCapability = none &&
    j.minimumGpuMemoryAvailableMb = 0 && j.maximumGpuUtilizationPercent = none &&
    j.requiredMigProfile = none

/-- The placement part of the claim predicate. -/
def placementAdmits (o : Offer) (cudaQuotaAvailable : Bool) (j : EvaluationJob) : Bool :=
  hostAdmits o cudaQuotaAvailable j && (deviceFree j || o.gpus.any (gpuAdmits j))

/-- The whole `WHERE` clause of the claim. -/
def claimPredicate (now : Timestamp) (o : Offer) (cudaQuotaAvailable : Bool)
    (j : EvaluationJob) : Bool :=
  placementAdmits o cudaQuotaAvailable j && claimable now j

/-! ## Quota usage -/

/-- `interval '1 hour'`, in microseconds. -/
def hour : Int := 3600000000

/-- `ArtifactStore._tenant_quota_usage`. -/
def tenantQuotaUsage (q : Queue) : TenantQuotaUsage where
  queuedJobs := q.jobs.countP (·.status = .queued)
  activeRunningJobs := q.jobs.countP (activeRunning q.now)
  activeRunningCudaJobs := q.jobs.countP (activeRunningCuda q.now)
  jobsSubmittedLastHour := q.jobs.countP (fun j => q.now - hour ≤ j.createdAt)
  measuredAt := q.now
  submissionWindowStartedAt := q.now - hour

/-! ## Statements -/

/-- `UPDATE evaluation_jobs SET … WHERE job_id = … AND … RETURNING *`. -/
def updateJobs (jobId : UUID) (p : EvaluationJob → Bool) (set : EvaluationJob → EvaluationJob)
    (q : Queue) : Option EvaluationJob × Queue :=
  (Table.returning EvaluationJob.jobId jobId p set q.jobs,
    { q with jobs := Table.update EvaluationJob.jobId jobId p set q.jobs })

/-- `.fetchone()`, still inside the transaction: psycopg refuses to load a lease deadline that a
    Python `datetime` cannot hold. -/
def fetchone (row : Option EvaluationJob) : Except StoreError (Option EvaluationJob) :=
  if row.all (fun j => j.leaseExpiresAt.all representable) then .ok row else .error .dataError

/-- `now() + (lease_seconds * interval '1 second')`. -/
def leaseDeadline (now : Timestamp) (leaseSeconds : Int) : Timestamp :=
  now + leaseSeconds * 1000000

/-! ## `enqueue_job` -/

/-- One agent-version family's label rule: `setdefault("runtime", …)` and the check after it. -/
def runtimeLabel (family runtime message agentVersion : String) (labels : Labels) :
    Except StoreError Labels :=
  if agentVersion.startsWith family then
    match labels.lookup "runtime" with
    | none => .ok (labels ++ [("runtime", runtime)])
    | some value => if value = runtime then .ok labels else .error (.valueError message)
  else .ok labels

/-- The `effective_labels` of `enqueue_job`. -/
def effectiveLabels (agentVersion : String) (labels : Labels) : Except StoreError Labels := do
  let labels ← runtimeLabel "ollama/" "ollama"
    "Ollama jobs require the runtime=ollama label" agentVersion labels
  let labels ← runtimeLabel "openai/" "openai-compatible"
    "OpenAI-compatible jobs require the runtime=openai-compatible label" agentVersion labels
  let labels ← runtimeLabel "nim/" "nvidia-nim"
    "NVIDIA NIM jobs require the runtime=nvidia-nim label" agentVersion labels
  runtimeLabel "bedrock/" "aws-bedrock"
    "Amazon Bedrock jobs require the runtime=aws-bedrock label" agentVersion labels

/-- The quota check of `enqueue_job`. -/
def checkSubmissionQuota (q : Queue) : Except StoreError Unit :=
  match q.quota with
  | none => .ok ()
  | some quota =>
    let usage := tenantQuotaUsage q
    if quota.maxQueuedJobs.any (· ≤ usage.queuedJobs) then
      .error (.tenantQuotaExceeded "max_queued_jobs" (quota.maxQueuedJobs.getD 0)
        (usage.queuedJobs + 1))
    else if quota.maxJobsPerHour.any (· ≤ usage.jobsSubmittedLastHour) then
      .error (.tenantQuotaExceeded "max_jobs_per_hour" (quota.maxJobsPerHour.getD 0)
        (usage.jobsSubmittedLastHour + 1))
    else .ok ()

/-- `INSERT INTO evaluation_jobs … RETURNING *`: unique `job_id`, memory sizes are `INTEGER`. -/
def insertJob (j : EvaluationJob) (q : Queue) :
    Except StoreError (EvaluationJob × Queue) :=
  if 2147483647 < j.minimumGpuMemoryMb ∨ 2147483647 < j.minimumGpuMemoryAvailableMb then
    .error .dataError
  else if (Table.lookup EvaluationJob.jobId j.jobId q.jobs).isSome then .error .uniqueViolation
  else .ok (j, { q with jobs := q.jobs ++ [j] })

/-- `ArtifactStore.enqueue_job`; `jobId`, `createdAt` and `updatedAt` are the defaults the
    `EvaluationJob` constructor draws from `uuid4` and the application's clock. -/
def enqueueJob (request : EnqueueRequest) (jobId : UUID) (createdAt updatedAt : Timestamp)
    (q : Queue) : Except StoreError EvaluationJob × Queue :=
  match (do
    let labels ← effectiveLabels request.agentVersion request.requiredLabels
    JobSpec.ofRequest request labels) with
  | .error e => (.error e, q)
  | .ok spec =>
    transaction (fun q => do
      checkSubmissionQuota q
      insertJob { toJobSpec := spec, jobId, createdAt, updatedAt } q) q

/-! ## `lease_job` -/

/-- A row's place in the order of the claim. -/
def ClaimRank := ℤ ×ₗ ℤ ×ₗ ℕ

instance : LinearOrder ClaimRank := inferInstanceAs (LinearOrder (ℤ ×ₗ ℤ ×ₗ ℕ))

/-- `ORDER BY priority DESC, created_at`; rows that tie are ranked by `tie`, the order PostgreSQL
    happens to visit them in. -/
def claimOrder (tie : UUID → Nat) (j : EvaluationJob) : ClaimRank :=
  toLex (-j.priority, toLex (j.createdAt, tie j.jobId))

/-- The `claimable` CTE: the first row that satisfies the `WHERE` clause. -/
def selectClaim (o : Offer) (cudaQuotaAvailable : Bool) (tie : UUID → Nat) (q : Queue) :
    Option EvaluationJob :=
  (q.jobs.filter (claimPredicate q.now o cudaQuotaAvailable)).argmin (claimOrder tie)

/-- The `SET` list of the claim. -/
def claimed (now : Timestamp) (workerId : String) (leaseSeconds : Int) (j : EvaluationJob) :
    EvaluationJob :=
  { j with
    status := .running
    attempts := j.attempts + 1
    startedAt := some now
    leaseOwner := some workerId
    leaseExpiresAt := some (leaseDeadline now leaseSeconds)
    updatedAt := now
    error := none }

/-- `usage.active_running_jobs >= quota.max_running_jobs`. -/
def runningQuotaFull (q : Queue) : Bool :=
  q.quota.any fun quota => quota.maxRunningJobs.any (· ≤ (tenantQuotaUsage q).activeRunningJobs)

/-- `cuda_quota_available`. -/
def cudaQuotaAvailable (q : Queue) : Bool :=
  q.quota.all fun quota =>
    quota.maxRunningCudaJobs.all ((tenantQuotaUsage q).activeRunningCudaJobs < ·)

/-- The memory sizes have text for `json.dumps`, which prints integers of up to 4300 digits. -/
def gpuProfilesPrint (o : Offer) : Bool :=
  o.gpus.all fun gpu =>
    Json.intPrintable gpu.memoryTotalMb && gpu.memoryUsedMb.all fun used : Nat =>
      Json.intPrintable used

/-- `Jsonb(gpu_profiles)`: PostgreSQL rejects a JSON document with a non-finite number, which only
    a compute capability can be. -/
def gpuProfilesAreJson (o : Offer) : Bool :=
  o.gpus.all fun gpu => gpu.computeCapability.all Float64.isFinite

/-- `Jsonb(labels)`: PostgreSQL's JSON texts hold no NUL. -/
def labelsAreJson (labels : Labels) : Bool :=
  labels.all fun label => isStorableText label.1 && isStorableText label.2

/-- `lease_seconds * interval '1 second'`, which PostgreSQL works out before it reads a row, is an
    interval; any that leads from the clock to an instant a `datetime` can hold is. -/
def intervalFits (now : Timestamp) (leaseSeconds : Int) : Bool :=
  leaseSeconds.natAbs ≤ 9223372036854 || representable (leaseDeadline now leaseSeconds)

/-- The parameters of the claim on their way to PostgreSQL: `json.dumps` comes first. -/
def claimParameters (now : Timestamp) (o : Offer) (workerId : String) (leaseSeconds : Int) :
    Except StoreError Unit :=
  if gpuProfilesPrint o = false then .error (.valueError
    ("Exceeds the limit (4300 digits) for integer string conversion; use " ++
      "sys.set_int_max_str_digits() to increase the limit"))
  else if isStorableText workerId && labelsAreJson o.labels && gpuProfilesAreJson o &&
      intervalFits now leaseSeconds then .ok ()
  else .error .dataError

/-- How PostgreSQL goes through the rows of the claim: the order it visits rows that tie in, and
    whether it tests them all and sorts, or goes down `idx_jobs_claim` to the first that passes. -/
structure ClaimPlan where
  tie : UUID → Nat
  sorts : Bool

/-- Down the index, and without ties. -/
def ClaimPlan.scan : ClaimPlan := ⟨fun _ => 0, false⟩

/-- The row is tested, when this one is selected. -/
def ClaimPlan.visits (plan : ClaimPlan) (selected : Option EvaluationJob) (j : EvaluationJob) :
    Bool :=
  plan.sorts || selected.all fun claim => claimOrder plan.tie j ≤ claimOrder plan.tie claim

/-- PostgreSQL comes to the `EXISTS`, the costliest conjunct and so the last, for some row. -/
def devicesRead (plan : ClaimPlan) (o : Offer) (cudaQuotaAvailable : Bool)
    (selected : Option EvaluationJob) (q : Queue) : Bool :=
  q.jobs.any fun j => hostAdmits o cudaQuotaAvailable j && claimable q.now j && !deviceFree j &&
    plan.visits selected j

/-- The `INTEGER` columns of `jsonb_to_recordset` hold every device, of which one `EXISTS` reads
    all. -/
def gpuColumnsFit (o : Offer) : Bool :=
  o.gpus.all fun gpu =>
    gpu.memoryTotalMb ≤ 2147483647 && gpu.memoryUsedMb.all (· ≤ 2147483647)

/-- The claim's statement up to the row it selects. -/
def claimStatement (plan : ClaimPlan) (o : Offer) (workerId : String) (leaseSeconds : Int)
    (cudaQuotaAvailable : Bool) (selected : Option EvaluationJob) (q : Queue) :
    Except StoreError (Option EvaluationJob) := do
  claimParameters q.now o workerId leaseSeconds
  if gpuColumnsFit o || !devicesRead plan o cudaQuotaAvailable selected q then .ok selected
  else .error .dataError

/-- The row the claim selects for the tenant, if nothing raises. -/
def nextClaim (plan : ClaimPlan) (o : Offer) (workerId : String) (leaseSeconds : Int) (q : Queue) :
    Except StoreError (Option EvaluationJob) :=
  claimStatement plan o workerId leaseSeconds (cudaQuotaAvailable q)
    (selectClaim o (cudaQuotaAvailable q) plan.tie q) q

/-- `ArtifactStore.lease_job`. -/
def leaseJob (workerId : String) (leaseSeconds : Int) (capabilities : Option WorkerCapabilities)
    (plan : ClaimPlan) (q : Queue) : Except StoreError (Option EvaluationJob) × Queue :=
  let o := Offer.ofCapabilities capabilities
  transaction (fun q =>
    if runningQuotaFull q then .ok (none, q)
    else
      match nextClaim plan o workerId leaseSeconds q with
      | .error e => .error e
      | .ok none => .ok (none, q)
      | .ok (some claim) => do
        let (row, q') :=
          updateJobs claim.jobId (fun _ => true) (claimed q.now workerId leaseSeconds) q
        let row ← fetchone row
        pure (row, q')) q

/-! ## The owner's calls -/

/-- `ArtifactStore._leased_job_or_error`, after the transaction has committed. -/
def leasedJobOrError (jobId : UUID) : Option EvaluationJob → Except StoreError EvaluationJob
  | some j => .ok j
  | none => .error (.runtimeError s!"worker no longer owns the lease for job {jobId.str}")

/-- What renew, complete and fail share: one guarded `UPDATE … RETURNING *` with the constraint
    check `ref` PostgreSQL makes on the updated row, then `_leased_job_or_error`. -/
def ownerUpdate (jobId : UUID) (workerId : String) (set : EvaluationJob → EvaluationJob)
    (ref : EvaluationJob → Bool) (q : Queue) : Except StoreError EvaluationJob × Queue :=
  let (row, q') := transaction (fun q => do
    let (row, q') := updateJobs jobId (leasedBy workerId) set q
    if row.all ref then
      let row ← fetchone row
      pure (row, q')
    else .error .foreignKeyViolation) q
  (row.bind (leasedJobOrError jobId), q')

/-- The `SET` list of `renew_job_lease`. -/
def renewed (now : Timestamp) (leaseSeconds : Int) (j : EvaluationJob) : EvaluationJob :=
  { j with leaseExpiresAt := some (leaseDeadline now leaseSeconds), updatedAt := now }

/-- `ArtifactStore.renew_job_lease`. -/
def renewJobLease (jobId : UUID) (workerId : String) (leaseSeconds : Int) (q : Queue) :
    Except StoreError EvaluationJob × Queue :=
  ownerUpdate jobId workerId (renewed q.now leaseSeconds) (fun _ => true) q

/-- The `SET` list of `complete_job`. -/
def completed (now : Timestamp) (runId : UUID) (j : EvaluationJob) : EvaluationJob :=
  { j with
    status := .completed
    runId := some runId
    updatedAt := now
    leaseOwner := none
    leaseExpiresAt := none
    error := none }

/-- `ArtifactStore.complete_job`; `evaluation_jobs_tenant_run_fkey` wants the run to be stored. -/
def completeJob (jobId : UUID) (workerId : String) (runId : UUID) (q : Queue) :
    Except StoreError EvaluationJob × Queue :=
  ownerUpdate jobId workerId (completed q.now runId) (fun _ => q.runs.contains runId) q

/-- The `SET` list of `fail_job`: `CASE WHEN attempts >= max_attempts`. -/
def failedOnce (now : Timestamp) (message : String) (j : EvaluationJob) : EvaluationJob :=
  { j with
    status := if j.maxAttempts ≤ j.attempts then .failed else .queued
    updatedAt := now
    startedAt := if j.maxAttempts ≤ j.attempts then j.startedAt else none
    leaseOwner := none
    leaseExpiresAt := none
    error := some message }

/-- `ArtifactStore.fail_job`, with `error[:4000]`. -/
def failJob (jobId : UUID) (workerId : String) (error : String) (q : Queue) :
    Except StoreError EvaluationJob × Queue :=
  ownerUpdate jobId workerId (failedOnce q.now (String.ofList (error.toList.take 4000)))
    (fun _ => true) q

/-! ## `cancel_job` -/

/-- `ArtifactStore.get_job`. -/
def getJob (jobId : UUID) (q : Queue) : Except StoreError EvaluationJob :=
  match Table.lookup EvaluationJob.jobId jobId q.jobs with
  | some j => .ok j
  | none => .error (.keyError jobId.str)

/-- The `SET` list of `cancel_job`. -/
def cancelled (now : Timestamp) (j : EvaluationJob) : EvaluationJob :=
  { j with status := .cancelled, updatedAt := now, leaseOwner := none, leaseExpiresAt := none }

/-- `ArtifactStore.cancel_job`. -/
def cancelJob (jobId : UUID) (q : Queue) : Except StoreError EvaluationJob × Queue :=
  let (row, q') := transaction (fun q => do
    let (row, q') :=
      updateJobs jobId (fun j => !j.status.terminal) (cancelled q.now) q
    let row ← fetchone row
    pure (row, q')) q
  match row with
  | .error e => (.error e, q')
  | .ok (some j) => (.ok j, q')
  | .ok none =>
    match getJob jobId q' with
    | .error e => (.error e, q')
    | .ok existing =>
      (.error (.valueError s!"job in {existing.status.value} state cannot be cancelled"), q')

/-! ## The queue as a state machine -/

/-- Everything that can happen to the queue.  `saveRun` is the part of `save_run` the queue sees,
    a new key for `run_id` to refer to; `advance` is the database clock moving on. -/
inductive Op where
  | enqueueJob (request : EnqueueRequest) (jobId : UUID) (createdAt updatedAt : Timestamp)
  | leaseJob (workerId : String) (leaseSeconds : Int)
      (capabilities : Option WorkerCapabilities) (plan : ClaimPlan)
  | renewJobLease (jobId : UUID) (workerId : String) (leaseSeconds : Int)
  | completeJob (jobId : UUID) (workerId : String) (runId : UUID)
  | failJob (jobId : UUID) (workerId : String) (error : String)
  | cancelJob (jobId : UUID)
  | saveRun (runId : UUID)
  | advance (microseconds : Nat)

/-- One operation: the job the caller gets, or the exception, and the state it leaves. -/
def perform (q : Queue) : Op → Except StoreError (Option EvaluationJob) × Queue
  | .enqueueJob request jobId createdAt updatedAt =>
    let (r, q') := enqueueJob request jobId createdAt updatedAt q
    (some <$> r, q')
  | .leaseJob workerId leaseSeconds capabilities plan =>
    leaseJob workerId leaseSeconds capabilities plan q
  | .renewJobLease jobId workerId leaseSeconds =>
    let (r, q') := renewJobLease jobId workerId leaseSeconds q
    (some <$> r, q')
  | .completeJob jobId workerId runId =>
    let (r, q') := completeJob jobId workerId runId q
    (some <$> r, q')
  | .failJob jobId workerId error =>
    let (r, q') := failJob jobId workerId error q
    (some <$> r, q')
  | .cancelJob jobId =>
    let (r, q') := cancelJob jobId q
    (some <$> r, q')
  | .saveRun runId => (.ok none, { q with runs := runId :: q.runs })
  | .advance d => (.ok none, { q with now := q.now + d })

/-- The state an operation leaves. -/
def step (q : Queue) (op : Op) : Queue := (perform q op).2

/-- A queue without jobs, at any time, under any quota, with any stored runs. -/
def emptyQueue (now : Timestamp) (quota : Option TenantQuotaLimits) (runs : List UUID) : Queue :=
  ⟨now, quota, [], runs⟩

/-- A job any worker can take. -/
def codingJob : EnqueueRequest :=
  { suitePath := "suites/coding.yaml", agentVersion := "deterministic-v1" }

end AEControl.Jobs
