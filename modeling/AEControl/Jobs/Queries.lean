/-
  The job methods that only read (`store.py`): listings, the placement diagnostic, the quota status
  and the two GPU forecasts.

  Each reads the tenant's queue, and the diagnostics its workers.  The forecasts hand what they read
  to pure functions of `capacity.py` and `demand.py`, which stand here as arguments, as does the
  average and the percentile PostgreSQL takes of the recent durations.
-/
import AEControl.Jobs.Placement

namespace AEControl.Jobs

/-! ## Listings -/

/-- `ORDER BY created_at DESC LIMIT limit`; PostgreSQL refuses a negative limit. -/
def newest (limit : ℤ) (jobs : List EvaluationJob) : Except StoreError (List EvaluationJob) :=
  if limit < 0 then .error .dataError
  else .ok ((jobs.insertionSort fun j j' => j'.createdAt ≤ j.createdAt).take limit.toNat)

/-- `ArtifactStore.list_jobs`. -/
def listJobs (limit : ℤ) (status : Option JobStatus) (q : Queue) :
    Except StoreError (List EvaluationJob) :=
  newest limit (q.jobs.filter fun j => status.all (j.status = ·))

/-- `SELECT * FROM workers ORDER BY last_seen_at DESC`. -/
def listWorkers (workers : List WorkerRecord) : List WorkerRecord :=
  workers.insertionSort fun w w' => w'.lastSeenAt ≤ w.lastSeenAt

/-- `DEFAULT_WORKER_ACTIVE_SECONDS`. -/
def defaultWorkerActiveSeconds : ℤ := 120

/-- `ArtifactStore.placement_diagnostic`, observed at `utcNow`. -/
def placementDiagnostic (p : Printer) (jobId : UUID) (utcNow : Timestamp) (q : Queue)
    (workers : List WorkerRecord) : Except StoreError JobPlacementDiagnostic := do
  let job ← getJob jobId q
  diagnosePlacement p job (listWorkers workers) utcNow defaultWorkerActiveSeconds

/-- `ArtifactStore.tenant_quota_status`: limits and usage. -/
def tenantQuotaStatus (tenantId : String) (q : Queue) :
    Except StoreError (TenantQuotaLimits × TenantQuotaUsage) :=
  match q.quota with
  | none => .error (.keyError tenantId)
  | some quota => .ok (quota, tenantQuotaUsage q)

/-! ## Forecasts -/

/-- `status = 'queued' AND required_accelerator = 'cuda'`. -/
def queuedCuda (j : EvaluationJob) : Bool := j.status = .queued && j.requiredAccelerator = .cuda

/-- `ORDER BY priority DESC, created_at, job_id`. -/
def forecastOrder (j : EvaluationJob) : ClaimRank :=
  toLex (-j.priority, toLex (j.createdAt, j.jobId.toNat))

/-- `recent_durations`: profile and duration of the last five hundred completed CUDA jobs. -/
def recentDurations (q : Queue) : List (Option MigProfile × Timestamp) :=
  let measured := q.jobs.filter fun j => j.status = .completed && j.requiredAccelerator = .cuda &&
    j.startedAt.any (· < j.updatedAt)
  ((measured.insertionSort fun j j' => j'.updatedAt ≤ j.updatedAt).take 500).map fun j =>
    (j.requiredMigProfile, j.updatedAt - j.startedAt.getD 0)

section

variable {ε α : Type}

/-- `_gpu_duration_estimates`; `aggregate` groups by profile, with a group for all under `none`. -/
def gpuDurationEstimates
    (aggregate : List (Option MigProfile × Timestamp) → List (Option MigProfile × ε)) (q : Queue) :
    List (Option MigProfile × ε) := aggregate (recentDurations q)

/-- `ArtifactStore.gpu_capacity_forecast`, with `forecast_gpu_capacity` as `forecast`. -/
def gpuCapacityForecast
    (aggregate : List (Option MigProfile × Timestamp) → List (Option MigProfile × ε))
    (forecast : List EvaluationJob → List WorkerRecord → List (Option MigProfile × ε) → α)
    (given : Option (List WorkerRecord)) (q : Queue) (workers : List WorkerRecord) : α :=
  let jobs := (q.jobs.filter queuedCuda).insertionSort fun j j' => forecastOrder j ≤ forecastOrder j'
  forecast jobs (given.getD (listWorkers workers)) (gpuDurationEstimates aggregate q)

/-- What `gpu_demand_forecast` reads of the jobs. -/
structure DemandHistory where
  historyStart : Timestamp
  /-- `hour_start` and `arrivals`. -/
  arrivals : List (Timestamp × ℕ)
  queued : ℕ
  running : ℕ

/-- `DEFAULT_LOOKBACK_DAYS`. -/
def defaultLookbackDays : ℤ := 56

/-- `date_trunc('hour', created_at)` in a session whose time zone is `utcoffset` ahead of UTC. -/
def truncHour (utcoffset createdAt : Timestamp) : Timestamp :=
  (createdAt + utcoffset) / hour * hour - utcoffset

/-- The three queries of `gpu_demand_forecast` on the jobs. -/
def demandHistory (utcoffset observedAt : Timestamp) (q : Queue) : DemandHistory :=
  let lookbackStart := observedAt - defaultLookbackDays * 86400000000
  let historyStart := match (q.jobs.map EvaluationJob.createdAt).min? with
    | some storedStart => max storedStart lookbackStart
    | none => lookbackStart
  let hours := (q.jobs.filter fun j => j.requiredAccelerator = .cuda &&
    historyStart ≤ j.createdAt && j.createdAt < observedAt).map fun j =>
      truncHour utcoffset j.createdAt
  { historyStart := historyStart
    arrivals := (hours.dedup.insertionSort (· ≤ ·)).map fun h => (h, hours.count h)
    queued := q.jobs.countP fun j => j.requiredAccelerator = .cuda && j.status = .queued
    running := q.jobs.countP fun j => j.requiredAccelerator = .cuda && j.status = .running }

/-- `active_cuda_workers`. -/
def activeCudaWorkers (observedAt : Timestamp) (workers : List WorkerRecord) : ℕ :=
  workers.countP fun w => observedAt - defaultWorkerActiveSeconds * 1000000 ≤ w.lastSeenAt &&
    w.capabilities.accelerators.contains .cuda

/-- `ArtifactStore.gpu_demand_forecast`, with `forecast_gpu_demand` as `forecast`. -/
def gpuDemandForecast
    (aggregate : List (Option MigProfile × Timestamp) → List (Option MigProfile × ε))
    (forecast : DemandHistory → Timestamp → ℕ → Option ε → α) (utcoffset observedAt : Timestamp)
    (given : Option (List WorkerRecord)) (q : Queue) (workers : List WorkerRecord) : α :=
  let allCuda := (gpuDurationEstimates aggregate q).find? fun item => item.1.isNone
  forecast (demandHistory utcoffset observedAt q) observedAt
    (activeCudaWorkers observedAt (given.getD (listWorkers workers))) (allCuda.map Prod.snd)

end

end AEControl.Jobs
