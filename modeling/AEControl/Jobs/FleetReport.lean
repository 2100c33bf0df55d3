/-
  `platform_fleet_report`: the operator's view of queues, leases and quotas, read from the rollups.

  The report counts in `fleet_job_rollups` what admission control counts in `evaluation_jobs`, with
  a statement of its own.

  Structure of the proof:
  1. **the crux**, `countP_rollups`: in a state whose rollups are exact, a count over a tenant's
     rollups is the count over its queue, for every predicate the two tables share;
  2. what is left of a row is that the two statements draw the same lines (`queued_eq`,
     `running_eq`, `runningCuda_eq`, `submitted_eq`);
  3. a saturation flag says what the tenant's next call would meet: `raisesQuota_iff` for a
     submission, `runningQuotaFull_iff` and `cudaQuotaAvailable_iff` for a lease, each with a job
     that would get through if the flag were down (`plainJob`);
  4. `summary_agrees` for one tenant, `totals_addUp` for the platform, and `fleetReport_agrees` for
     the report of every reachable state.
-/
import AEControl.Lib.Except
import AEControl.Jobs.Stranded
import AEControl.Jobs.Fleet

namespace AEControl.Jobs

open Table RowSecurity Mirror Evidence Tenancy

/-! ## Records -/

/-- `FleetResourceSnapshot`; `oldest_queued_seconds` before it is rounded to a float. -/
structure FleetResourceSnapshot where
  queuedCpuJobs : ℕ
  queuedCudaJobs : ℕ
  activeRunningCpuJobs : ℕ
  activeRunningCudaJobs : ℕ
  jobsSubmittedLastHour : ℕ
  workersObserved : ℕ
  activeCpuWorkers : ℕ
  activeCudaWorkers : ℕ
  activeGpuDevices : ℕ
  oldestQueuedSeconds : ℚ

/-- `FleetQuotaSaturation`. -/
structure FleetQuotaSaturation where
  queuedJobs : Bool
  jobsPerHour : Bool
  runningJobs : Bool
  runningCudaJobs : Bool
  deriving DecidableEq

/-- `FleetTenantStatus`. -/
inductive FleetTenantStatus where
  | active
  | suspended
  | unregistered
  deriving DecidableEq

/-- `TenantFleetSummary`. -/
structure TenantFleetSummary extends FleetResourceSnapshot where
  tenantId : TenantId
  displayName : Option String
  status : FleetTenantStatus
  quota : TenantQuotaLimits
  saturation : FleetQuotaSaturation

/-- `PlatformFleetReport`. -/
structure PlatformFleetReport where
  observedAt : Timestamp
  activeWorkerWindowSeconds : ℤ
  totals : FleetResourceSnapshot
  tenants : List TenantFleetSummary

namespace Fleet

/-! ## The query -/

/-- `status = 'queued' AND required_accelerator = …`. -/
def rollupQueued (a : Accelerator) (r : JobRollup) : Bool :=
  r.status = .queued && r.requiredAccelerator = a

/-- `status = 'running' AND lease_expires_at >= now() AND required_accelerator = …`. -/
def rollupActive (now : Timestamp) (a : Accelerator) (r : JobRollup) : Bool :=
  (r.status = .running && r.leaseExpiresAt.any (now ≤ ·)) && r.requiredAccelerator = a

/-- `created_at >= now() - interval '1 hour'`. -/
def rollupSubmitted (now : Timestamp) (r : JobRollup) : Bool := now - hour ≤ r.createdAt

/-- `greatest(coalesce(max(extract(epoch FROM now() - created_at)) FILTER (…), 0), 0)`. -/
def oldestQueuedSeconds (now : Timestamp) (rollups : List JobRollup) : ℚ :=
  let ages := (rollups.filter (·.status = .queued)).map fun r => now - r.createdAt
  (max 0 (ages.max?.getD 0) : ℤ) / 1000000

/-- `last_seen_at >= now() - (window * interval '1 second')`. -/
def seenWithin (now : Timestamp) (seconds : ℤ) (r : WorkerRollup) : Bool :=
  now - seconds * 1000000 ≤ r.lastSeenAt

/-- The aggregates of the CTEs `job_usage` and `worker_usage` for one tenant.  A tenant without a
    group gets the zeros of `coalesce`, which are the counts of no rows. -/
def resourceUsage (now : Timestamp) (window : ℤ) (jobs : List JobRollup)
    (workers : List WorkerRollup) : FleetResourceSnapshot where
  queuedCpuJobs := jobs.countP (rollupQueued .cpu)
  queuedCudaJobs := jobs.countP (rollupQueued .cuda)
  activeRunningCpuJobs := jobs.countP (rollupActive now .cpu)
  activeRunningCudaJobs := jobs.countP (rollupActive now .cuda)
  jobsSubmittedLastHour := jobs.countP (rollupSubmitted now)
  workersObserved := workers.countP (seenWithin now (24 * 3600))
  activeCpuWorkers := workers.countP fun r => r.supportsCpu && seenWithin now window r
  activeCudaWorkers := workers.countP fun r => r.supportsCuda && seenWithin now window r
  activeGpuDevices := ((workers.filter fun r => r.supportsCuda && seenWithin now window r).map
    WorkerRollup.gpuDevices).sum
  oldestQueuedSeconds := oldestQueuedSeconds now jobs

/-- A row of the query: the left joins, and the aggregates. -/
structure FleetRow extends FleetResourceSnapshot where
  tenantId : TenantId
  tenant : Option TenantRow
  limits : Option TenantQuotaLimits

/-- The CTE `tenant_ids`; `UNION` keeps each id once. -/
def tenantIds (db : Fleet) : List TenantId :=
  (db.tenants.map TenantRow.tenantId ++ db.jobRollups.map JobRollup.tenantId ++
    db.workerRollups.map WorkerRollup.tenantId).dedup

/-- The query's row for a tenant. -/
def fleetRow (db : Fleet) (window : ℤ) (t : TenantId) : FleetRow where
  toFleetResourceSnapshot := resourceUsage db.now window
    (visible JobRollup.tenantId t db.jobRollups) (visible WorkerRollup.tenantId t db.workerRollups)
  tenantId := t
  tenant := lookup TenantRow.tenantId t db.tenants
  limits := db.tenantQuota t

/-! ## The report -/

/-- `coalesce(tenants.status, 'unregistered')`. -/
def fleetStatus : Option TenantRow → FleetTenantStatus
  | none => .unregistered
  | some row => match row.status with
    | .active => .active
    | .suspended => .suspended

/-- `_tenant_fleet_summary`. -/
def tenantFleetSummary (row : FleetRow) : TenantFleetSummary where
  toFleetResourceSnapshot := row.toFleetResourceSnapshot
  tenantId := row.tenantId
  displayName := row.tenant.map TenantRow.displayName
  status := fleetStatus row.tenant
  quota := row.limits.getD unlimited
  saturation :=
    let limits := row.limits.getD unlimited
    { queuedJobs := limits.maxQueuedJobs.any (· ≤ row.queuedCpuJobs + row.queuedCudaJobs)
      jobsPerHour := limits.maxJobsPerHour.any (· ≤ row.jobsSubmittedLastHour)
      runningJobs :=
        limits.maxRunningJobs.any (· ≤ row.activeRunningCpuJobs + row.activeRunningCudaJobs)
      runningCudaJobs := limits.maxRunningCudaJobs.any (· ≤ row.activeRunningCudaJobs) }

/-- `totals`. -/
def fleetTotals (tenants : List TenantFleetSummary) : FleetResourceSnapshot where
  queuedCpuJobs := (tenants.map (·.queuedCpuJobs)).sum
  queuedCudaJobs := (tenants.map (·.queuedCudaJobs)).sum
  activeRunningCpuJobs := (tenants.map (·.activeRunningCpuJobs)).sum
  activeRunningCudaJobs := (tenants.map (·.activeRunningCudaJobs)).sum
  jobsSubmittedLastHour := (tenants.map (·.jobsSubmittedLastHour)).sum
  workersObserved := (tenants.map (·.workersObserved)).sum
  activeCpuWorkers := (tenants.map (·.activeCpuWorkers)).sum
  activeCudaWorkers := (tenants.map (·.activeCudaWorkers)).sum
  activeGpuDevices := (tenants.map (·.activeGpuDevices)).sum
  oldestQueuedSeconds := (tenants.map (·.oldestQueuedSeconds)).max?.getD 0

/-- `ArtifactStore.platform_fleet_report`.  `collation` is the database's order of tenant ids, and
    `utcNow` the application's clock, which only an empty report shows. -/
def platformFleetReport (collation : TenantId → TenantId → Bool) (utcNow : Timestamp) (window : ℤ)
    (db : Fleet) : Except StoreError PlatformFleetReport :=
  if 30 ≤ window ∧ window ≤ 3600 then
    let rows := ((db.tenantIds).insertionSort fun t t' => collation t t' = true).map
      (db.fleetRow window)
    let tenants := rows.map tenantFleetSummary
    .ok {
      observedAt := if rows = [] then utcNow else db.now
      activeWorkerWindowSeconds := window
      totals := fleetTotals tenants
      tenants := tenants }
  else .error (.valueError "active worker window must be between 30 and 3600 seconds")

/-! ## What is asked of the report -/

/-- `enqueue_job` gets past its own checks of the arguments. -/
def Admissible (request : EnqueueRequest) : Prop :=
  ∃ labels spec, effectiveLabels request.agentVersion request.requiredLabels = .ok labels ∧
    JobSpec.ofRequest request labels = .ok spec

/-- The call raises `TenantQuotaExceededError`. -/
def RaisesQuota (db : Fleet) (t : TenantId) (request : EnqueueRequest) (jobId : UUID)
    (createdAt updatedAt : Timestamp) : Prop :=
  ∃ quota limit observed, (db.enqueueJob t request jobId createdAt updatedAt).1 =
    .error (.tenantQuotaExceeded quota limit observed)

/-- The schema with one more job of the tenant. -/
def withJob (db : Fleet) (t : TenantId) (j : EvaluationJob) : Fleet :=
  { db with
    jobs := db.jobs ++ [⟨t, j⟩]
    jobRollups := syncFleetJobRollup (.insert ⟨t, j⟩) db.jobRollups }

/-- Whatever job is queued under the free key, no `lease_job` call gives a job. -/
def LeasesNothing (db : Fleet) (t : TenantId) (jobId : UUID) : Prop :=
  ∀ j : EvaluationJob, j.jobId = jobId → j.status = .queued →
    ∀ workerId leaseSeconds capabilities plan,
      ((db.withJob t j).leaseJob t workerId leaseSeconds capabilities plan).1 = .ok none ∧
        (db.leaseJob t workerId leaseSeconds capabilities plan).1 = .ok none

/-- Whatever job is queued under the free key, no `lease_job` call gives a CUDA job. -/
def LeasesNoCuda (db : Fleet) (t : TenantId) (jobId : UUID) : Prop :=
  ∀ j : EvaluationJob, j.jobId = jobId → j.status = .queued →
    ∀ workerId leaseSeconds capabilities plan leased,
      (((db.withJob t j).leaseJob t workerId leaseSeconds capabilities plan).1 = .ok (some leased) ∨
        (db.leaseJob t workerId leaseSeconds capabilities plan).1 = .ok (some leased)) →
      leased.requiredAccelerator ≠ .cuda

/-- A tenant's summary says what admission control would find at the same instant. -/
structure AgreesWithAdmission (db : Fleet) (s : TenantFleetSummary) : Prop where
  queued : s.queuedCpuJobs + s.queuedCudaJobs =
    (tenantQuotaUsage (db.queue s.tenantId)).queuedJobs
  running : s.activeRunningCpuJobs + s.activeRunningCudaJobs =
    (tenantQuotaUsage (db.queue s.tenantId)).activeRunningJobs
  runningCuda : s.activeRunningCudaJobs =
    (tenantQuotaUsage (db.queue s.tenantId)).activeRunningCudaJobs
  submitted : s.jobsSubmittedLastHour =
    (tenantQuotaUsage (db.queue s.tenantId)).jobsSubmittedLastHour
  submission : ∀ request jobId createdAt updatedAt,
    db.RaisesQuota s.tenantId request jobId createdAt updatedAt ↔
      Admissible request ∧ (s.saturation.queuedJobs = true ∨ s.saturation.jobsPerHour = true)
  lease : ∀ jobId, (∀ r ∈ db.jobs, r.jobId ≠ jobId) →
    (s.saturation.runningJobs = true ↔ db.LeasesNothing s.tenantId jobId)
  leaseCuda : ∀ jobId, (∀ r ∈ db.jobs, r.jobId ≠ jobId) → s.saturation.runningJobs = false →
    (s.saturation.runningCudaJobs = true ↔ db.LeasesNoCuda s.tenantId jobId)

/-- The count columns of a snapshot. -/
def countColumns : List (FleetResourceSnapshot → ℕ) :=
  [FleetResourceSnapshot.queuedCpuJobs, FleetResourceSnapshot.queuedCudaJobs,
    FleetResourceSnapshot.activeRunningCpuJobs, FleetResourceSnapshot.activeRunningCudaJobs,
    FleetResourceSnapshot.jobsSubmittedLastHour, FleetResourceSnapshot.workersObserved,
    FleetResourceSnapshot.activeCpuWorkers, FleetResourceSnapshot.activeCudaWorkers,
    FleetResourceSnapshot.activeGpuDevices]

/-- Each total is the sum of the tenants' counts, and no job is missing from it or counted twice. -/
structure TotalsAddUp (db : Fleet) (report : PlatformFleetReport) : Prop where
  sums : ∀ count ∈ countColumns, count report.totals =
    (report.tenants.map fun s => count s.toFleetResourceSnapshot).sum
  queued : report.totals.queuedCpuJobs + report.totals.queuedCudaJobs =
    db.jobs.countP fun r => r.job.status = .queued
  running : report.totals.activeRunningCpuJobs + report.totals.activeRunningCudaJobs =
    db.jobs.countP fun r => activeRunning db.now r.job
  runningCuda : report.totals.activeRunningCudaJobs =
    db.jobs.countP fun r => activeRunningCuda db.now r.job
  submitted : report.totals.jobsSubmittedLastHour =
    db.jobs.countP fun r => db.now - hour ≤ r.job.createdAt

/-! ## Counts over the rollups -/

variable {db : Fleet}

/-- **A count over a tenant's rollups is the count over its queue.** -/
theorem countP_rollups (h : Exact db) (t : TenantId) (p : JobRollup → Bool)
    (p' : EvaluationJob → Bool) (hp : ∀ r : JobRow, p (jobRollup r) = p' r.job) :
    (visible JobRollup.tenantId t db.jobRollups).countP p = (db.queue t).jobs.countP p' := by
  have hvisible : visible JobRollup.tenantId t db.jobRollups =
      (visible JobRow.tenantId t db.jobs).map jobRollup := by
    rw [h.jobRollups]
    unfold visible
    rw [List.filter_map]
    rfl
  show _ = ((visible JobRow.tenantId t db.jobs).map JobRow.job).countP p'
  rw [hvisible, List.countP_map, List.countP_map]
  exact List.countP_congr fun r _ => by simp [hp r]

/-- The jobs of the two accelerators are all jobs. -/
theorem countP_accelerators (p : EvaluationJob → Bool) (jobs : List EvaluationJob) :
    jobs.countP (fun j => p j && j.requiredAccelerator = .cpu) +
      jobs.countP (fun j => p j && j.requiredAccelerator = .cuda) = jobs.countP p := by
  induction jobs with
  | nil => rfl
  | cons j jobs ih =>
    simp only [List.countP_cons]
    cases p j <;> cases j.requiredAccelerator <;> simp <;> omega

/-- The two queued columns of a row are the tenant's queued jobs. -/
theorem queued_eq (h : Exact db) (window : ℤ) (t : TenantId) :
    (db.fleetRow window t).queuedCpuJobs + (db.fleetRow window t).queuedCudaJobs =
      (tenantQuotaUsage (db.queue t)).queuedJobs := by
  show List.countP _ _ + List.countP _ _ = _
  rw [countP_rollups h t (rollupQueued .cpu)
      (fun j => j.status = .queued && j.requiredAccelerator = .cpu) fun _ => rfl,
    countP_rollups h t (rollupQueued .cuda)
      (fun j => j.status = .queued && j.requiredAccelerator = .cuda) fun _ => rfl]
  exact countP_accelerators (fun j => j.status = .queued) (db.queue t).jobs

/-- The two running columns of a row are the tenant's running jobs. -/
theorem running_eq (h : Exact db) (window : ℤ) (t : TenantId) :
    (db.fleetRow window t).activeRunningCpuJobs + (db.fleetRow window t).activeRunningCudaJobs =
      (tenantQuotaUsage (db.queue t)).activeRunningJobs := by
  show List.countP _ _ + List.countP _ _ = _
  rw [countP_rollups h t (rollupActive db.now .cpu)
      (fun j => activeRunning db.now j && j.requiredAccelerator = .cpu) fun _ => rfl,
    countP_rollups h t (rollupActive db.now .cuda)
      (fun j => activeRunning db.now j && j.requiredAccelerator = .cuda) fun _ => rfl]
  exact countP_accelerators (activeRunning db.now) (db.queue t).jobs

/-- The CUDA column of a row is the tenant's running CUDA jobs. -/
theorem runningCuda_eq (h : Exact db) (window : ℤ) (t : TenantId) : (db.fleetRow window t).activeRunningCudaJobs =
    (tenantQuotaUsage (db.queue t)).activeRunningCudaJobs :=
  countP_rollups h t _ _ fun _ => rfl

/-- The last column of a row is what the tenant submitted in the hour. -/
theorem submitted_eq (h : Exact db) (window : ℤ) (t : TenantId) : (db.fleetRow window t).jobsSubmittedLastHour =
    (tenantQuotaUsage (db.queue t)).jobsSubmittedLastHour :=
  countP_rollups h t _ _ fun _ => rfl

/-! ## Flags and the next submission -/

variable {window : ℤ} {t : TenantId}

/-- Labels are refused with a message. -/
theorem effectiveLabels_error {agentVersion : String} {labels : Labels} {e : StoreError}
    (h : effectiveLabels agentVersion labels = .error e) : ∃ message, e = .valueError message := by
  have hrule : ∀ {family runtime message : String} {labels : Labels} {e : StoreError},
      runtimeLabel family runtime message agentVersion labels = .error e → e = .valueError message := by
    intro family runtime message labels e h
    unfold runtimeLabel at h
    split_ifs at h
    split at h
    · cases h
    · split_ifs at h
      exact (Except.error.inj h).symm
  unfold effectiveLabels at h
  rcases Raising.bind_error h with h | ⟨_, -, h⟩
  · exact ⟨_, hrule h⟩
  rcases Raising.bind_error h with h | ⟨_, -, h⟩
  · exact ⟨_, hrule h⟩
  rcases Raising.bind_error h with h | ⟨_, -, h⟩
  · exact ⟨_, hrule h⟩
  · exact ⟨_, hrule h⟩

/-- Requests are refused with the name of a field, as no quota refuses. -/
theorem ofRequest_error {request : EnqueueRequest} {labels : Labels} {e : StoreError}
    (h : JobSpec.ofRequest request labels = .error e) : ∃ field, e = .validationError field := by
  have hmig : ∀ value, normalizeMigProfile value = .error e →
      e = .validationError "required_mig_profile" := by
    intro value h
    unfold normalizeMigProfile at h
    dsimp only at h
    split_ifs at h
    exact (Except.error.inj h).symm
  unfold JobSpec.ofRequest at h
  extract_lets profiled at h
  have hprofiled : ∀ mig, profiled mig = .error e → ∃ field, e = .validationError field := by
    intro mig h
    unfold profiled at h
    extract_lets traced at h
    -- what follows the two conversions is one constraint after the other
    have htraced : ∀ trace, traced trace = .error e → ∃ field, e = .validationError field := by
      intro trace h
      unfold traced at h
      split_ifs at h
      all_goals exact ⟨_, (Except.error.inj h).symm⟩
    cases ht : request.traceparent with
    | none =>
      rw [ht] at h
      exact htraced none h
    | some value =>
      rw [ht] at h
      by_cases hvalue : isTraceparent value = true
      · exact htraced (some ⟨value, hvalue⟩) ((dif_pos hvalue).symm.trans h)
      · exact ⟨_, (Except.error.inj ((dif_neg hvalue).symm.trans h)).symm⟩
  cases hm : request.requiredMigProfile with
  | none =>
    rw [hm] at h
    exact hprofiled none h
  | some value =>
    rw [hm] at h
    rcases Raising.bind_error h with h | ⟨mig, -, h⟩
    · exact ⟨_, hmig value (Raising.map_error h)⟩
    · exact hprofiled mig h

/-- The checks of the arguments never raise a quota error. -/
theorem spec_error_not_quota {request : EnqueueRequest} {e : StoreError}
    (h : (do
      let labels ← effectiveLabels request.agentVersion request.requiredLabels
      JobSpec.ofRequest request labels) = .error e) (quota : String) (limit observed : ℕ) :
    e ≠ .tenantQuotaExceeded quota limit observed := by
  rcases Raising.bind_error h with h | ⟨labels, -, h⟩
  · obtain ⟨message, rfl⟩ := effectiveLabels_error h
    exact StoreError.noConfusion
  · obtain ⟨field, rfl⟩ := ofRequest_error h
    exact StoreError.noConfusion

/-- The submission quota refuses, or it lets the insert go on. -/
theorem checkSubmissionQuota_cases (q : Queue) :
    let limits := q.quota.getD unlimited
    let full := limits.maxQueuedJobs.any (· ≤ (tenantQuotaUsage q).queuedJobs) = true ∨
      limits.maxJobsPerHour.any (· ≤ (tenantQuotaUsage q).jobsSubmittedLastHour) = true
    (full ∧ ∃ quota limit observed,
        checkSubmissionQuota q = .error (.tenantQuotaExceeded quota limit observed)) ∨
      (¬full ∧ checkSubmissionQuota q = .ok ()) := by
  unfold checkSubmissionQuota
  cases hquota : q.quota with
  | none => exact Or.inr ⟨by simp [unlimited], rfl⟩
  | some limits =>
    dsimp only [Option.getD_some]
    split_ifs with hqueued hhourly
    · exact Or.inl ⟨Or.inl hqueued, _, _, _, rfl⟩
    · exact Or.inl ⟨Or.inr hhourly, _, _, _, rfl⟩
    · exact Or.inr ⟨by rintro (h | h); exacts [hqueued h, hhourly h], rfl⟩

/-- The INSERT raises no quota. -/
theorem insertJob_not_quota {j : EvaluationJob} (quota : String) (limit observed : ℕ) :
    db.insertJob t j ≠ .error (.tenantQuotaExceeded quota limit observed) := by
  unfold insertJob
  intro h
  split_ifs at h <;> cases h

/-- **A submission is refused for a quota exactly if it is otherwise in order and one of the two
    quotas is used up.** -/
theorem raisesQuota_iff (request : EnqueueRequest) (jobId : UUID)
    (createdAt updatedAt : Timestamp) :
    db.RaisesQuota t request jobId createdAt updatedAt ↔ Admissible request ∧
      (((db.tenantQuota t).getD unlimited).maxQueuedJobs.any
          (· ≤ (tenantQuotaUsage (db.queue t)).queuedJobs) = true ∨
        ((db.tenantQuota t).getD unlimited).maxJobsPerHour.any
          (· ≤ (tenantQuotaUsage (db.queue t)).jobsSubmittedLastHour) = true) := by
  unfold RaisesQuota enqueueJob
  cases hspec : (do
    let labels ← effectiveLabels request.agentVersion request.requiredLabels
    JobSpec.ofRequest request labels : Except StoreError JobSpec) with
  | error e =>
    constructor
    · rintro ⟨quota, limit, observed, h⟩
      exact absurd (Except.error.inj h) (spec_error_not_quota hspec quota limit observed)
    · rintro ⟨⟨labels, spec, hlabels, hok⟩, -⟩
      rw [hlabels] at hspec
      simp only [bind, Except.bind, hok] at hspec
      cases hspec
  | ok spec =>
    have hadmissible : Admissible request := by
      cases hlabels : effectiveLabels request.agentVersion request.requiredLabels with
      | error e => rw [hlabels] at hspec; cases hspec
      | ok labels =>
        rw [hlabels] at hspec
        exact ⟨labels, spec, hlabels, hspec⟩
    rw [and_iff_right hadmissible]
    unfold transaction
    -- past the check only the insert can raise, and that is no quota error
    rcases checkSubmissionQuota_cases (db.queue t) with
      ⟨hfull, quota, limit, observed, hraise⟩ | ⟨hfree, hok⟩
    · refine iff_of_true ⟨quota, limit, observed, ?_⟩ hfull
      simp only [hraise, bind, Except.bind]
    · refine iff_of_false ?_ hfree
      rintro ⟨quota, limit, observed, h⟩
      simp only [hok, bind, Except.bind] at h
      cases hinsert : db.insertJob t { toJobSpec := spec, jobId, createdAt, updatedAt } with
      | ok r => rw [hinsert] at h; cases h
      | error e =>
        rw [hinsert] at h
        exact insertJob_not_quota quota limit observed (hinsert.trans (congrArg _ (Except.error.inj h)))

/-! ## Flags and the next lease -/

/-- The tenant's view of the fleet has each job once. -/
theorem keyed_queue (h : Exact db) (t : TenantId) :
    Keyed EvaluationJob.jobId (db.queue t).jobs := by
  show ((List.map JobRow.job _).map EvaluationJob.jobId).Nodup
  rw [List.map_map]
  exact Keyed.visible h.jobs t

/-- The fleet with one more job, under a fresh identifier, is as exact as it was. -/
theorem withJob_exact (h : Exact db) {j : EvaluationJob}
    (hfree : ∀ r ∈ db.jobs, r.jobId ≠ j.jobId) : Exact (db.withJob t j) :=
  (JobChange.insert j hfree).exact h

/-- The tenant of the job sees it behind the others. -/
theorem withJob_queue (j : EvaluationJob) :
    (db.withJob t j).queue t = { db.queue t with jobs := (db.queue t).jobs ++ [j] } :=
  queue_insert j _

/-- One more queued job leaves the active leases as they are. -/
theorem withJob_quota (db : Fleet) (t : TenantId) {j : EvaluationJob} (hj : j.status = .queued) :
    runningQuotaFull ((db.withJob t j).queue t) = runningQuotaFull (db.queue t) ∧
      cudaQuotaAvailable ((db.withJob t j).queue t) = cudaQuotaAvailable (db.queue t) := by
  have hidle : ∀ now, activeRunning now j = false := fun now =>
    activeRunning_of_status (by rw [hj]; decide)
  have hrunning : (tenantQuotaUsage ((db.withJob t j).queue t)).activeRunningJobs =
      (tenantQuotaUsage (db.queue t)).activeRunningJobs := by
    rw [withJob_queue]
    show List.countP _ (_ ++ [j]) = List.countP _ _
    rw [List.countP_append, List.countP_singleton, hidle, if_neg (by simp), Nat.add_zero]
  have hcuda : (tenantQuotaUsage ((db.withJob t j).queue t)).activeRunningCudaJobs =
      (tenantQuotaUsage (db.queue t)).activeRunningCudaJobs := by
    rw [withJob_queue]
    show List.countP _ (_ ++ [j]) = List.countP _ _
    rw [List.countP_append, List.countP_singleton, activeRunningCuda, hidle, Bool.false_and,
      if_neg (by simp), Nat.add_zero]
  unfold runningQuotaFull cudaQuotaAvailable
  rw [hrunning, hcuda, withJob_queue]
  exact ⟨rfl, rfl⟩

/-- With the running quota full, a lease gives nothing and changes nothing. -/
theorem leaseJob_full (hfull : runningQuotaFull (db.queue t) = true) (workerId : String)
    (leaseSeconds : ℤ) (capabilities : Option WorkerCapabilities) (plan : ClaimPlan) :
    db.leaseJob t workerId leaseSeconds capabilities plan = (.ok none, db) := by
  unfold leaseJob transaction
  dsimp only
  rw [hfull]
  rfl

/-- A leased job passed the claim predicate. -/
theorem leaseJob_admits (h : Exact db) {workerId : String} {leaseSeconds : ℤ}
    {capabilities : Option WorkerCapabilities} {plan : ClaimPlan} {leased : EvaluationJob}
    (hleased : (db.leaseJob t workerId leaseSeconds capabilities plan).1 = .ok (some leased)) :
    placementAdmits (Offer.ofCapabilities capabilities) (cudaQuotaAvailable (db.queue t)) leased =
      true := by
  rw [(leaseJob_sees workerId leaseSeconds capabilities plan).1] at hleased
  rcases leaseJob_cases (keyed_queue h t) workerId leaseSeconds capabilities plan with
    ⟨-, hl⟩ | ⟨-, ⟨e, -, hl⟩ | ⟨-, hl⟩ | ⟨j, hclaim, ⟨-, hl⟩ | ⟨-, jobs', -, hl⟩⟩⟩
  all_goals rw [hl] at hleased
  all_goals cases hleased
  have hadmits := claimPredicate_admits (nextClaim_some hclaim).2
  exact hadmits

theorem priority_zero : -100 ≤ (0 : ℤ) ∧ (0 : ℤ) ≤ 100 := by decide

theorem attempts_three : 1 ≤ 3 ∧ 3 ≤ 10 := by decide

/-- A job without device constraints needs no accelerator. -/
theorem no_gpu_needs (a : Accelerator) (h : 0 < 0 ∨ (none : Option Float64) ≠ none ∨ 0 < 0 ∨
    (none : Option Float64) ≠ none ∨ (none : Option MigProfile) ≠ none) : a = .cuda := by
  rcases h with h | h | h | h | h
  · exact absurd h (Nat.lt_irrefl 0)
  · exact absurd rfl h
  · exact absurd h (Nat.lt_irrefl 0)
  · exact absurd rfl h
  · exact absurd rfl h

/-- A queued job under a free key that any worker with its accelerator can take. -/
def plainJob (a : Accelerator) (jobId : UUID) : EvaluationJob where
  suitePath := "suites/coding.yaml"
  agentVersion := "deterministic-v1"
  priority := 0
  maxAttempts := 3
  requiredAccelerator := a
  requiredLabels := []
  minimumGpuMemoryMb := 0
  minimumCudaComputeCapability := none
  minimumGpuMemoryAvailableMb := 0
  maximumGpuUtilizationPercent := none
  requiredMigProfile := none
  traceparent := none
  requestId := none
  priority_range := priority_zero
  attempts_range := attempts_three
  compute_ge := none_at_least_one
  utilization_range := none_in_range
  gpu_needs_cuda := no_gpu_needs a
  jobId := jobId
  createdAt := 0
  updatedAt := 0

/-- A lease whose deadline falls within the first second of the epoch. -/
def soonSeconds (now : Timestamp) : ℤ := -(now / 1000000)

/-- A lease to the end of the range can be held by a `datetime`. -/
theorem representable_soon (now : ℤ) :
    representable (leaseDeadline now (soonSeconds now)) = true := by
  have hmod : leaseDeadline now (soonSeconds now) = now % 1000000 := by
    show now + -(now / 1000000) * 1000000 = now % 1000000
    omega
  have hlow : 0 ≤ now % 1000000 := Int.emod_nonneg _ (by decide)
  have hhigh : now % 1000000 < 1000000 := Int.emod_lt_of_pos _ (by decide)
  rw [hmod]
  unfold representable
  rw [Bool.and_eq_true, decide_eq_true_eq, decide_eq_true_eq]
  exact ⟨le_trans (by decide) hlow, le_trans hhigh.le (by decide)⟩

/-- A worker without labels and devices has nothing to send that PostgreSQL refuses. -/
theorem claimParameters_bare (a : Accelerator) {now : Timestamp} {leaseSeconds : ℤ}
    (hrep : representable (leaseDeadline now leaseSeconds) = true) :
    claimParameters now (Offer.ofCapabilities (some ⟨[a], [], []⟩)) "worker" leaseSeconds =
      .ok () := by
  have hinterval : intervalFits now leaseSeconds = true := by
    unfold intervalFits
    rw [hrep, Bool.or_true]
  have hworker : isStorableText "worker" = true := by decide
  have hprint : gpuProfilesPrint (Offer.ofCapabilities (some ⟨[a], [], []⟩)) = true := rfl
  unfold claimParameters
  rw [hprint, hworker, hinterval]
  rfl

/-- While the running quota is free, a worker that offers one accelerator gets a job of it. -/
theorem leases_plainJob (h : Exact db) {a : Accelerator} {jobId : UUID}
    (hfree : ∀ r ∈ db.jobs, r.jobId ≠ jobId) (hquota : runningQuotaFull (db.queue t) = false)
    (hcuda : a = .cuda → cudaQuotaAvailable (db.queue t) = true) (plan : ClaimPlan) :
    ∃ leased, ((db.withJob t (plainJob a jobId)).leaseJob t "worker" (soonSeconds db.now)
      (some ⟨[a], [], []⟩) plan).1 = .ok (some leased) ∧ leased.requiredAccelerator = a := by
  have hexact := withJob_exact (t := t) h (j := plainJob a jobId) hfree
  obtain ⟨hfull, havailable⟩ := withJob_quota db t (show (plainJob a jobId).status = .queued from rfl)
  have hmem : plainJob a jobId ∈ ((db.withJob t (plainJob a jobId)).queue t).jobs := by
    rw [withJob_queue]
    exact List.mem_append_right _ List.mem_cons_self
  have hplace : placementAdmits (Offer.ofCapabilities (some ⟨[a], [], []⟩))
      (cudaQuotaAvailable ((db.withJob t (plainJob a jobId)).queue t)) (plainJob a jobId) = true := by
    rw [havailable]
    exact admits_of_unconstrained (List.mem_singleton_self a) hcuda rfl rfl rfl rfl rfl rfl
  obtain ⟨leased, hleased⟩ : ∃ x, (Jobs.leaseJob "worker" (soonSeconds db.now)
      (some ⟨[a], [], []⟩) plan ((db.withJob t (plainJob a jobId)).queue t)).1 = .ok (some x) :=
    leaseJob_of_claimable (keyed_queue hexact t) hmem rfl plan (hfull.trans hquota)
      (claimParameters_bare a (representable_soon db.now)) rfl hplace (representable_soon db.now)
  rw [← (leaseJob_sees "worker" (soonSeconds db.now) (some ⟨[a], [], []⟩) plan).1] at hleased
  refine ⟨leased, hleased, ?_⟩
  -- the worker offers nothing else
  exact List.mem_singleton.mp (accelerator_of_admits (leaseJob_admits hexact hleased)).1

/-- The flag of the running quota says what a lease asks. -/
theorem runningJobs_flag (h : Exact db) :
    (tenantFleetSummary (db.fleetRow window t)).saturation.runningJobs =
      runningQuotaFull (db.queue t) := by
  show ((db.tenantQuota t).getD unlimited).maxRunningJobs.any _ = (db.tenantQuota t).any _
  rw [running_eq h window t]
  cases db.tenantQuota t <;> rfl

/-- The flag of the CUDA quota says what a lease of a CUDA job asks. -/
theorem runningCudaJobs_flag (h : Exact db) :
    (tenantFleetSummary (db.fleetRow window t)).saturation.runningCudaJobs =
      !cudaQuotaAvailable (db.queue t) := by
  show ((db.tenantQuota t).getD unlimited).maxRunningCudaJobs.any _ = !(db.tenantQuota t).all _
  rw [runningCuda_eq h window t]
  cases db.tenantQuota t with
  | none => rfl
  | some limits =>
    show limits.maxRunningCudaJobs.any _ = !limits.maxRunningCudaJobs.all _
    cases limits.maxRunningCudaJobs with
    | none => rfl
    | some m =>
      show decide (m ≤ _) = !decide (_ < m)
      rw [← decide_not]
      exact decide_eq_decide.mpr not_lt.symm

/-- The running quota is full exactly if no call leases anything, a further job included. -/
theorem runningQuotaFull_iff (h : Exact db) {jobId : UUID}
    (hfree : ∀ r ∈ db.jobs, r.jobId ≠ jobId) :
    runningQuotaFull (db.queue t) = true ↔ db.LeasesNothing t jobId := by
  constructor
  · intro hfull j _ hj workerId leaseSeconds capabilities plan
    have hfull' := (withJob_quota db t hj).1.trans hfull
    exact ⟨by rw [leaseJob_full hfull'], by rw [leaseJob_full hfull]⟩
  · intro hnothing
    by_contra hquota
    obtain ⟨leased, hleased, -⟩ := leases_plainJob (t := t) (a := .cpu) h hfree
      (by simpa using hquota) (fun ha => by cases ha) ClaimPlan.scan
    have hnone := (hnothing (plainJob .cpu jobId) rfl rfl "worker" (soonSeconds db.now)
      (some ⟨[.cpu], [], []⟩) ClaimPlan.scan).1
    rw [hleased] at hnone
    cases hnone

/-- With the running quota free, the CUDA quota is full exactly if no call leases a CUDA job. -/
theorem cudaQuotaAvailable_iff (h : Exact db) {jobId : UUID}
    (hfree : ∀ r ∈ db.jobs, r.jobId ≠ jobId) (hquota : runningQuotaFull (db.queue t) = false) :
    cudaQuotaAvailable (db.queue t) = false ↔ db.LeasesNoCuda t jobId := by
  constructor
  · intro hfull j hid hj workerId leaseSeconds capabilities plan leased hleased hcuda
    have hexact := withJob_exact (t := t) h (j := j) (by rw [hid]; exact hfree)
    have hadmits : placementAdmits (Offer.ofCapabilities capabilities)
        (cudaQuotaAvailable (db.queue t)) leased = true := by
      rcases hleased with hleased | hleased
      · rw [← (withJob_quota db t hj).2]
        exact leaseJob_admits hexact hleased
      · exact leaseJob_admits h hleased
    rw [(accelerator_of_admits hadmits).2 hcuda] at hfull
    cases hfull
  · intro hnocuda
    by_contra havailable
    obtain ⟨leased, hleased, hcuda⟩ := leases_plainJob (t := t) (a := .cuda) h hfree hquota
      (fun _ => by simpa using havailable) ClaimPlan.scan
    exact hnocuda (plainJob .cuda jobId) rfl rfl "worker" (soonSeconds db.now)
      (some ⟨[.cuda], [], []⟩) ClaimPlan.scan leased (Or.inl hleased) hcuda

/-- **The summary of a tenant agrees with admission control.** -/
theorem summary_agrees (h : Exact db) (window : ℤ) (t : TenantId) :
    AgreesWithAdmission db (tenantFleetSummary (db.fleetRow window t)) where
  queued := queued_eq h window t
  running := running_eq h window t
  runningCuda := runningCuda_eq h window t
  submitted := submitted_eq h window t
  submission := by
    intro request jobId createdAt updatedAt
    have hqueued := queued_eq h window t
    have hsubmitted := submitted_eq h window t
    show db.RaisesQuota t request jobId createdAt updatedAt ↔ Admissible request ∧
      (((db.tenantQuota t).getD unlimited).maxQueuedJobs.any _ = true ∨
        ((db.tenantQuota t).getD unlimited).maxJobsPerHour.any _ = true)
    rw [hqueued, hsubmitted]
    exact raisesQuota_iff request jobId createdAt updatedAt
  lease := by
    intro jobId hfree
    rw [runningJobs_flag h]
    exact runningQuotaFull_iff h hfree
  leaseCuda := by
    intro jobId hfree hrunning
    rw [runningJobs_flag h] at hrunning
    rw [runningCudaJobs_flag h, Bool.not_eq_true']
    exact cudaQuotaAvailable_iff h hfree hrunning

/-! ## Totals -/

/-- A tenant with a job is listed. -/
theorem tenantId_mem (h : Exact db) {r : JobRow} (hr : r ∈ db.jobs) : r.tenantId ∈ db.tenantIds := by
  have hrollup : jobRollup r ∈ db.jobRollups := by
    rw [h.jobRollups]
    exact List.mem_map_of_mem hr
  refine List.mem_dedup.mpr (List.mem_append_left _ (List.mem_append_right _ ?_))
  exact List.mem_map_of_mem (f := JobRollup.tenantId) hrollup

/-- Counting queue by queue counts the table. -/
theorem sum_queues (h : Exact db) {ids : List TenantId} (hids : ids.Perm db.tenantIds)
    (p : EvaluationJob → Bool) :
    (ids.map fun t => (db.queue t).jobs.countP p).sum = db.jobs.countP fun r => p r.job := by
  have hnodup : ids.Nodup := hids.nodup_iff.mpr (List.nodup_dedup _)
  have hall : ∀ r ∈ db.jobs, r.tenantId ∈ ids := fun r hr => hids.mem_iff.mpr (tenantId_mem h hr)
  rw [← sum_countP_visible hnodup hall fun r => p r.job]
  refine congrArg List.sum (List.map_congr_left fun t _ => ?_)
  exact List.countP_map

/-- **The totals are those of the tables**: every job belongs to one listed tenant. -/
theorem totals_addUp (h : Exact db) {ids : List TenantId} (hids : ids.Perm db.tenantIds)
    (window : ℤ) {report : PlatformFleetReport}
    (htenants : report.tenants = ids.map fun t => tenantFleetSummary (db.fleetRow window t))
    (htotals : report.totals = fleetTotals report.tenants) : TotalsAddUp db report := by
  have hsum : ∀ {f : TenantFleetSummary → ℕ} {p : EvaluationJob → Bool},
      (∀ t, f (tenantFleetSummary (db.fleetRow window t)) = (db.queue t).jobs.countP p) →
      (report.tenants.map f).sum = db.jobs.countP fun r => p r.job := by
    intro f p hf
    rw [htenants, List.map_map, ← sum_queues h hids p]
    exact congrArg List.sum (List.map_congr_left fun t _ => hf t)
  refine ⟨?_, ?_, ?_, ?_, ?_⟩ <;> rw [htotals]
  · simp [countColumns, fleetTotals]
  · show (List.map _ _).sum + (List.map _ _).sum = _
    rw [← List.sum_map_add]
    exact hsum (p := fun j => j.status = .queued) (queued_eq h window)
  · show (List.map _ _).sum + (List.map _ _).sum = _
    rw [← List.sum_map_add]
    exact hsum (p := activeRunning db.now) (running_eq h window)
  · exact hsum (p := activeRunningCuda db.now) (runningCuda_eq h window)
  · exact hsum (p := fun j => db.now - hour ≤ j.createdAt) (submitted_eq h window)

/-! ## The report of a reachable state -/

/-- **The fleet report agrees with admission control**: in every state of every run each registered
    tenant has one summary, every summary agrees with what admission control would find, and the
    totals add up. -/
theorem fleetReport_agrees (now : Timestamp) (ops : List FleetOp)
    (collation : TenantId → TenantId → Bool) (utcNow : Timestamp) (window : ℤ)
    (hwindow : 30 ≤ window ∧ window ≤ 3600) :
    let db := Runs.run step (empty now) ops
    ∃ report, platformFleetReport collation utcNow window db = .ok report ∧
      (∀ row ∈ db.tenants, report.observedAt = db.now ∧
        ∃! s, s ∈ report.tenants ∧ s.tenantId = row.tenantId) ∧
      (∀ s ∈ report.tenants, AgreesWithAdmission db s) ∧
      TotalsAddUp db report := by
  intro db
  have h : Exact db := exact_run now ops
  have hids : (db.tenantIds.insertionSort fun t t' => collation t t' = true).Perm db.tenantIds :=
    List.perm_insertionSort _ _
  -- the report has the summaries of the known tenants
  have hrows : ∀ s, s ∈ ((db.tenantIds.insertionSort fun t t' => collation t t' = true).map
      (db.fleetRow window)).map tenantFleetSummary ↔
        ∃ t ∈ db.tenantIds, tenantFleetSummary (db.fleetRow window t) = s := by
    intro s
    simp [hids.mem_iff]
  refine ⟨_, if_pos hwindow, ?_, ?_, totals_addUp h hids window List.map_map rfl⟩
  · intro row hrow
    have hmem : row.tenantId ∈ db.tenantIds :=
      List.mem_dedup.mpr (List.mem_append_left _ (List.mem_append_left _
        (List.mem_map_of_mem hrow)))
    refine ⟨if_neg ?_, tenantFleetSummary (db.fleetRow window row.tenantId),
      ⟨(hrows _).mpr ⟨_, hmem, rfl⟩, rfl⟩, ?_⟩
    · intro hnil
      have hpos := hids.mem_iff.mpr hmem
      rw [List.map_eq_nil_iff.mp hnil] at hpos
      cases hpos
    · rintro s ⟨hs, hid⟩
      obtain ⟨t, -, rfl⟩ := (hrows s).mp hs
      obtain rfl : t = row.tenantId := hid
      rfl
  · intro s hs
    obtain ⟨t, -, rfl⟩ := (hrows s).mp hs
    exact summary_agrees h window t

theorem isTenantId_default : isTenantId "default" = true := by decide

theorem displayName_default : 1 ≤ "Default".length ∧ "Default".length ≤ 200 := by decide

/-- A tenant whose one queued job fills its queue. -/
def fullQueue : List FleetOp :=
  let t : TenantId := ⟨"default", isTenantId_default⟩
  [.createTenant ⟨t, "Default", .active, 0, "operator", 0, "operator", displayName_default⟩,
    .setTenantQuota t { unlimited with maxQueuedJobs := some 1 },
    .job t (.enqueueJob codingJob 1 0 0)]

/-- A tenant whose queue is full: the row says so, and its next submission is refused. -/
theorem fleetReport_agrees_fullQueue :
    let db := Runs.run step (empty 0) fullQueue
    ∃ report, platformFleetReport (fun _ _ => true) 0 120 db = .ok report ∧
      (∀ row ∈ db.tenants, report.observedAt = db.now ∧
        ∃! s, s ∈ report.tenants ∧ s.tenantId = row.tenantId) ∧
      (∀ s ∈ report.tenants, AgreesWithAdmission db s) ∧
      TotalsAddUp db report :=
  fleetReport_agrees 0 fullQueue (fun _ _ => true) 0 120 (by decide)

example : (platformFleetReport (fun _ _ => true) 0 120 (Runs.run step (empty 0) fullQueue)).toOption.map
    (fun report => report.tenants.map fun s => (s.queuedCpuJobs, s.saturation)) =
      some [(1, ⟨true, false, false, false⟩)] := by decide +kernel

end Fleet

end AEControl.Jobs
