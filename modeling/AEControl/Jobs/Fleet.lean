/-
  The job tables of all tenants (`store.py`), as one schema holds them.

  `Jobs.Store` tells the queue of one tenant.  Here the tables are shared: `evaluation_jobs` and
  `workers` are under row-level security, so a method called for a tenant reads that tenant's queue
  (`Fleet.queue`) and updates that tenant's rows; the primary key `job_id` is one for all tenants.
  Two row triggers keep `fleet_job_rollups` and `fleet_worker_rollups`, which the operator's report
  reads in place of the secured tables.

  Three results about it, for the modules above:
  1. `performJob_change`, what a job method can do to the tables at all: insert one row of the
     tenant, or update rows of the tenant, each with its trigger;
  2. `performJob_sees`, the simulation: a job method does for its tenant what it does on the
     tenant's queue, where no other tenant holds the key it inserts (`KeyFree`);
  3. `exact_run`: the rollups hold what the tables hold (`Exact`) in every state of every run.
-/
import AEControl.Lib.RowSecurity
import AEControl.Lib.Mirror
import AEControl.Lib.Runs
import AEControl.Jobs.Placement
import AEControl.Tenancy.Registry

namespace AEControl.Jobs

open Table RowSecurity Mirror Evidence Tenancy

/-! ## Tables -/

/-- A row of `evaluation_jobs`, with the column row-level security adds. -/
structure JobRow where
  tenantId : TenantId
  job : EvaluationJob

/-- A row of `workers`. -/
structure WorkerRow where
  tenantId : TenantId
  worker : WorkerRecord

/-- A row of `tenant_quotas`. -/
structure QuotaRow where
  tenantId : TenantId
  limits : TenantQuotaLimits

/-- A row of `fleet_job_rollups`. -/
structure JobRollup where
  tenantId : TenantId
  jobId : UUID
  status : JobStatus
  requiredAccelerator : Accelerator
  createdAt : Timestamp
  leaseExpiresAt : Option Timestamp
  updatedAt : Timestamp

/-- A row of `fleet_worker_rollups`. -/
structure WorkerRollup where
  tenantId : TenantId
  workerId : String
  supportsCpu : Bool
  supportsCuda : Bool
  gpuDevices : ℕ
  lastSeenAt : Timestamp

/-- `PRIMARY KEY (job_id)`. -/
def JobRow.jobId (r : JobRow) : UUID := r.job.jobId

/-- The key of the rollup, `(tenant_id, job_id)`. -/
def JobRow.key (r : JobRow) : TenantId × UUID := (r.tenantId, r.job.jobId)

/-- `PRIMARY KEY (tenant_id, worker_id)`. -/
def WorkerRow.key (r : WorkerRow) : TenantId × String := (r.tenantId, r.worker.workerId)

def JobRollup.key (r : JobRollup) : TenantId × UUID := (r.tenantId, r.jobId)

def WorkerRollup.key (r : WorkerRollup) : TenantId × String := (r.tenantId, r.workerId)

/-- A row with other columns, still of the same tenant. -/
def JobRow.set (f : EvaluationJob → EvaluationJob) (r : JobRow) : JobRow :=
  { r with job := f r.job }

@[simp] theorem JobRow.tenantId_set (f : EvaluationJob → EvaluationJob) (r : JobRow) :
    (r.set f).tenantId = r.tenantId := rfl

/-- The tables of one schema that the job methods and the fleet report read, and the clock. -/
structure Fleet where
  now : Timestamp
  tenants : List TenantRow
  quotas : List QuotaRow
  jobs : List JobRow
  workers : List WorkerRow
  /-- The keys `(tenant_id, run_id)` of `evaluation_runs`. -/
  runs : List (TenantId × UUID)
  jobRollups : List JobRollup
  workerRollups : List WorkerRollup

namespace Fleet

/-- A schema after its first `initialize`. -/
def empty (now : Timestamp) : Fleet := ⟨now, [], [], [], [], [], [], []⟩

/-- `_tenant_quota`. -/
def tenantQuota (db : Fleet) (t : TenantId) : Option TenantQuotaLimits :=
  (lookup QuotaRow.tenantId t db.quotas).map QuotaRow.limits

/-- What a transaction of the tenant sees. -/
def queue (db : Fleet) (t : TenantId) : Queue where
  now := db.now
  quota := db.tenantQuota t
  jobs := (visible JobRow.tenantId t db.jobs).map JobRow.job
  runs := (visible Prod.fst t db.runs).map Prod.snd

/-! ## The rollup triggers -/

/-- The columns `sync_fleet_job_rollup` copies. -/
def jobRollup (r : JobRow) : JobRollup :=
  ⟨r.tenantId, r.job.jobId, r.job.status, r.job.requiredAccelerator, r.job.createdAt,
    r.job.leaseExpiresAt, r.job.updatedAt⟩

/-- The columns `sync_fleet_worker_rollup` computes from `capabilities`. -/
def workerRollup (r : WorkerRow) : WorkerRollup :=
  ⟨r.tenantId, r.worker.workerId, r.worker.capabilities.accelerators.contains .cpu,
    r.worker.capabilities.accelerators.contains .cuda, r.worker.capabilities.gpus.length,
    r.worker.lastSeenAt⟩

/-- `sync_fleet_job_rollup`. -/
def syncFleetJobRollup : RowEvent JobRow → List JobRollup → List JobRollup :=
  sync JobRow.key JobRollup.key jobRollup

/-- `sync_fleet_worker_rollup`. -/
def syncFleetWorkerRollup : RowEvent WorkerRow → List WorkerRollup → List WorkerRollup :=
  sync WorkerRow.key WorkerRollup.key workerRollup

/-- `_backfill_fleet_rollups`, part of every `initialize`. -/
def backfillFleetRollups (db : Fleet) : Fleet :=
  { db with
    jobRollups := db.jobs.map jobRollup
    workerRollups := db.workers.map workerRollup }

/-! ## Statements -/

/-- `UPDATE evaluation_jobs SET … WHERE job_id = … AND … RETURNING *`. -/
def updateJobs (t : TenantId) (jobId : UUID) (p : EvaluationJob → Bool)
    (set : EvaluationJob → EvaluationJob) (db : Fleet) : Option EvaluationJob × Fleet :=
  let p := reaches JobRow.tenantId t fun r => p r.job
  ((returning JobRow.jobId jobId p (JobRow.set set) db.jobs).map JobRow.job,
    { db with
      jobs := Table.update JobRow.jobId jobId p (JobRow.set set) db.jobs
      jobRollups := syncUpdate JobRow.key JobRollup.key jobRollup JobRow.jobId jobId p
        (JobRow.set set) db.jobs db.jobRollups })

/-- `INSERT INTO evaluation_jobs … RETURNING *`. -/
def insertJob (t : TenantId) (j : EvaluationJob) (db : Fleet) :
    Except StoreError (EvaluationJob × Fleet) :=
  if 2147483647 < j.minimumGpuMemoryMb ∨ 2147483647 < j.minimumGpuMemoryAvailableMb then
    .error .dataError
  else if (lookup JobRow.jobId j.jobId db.jobs).isSome then .error .uniqueViolation
  else .ok (j,
    { db with
      jobs := db.jobs ++ [⟨t, j⟩]
      jobRollups := syncFleetJobRollup (.insert ⟨t, j⟩) db.jobRollups })

/-- `with self._connect() as connection:`. -/
def transaction {α : Type} (body : Fleet → Except StoreError (α × Fleet)) (db : Fleet) :
    Except StoreError α × Fleet :=
  match body db with
  | .ok (a, db') => (.ok a, db')
  | .error e => (.error e, db)

/-- The update as the methods use it: the constraint check `ref` PostgreSQL makes on the updated
    row, then `.fetchone()`. -/
def guardedUpdate (t : TenantId) (jobId : UUID) (p : EvaluationJob → Bool)
    (set : EvaluationJob → EvaluationJob) (ref : EvaluationJob → Bool) (db : Fleet) :
    Except StoreError (Option EvaluationJob × Fleet) := do
  let (row, db') := db.updateJobs t jobId p set
  if row.all ref then
    let row ← fetchone row
    pure (row, db')
  else .error .foreignKeyViolation

/-! ## The job methods, called for a tenant -/

/-- `ArtifactStore.enqueue_job`. -/
def enqueueJob (t : TenantId) (request : EnqueueRequest) (jobId : UUID)
    (createdAt updatedAt : Timestamp) (db : Fleet) : Except StoreError EvaluationJob × Fleet :=
  match (do
    let labels ← effectiveLabels request.agentVersion request.requiredLabels
    JobSpec.ofRequest request labels) with
  | .error e => (.error e, db)
  | .ok spec =>
    transaction (fun db => do
      checkSubmissionQuota (db.queue t)
      db.insertJob t { toJobSpec := spec, jobId, createdAt, updatedAt }) db

/-- `ArtifactStore.lease_job`. -/
def leaseJob (t : TenantId) (workerId : String) (leaseSeconds : Int)
    (capabilities : Option WorkerCapabilities) (plan : ClaimPlan) (db : Fleet) :
    Except StoreError (Option EvaluationJob) × Fleet :=
  let o := Offer.ofCapabilities capabilities
  transaction (fun db =>
    if runningQuotaFull (db.queue t) then .ok (none, db)
    else
      match nextClaim plan o workerId leaseSeconds (db.queue t) with
      | .error e => .error e
      | .ok none => .ok (none, db)
      | .ok (some claim) =>
        db.guardedUpdate t claim.jobId (fun _ => true) (claimed db.now workerId leaseSeconds)
          fun _ => true) db

/-- The common course of renew, complete and fail. -/
def ownerUpdate (t : TenantId) (jobId : UUID) (workerId : String)
    (set : EvaluationJob → EvaluationJob) (ref : EvaluationJob → Bool) (db : Fleet) :
    Except StoreError EvaluationJob × Fleet :=
  let (row, db') := transaction (guardedUpdate t jobId (leasedBy workerId) set ref) db
  (row.bind (leasedJobOrError jobId), db')

/-- `ArtifactStore.renew_job_lease`. -/
def renewJobLease (t : TenantId) (jobId : UUID) (workerId : String) (leaseSeconds : Int)
    (db : Fleet) : Except StoreError EvaluationJob × Fleet :=
  db.ownerUpdate t jobId workerId (renewed db.now leaseSeconds) fun _ => true

/-- `ArtifactStore.complete_job`. -/
def completeJob (t : TenantId) (jobId : UUID) (workerId : String) (runId : UUID) (db : Fleet) :
    Except StoreError EvaluationJob × Fleet :=
  db.ownerUpdate t jobId workerId (completed db.now runId) fun _ =>
    (db.queue t).runs.contains runId

/-- `ArtifactStore.fail_job`. -/
def failJob (t : TenantId) (jobId : UUID) (workerId : String) (error : String) (db : Fleet) :
    Except StoreError EvaluationJob × Fleet :=
  db.ownerUpdate t jobId workerId (failedOnce db.now (String.ofList (error.toList.take 4000)))
    fun _ => true

/-- `ArtifactStore.cancel_job`. -/
def cancelJob (t : TenantId) (jobId : UUID) (db : Fleet) :
    Except StoreError EvaluationJob × Fleet :=
  let (row, db') := transaction
    (guardedUpdate t jobId (fun j => !j.status.terminal) (cancelled db.now) fun _ => true) db
  match row with
  | .error e => (.error e, db')
  | .ok (some j) => (.ok j, db')
  | .ok none =>
    match getJob jobId (db'.queue t) with
    | .error e => (.error e, db')
    | .ok existing =>
      (.error (.valueError s!"job in {existing.status.value} state cannot be cancelled"), db')

/-- One operation of a tenant: the job its caller gets, or the exception, and the state it
    leaves. -/
def performJob (db : Fleet) (t : TenantId) : Op → Except StoreError (Option EvaluationJob) × Fleet
  | .enqueueJob request jobId createdAt updatedAt =>
    let (r, db') := db.enqueueJob t request jobId createdAt updatedAt
    (some <$> r, db')
  | .leaseJob workerId leaseSeconds capabilities plan =>
    db.leaseJob t workerId leaseSeconds capabilities plan
  | .renewJobLease jobId workerId leaseSeconds =>
    let (r, db') := db.renewJobLease t jobId workerId leaseSeconds
    (some <$> r, db')
  | .completeJob jobId workerId runId =>
    let (r, db') := db.completeJob t jobId workerId runId
    (some <$> r, db')
  | .failJob jobId workerId error =>
    let (r, db') := db.failJob t jobId workerId error
    (some <$> r, db')
  | .cancelJob jobId =>
    let (r, db') := db.cancelJob t jobId
    (some <$> r, db')
  | .saveRun runId => (.ok none, { db with runs := (t, runId) :: db.runs })
  | .advance d => (.ok none, { db with now := db.now + d })

/-! ## Workers, tenants and quotas -/

/-- `Jsonb(capabilities.model_dump(mode="json"))`: the numbers of the document are finite. -/
def capabilitiesAreJson (c : WorkerCapabilities) : Bool :=
  c.gpus.all fun gpu => gpu.utilizationPercent.all Float64.isFinite

/-- The `DO UPDATE SET` of `register_worker`. -/
def seenAgain (c : WorkerCapabilities) (now : Timestamp) (r : WorkerRow) : WorkerRow :=
  { r with worker := { r.worker with capabilities := c, lastSeenAt := now } }

/-- `ArtifactStore.register_worker`, an upsert under `(tenant_id, worker_id)`. -/
def registerWorker (t : TenantId) (workerId : String) (c : WorkerCapabilities) (db : Fleet) :
    Except StoreError WorkerRecord × Fleet :=
  if capabilitiesAreJson c = false then (.error .dataError, db)
  else
    match lookup WorkerRow.key (t, workerId) db.workers with
    | none =>
      let row : WorkerRow := ⟨t, ⟨workerId, c, db.now, db.now⟩⟩
      (.ok row.worker,
        { db with
          workers := db.workers ++ [row]
          workerRollups := syncFleetWorkerRollup (.insert row) db.workerRollups })
    | some old =>
      (.ok (seenAgain c db.now old).worker,
        { db with
          workers := Table.update WorkerRow.key (t, workerId) (fun _ => true) (seenAgain c db.now)
            db.workers
          workerRollups := syncUpdate WorkerRow.key WorkerRollup.key workerRollup WorkerRow.key
            (t, workerId) (fun _ => true) (seenAgain c db.now) db.workers db.workerRollups })

/-- No limit: the row `create_tenant` inserts into `tenant_quotas`. -/
def unlimited : TenantQuotaLimits := ⟨none, none, none, none, cuda_le_unlimited⟩

/-- `create_tenant`: the tenant and its quota row, unless the tenant is taken. -/
def createTenant (row : TenantRow) (db : Fleet) : Fleet :=
  if (lookup TenantRow.tenantId row.tenantId db.tenants).isSome then db
  else { db with
    tenants := db.tenants ++ [row]
    quotas := db.quotas ++ [⟨row.tenantId, unlimited⟩] }

/-- `set_tenant_status`. -/
def setTenantStatus (t : TenantId) (status : TenantStatus) (now : Timestamp) (updatedBy : String)
    (db : Fleet) : Fleet :=
  { db with
    tenants := Table.update TenantRow.tenantId t (fun _ => true)
      (TenantRow.setStatus status now updatedBy) db.tenants }

/-- `set_tenant_quota`. -/
def setTenantQuota (t : TenantId) (limits : TenantQuotaLimits) (db : Fleet) : Fleet :=
  { db with
    quotas := Table.update QuotaRow.tenantId t (fun _ => true) (fun r => { r with limits := limits })
      db.quotas }

/-! ## The schema as a state machine -/

end Fleet

/-- Everything that can happen to the tables, each as one committed call. -/
inductive FleetOp where
  | job (t : TenantId) (op : Op)
  | registerWorker (t : TenantId) (workerId : String) (capabilities : WorkerCapabilities)
  | createTenant (row : TenantRow)
  | setTenantStatus (t : TenantId) (status : TenantStatus) (now : Timestamp) (updatedBy : String)
  | setTenantQuota (t : TenantId) (limits : TenantQuotaLimits)
  | backfillFleetRollups

namespace Fleet

/-- The state an operation leaves. -/
def step (db : Fleet) : FleetOp → Fleet
  | .job t op => (db.performJob t op).2
  | .registerWorker t workerId c => (db.registerWorker t workerId c).2
  | .createTenant row => db.createTenant row
  | .setTenantStatus t status now updatedBy => db.setTenantStatus t status now updatedBy
  | .setTenantQuota t limits => db.setTenantQuota t limits
  | .backfillFleetRollups => db.backfillFleetRollups

/-! ## What a job method can do -/

/-- The change a job method of tenant `t` makes: none, one update of rows it sees, one new row
    under a free key, a new run or a later clock. -/
inductive JobChange (db : Fleet) (t : TenantId) : Fleet → Prop where
  | none : JobChange db t db
  | update (jobId : UUID) (p : EvaluationJob → Bool) (set : EvaluationJob → EvaluationJob)
      (hset : ∀ j, (set j).jobId = j.jobId) : JobChange db t (db.updateJobs t jobId p set).2
  | insert (j : EvaluationJob) (hfresh : ∀ r ∈ db.jobs, r.jobId ≠ j.jobId) :
      JobChange db t { db with
        jobs := db.jobs ++ [⟨t, j⟩]
        jobRollups := syncFleetJobRollup (.insert ⟨t, j⟩) db.jobRollups }
  | saveRun (runId : UUID) : JobChange db t { db with runs := (t, runId) :: db.runs }
  | advance (d : ℕ) : JobChange db t { db with now := db.now + d }

/-- A transaction commits what its body returns, or nothing. -/
theorem transaction_cases {α : Type} (body : Fleet → Except StoreError (α × Fleet)) (db : Fleet) :
    (∃ e, body db = .error e ∧ transaction body db = (.error e, db)) ∨
      ∃ a db', body db = .ok (a, db') ∧ transaction body db = (.ok a, db') := by
  unfold transaction
  cases h : body db with
  | error e => exact Or.inl ⟨e, rfl, rfl⟩
  | ok r => exact Or.inr ⟨r.1, r.2, rfl, rfl⟩

variable {db : Fleet} {t : TenantId}

/-- Submitting changes one tenant's jobs by inserting one at most. -/
theorem enqueueJob_change (request : EnqueueRequest) (jobId : UUID)
    (createdAt updatedAt : Timestamp) :
    JobChange db t (db.enqueueJob t request jobId createdAt updatedAt).2 := by
  unfold enqueueJob
  split
  · exact .none
  · next spec _ =>
    rcases transaction_cases (fun db : Fleet => do
        checkSubmissionQuota (db.queue t)
        db.insertJob t { toJobSpec := spec, jobId, createdAt, updatedAt }) db with
      ⟨e, -, h⟩ | ⟨j, db', hbody, h⟩
    · rw [h]
      exact .none
    · rw [h]
      show JobChange db t db'
      cases hquota : checkSubmissionQuota (db.queue t) with
      | error e => rw [hquota] at hbody; cases hbody
      | ok u =>
        rw [hquota] at hbody
        simp only [bind, Except.bind, insertJob] at hbody
        split_ifs at hbody with hsize htaken
        obtain ⟨rfl, rfl⟩ := Prod.mk.inj (Except.ok.inj hbody)
        refine .insert _ (lookup_none.mp ?_)
        simpa using htaken

/-- A guarded update that returns has updated the row. -/
theorem guardedUpdate_ok {jobId : UUID} {p : EvaluationJob → Bool}
    {set : EvaluationJob → EvaluationJob} {ref : EvaluationJob → Bool}
    {row : Option EvaluationJob} {db' : Fleet}
    (h : db.guardedUpdate t jobId p set ref = .ok (row, db')) :
    db' = (db.updateJobs t jobId p set).2 := by
  unfold guardedUpdate at h
  dsimp only at h
  split_ifs at h
  cases hrow : fetchone (db.updateJobs t jobId p set).1 with
  | error e => rw [hrow] at h; cases h
  | ok row =>
    rw [hrow] at h
    exact (Prod.mk.inj (Except.ok.inj h)).2.symm

/-- A guarded update commits the update or nothing. -/
theorem guardedUpdate_change (jobId : UUID) (p : EvaluationJob → Bool)
    (set : EvaluationJob → EvaluationJob) (ref : EvaluationJob → Bool)
    (hset : ∀ j, (set j).jobId = j.jobId) :
    JobChange db t (transaction (guardedUpdate t jobId p set ref) db).2 := by
  rcases transaction_cases (guardedUpdate t jobId p set ref) db with
    ⟨e, -, h⟩ | ⟨row, db', hok, h⟩
  · rw [h]
    exact .none
  · rw [h]
    show JobChange db t db'
    rw [guardedUpdate_ok hok]
    exact .update jobId p set hset

/-- Leasing changes jobs by an update at most. -/
theorem leaseJob_change (workerId : String) (leaseSeconds : Int)
    (capabilities : Option WorkerCapabilities) (plan : ClaimPlan) :
    JobChange db t (db.leaseJob t workerId leaseSeconds capabilities plan).2 := by
  unfold leaseJob transaction
  dsimp only
  cases hfull : runningQuotaFull (db.queue t) with
  | true => exact .none
  | false =>
    cases hclaim : nextClaim plan (Offer.ofCapabilities capabilities) workerId leaseSeconds
        (db.queue t) with
    | error e => exact .none
    | ok row =>
      cases row with
      | none => exact .none
      | some claim =>
        exact guardedUpdate_change claim.jobId (fun _ => true)
          (claimed db.now workerId leaseSeconds) (fun _ => true) fun _ => rfl

/-- An owner's calls change jobs by an update at most. -/
theorem ownerUpdate_change (jobId : UUID) (workerId : String)
    {set : EvaluationJob → EvaluationJob} (ref : EvaluationJob → Bool)
    (hset : ∀ j, (set j).jobId = j.jobId) :
    JobChange db t (db.ownerUpdate t jobId workerId set ref).2 :=
  guardedUpdate_change jobId (leasedBy workerId) set ref hset

/-- Cancelling changes jobs by an update at most. -/
theorem cancelJob_change (jobId : UUID) : JobChange db t (db.cancelJob t jobId).2 := by
  have hstate : (db.cancelJob t jobId).2 = (transaction (guardedUpdate t jobId
      (fun j => !j.status.terminal) (cancelled db.now) fun _ => true) db).2 := by
    unfold cancelJob
    dsimp only
    split
    · rfl
    · rfl
    · split <;> rfl
  rw [hstate]
  exact guardedUpdate_change jobId _ (cancelled db.now) _ fun _ => rfl

/-- **What a job method does to the tables.** -/
theorem performJob_change (op : Op) : JobChange db t (db.performJob t op).2 := by
  cases op with
  | enqueueJob request jobId createdAt updatedAt =>
    exact enqueueJob_change request jobId createdAt updatedAt
  | leaseJob workerId leaseSeconds capabilities plan =>
    exact leaseJob_change workerId leaseSeconds capabilities plan
  | renewJobLease jobId workerId leaseSeconds =>
    exact ownerUpdate_change jobId workerId _ fun _ => rfl
  | completeJob jobId workerId runId => exact ownerUpdate_change jobId workerId _ fun _ => rfl
  | failJob jobId workerId error => exact ownerUpdate_change jobId workerId _ fun _ => rfl
  | cancelJob jobId => exact cancelJob_change jobId
  | saveRun runId => exact .saveRun runId
  | advance d => exact .advance d

/-! ## What the tenant sees of its call -/

/-- The caller gets what it would get on its own queue, and finds its queue as that call would
    leave it. -/
def Sees {α : Type} (t : TenantId) (r : Except StoreError α × Fleet)
    (r' : Except StoreError α × Queue) : Prop :=
  r.1 = r'.1 ∧ r.2.queue t = r'.2

/-- **The tenant sees of an update what its queue's update does**: the row and the queue it leaves.
    -/
theorem updateJobs_sees (db : Fleet) (t : TenantId) (jobId : UUID) (p : EvaluationJob → Bool)
    (set : EvaluationJob → EvaluationJob) :
    (db.updateJobs t jobId p set).1 = (Jobs.updateJobs jobId p set (db.queue t)).1 ∧
      (db.updateJobs t jobId p set).2.queue t = (Jobs.updateJobs jobId p set (db.queue t)).2 := by
  obtain ⟨hrows, hrow⟩ :
      (Table.update JobRow.jobId jobId (fun r => p r.job) (JobRow.set set)
          (visible JobRow.tenantId t db.jobs)).map JobRow.job =
        Table.update EvaluationJob.jobId jobId p set (db.queue t).jobs ∧
      (returning JobRow.jobId jobId (fun r => p r.job) (JobRow.set set)
          (visible JobRow.tenantId t db.jobs)).map JobRow.job =
        returning EvaluationJob.jobId jobId p set (db.queue t).jobs :=
    map_update_map (fun _ => rfl) (fun _ => rfl) fun _ => rfl
  constructor
  · show Option.map JobRow.job (returning _ _ _ _ _) = returning _ _ _ _ _
    rw [returning_reaches]
    exact hrow
  · have hjobs : (visible JobRow.tenantId t (db.updateJobs t jobId p set).2.jobs).map JobRow.job =
        Table.update EvaluationJob.jobId jobId p set (db.queue t).jobs := by
      show (visible JobRow.tenantId t (Table.update _ _ _ _ _)).map JobRow.job = _
      rw [visible_update (JobRow.tenantId_set set), hrows]
    exact congrArg (fun jobs => { db.queue t with jobs := jobs }) hjobs

/-- A transaction sees of the fleet what its tenant sees. -/
theorem transaction_sees {α : Type} (body : Fleet → Except StoreError (α × Fleet))
    (body' : Queue → Except StoreError (α × Queue))
    (h : Except.map (fun r => (r.1, r.2.queue t)) (body db) = body' (db.queue t)) :
    Sees t (transaction body db) (Jobs.transaction body' (db.queue t)) := by
  unfold transaction Jobs.transaction
  rw [← h]
  cases body db with
  | error e => exact ⟨rfl, rfl⟩
  | ok r => exact ⟨rfl, rfl⟩

/-- `guardedUpdate` on one tenant's queue. -/
def queueUpdate (jobId : UUID) (p : EvaluationJob → Bool) (set : EvaluationJob → EvaluationJob)
    (ref : EvaluationJob → Bool) (q : Queue) :
    Except StoreError (Option EvaluationJob × Queue) := do
  let (row, q') := Jobs.updateJobs jobId p set q
  if row.all ref then
    let row ← fetchone row
    pure (row, q')
  else .error .foreignKeyViolation

/-- A guarded update sees of the fleet what its tenant sees. -/
theorem guardedUpdate_sees (db : Fleet) (t : TenantId) (jobId : UUID) (p : EvaluationJob → Bool)
    (set : EvaluationJob → EvaluationJob) (ref : EvaluationJob → Bool) :
    Except.map (fun r => (r.1, r.2.queue t)) (db.guardedUpdate t jobId p set ref) =
      queueUpdate jobId p set ref (db.queue t) := by
  obtain ⟨hrow, hq⟩ := updateJobs_sees db t jobId p set
  unfold guardedUpdate queueUpdate
  dsimp only
  rw [← hrow, ← hq]
  split_ifs
  · cases fetchone (db.updateJobs t jobId p set).1 <;> rfl
  · rfl

/-- Without a constraint to check, `fetchone` is all that follows the update. -/
theorem queueUpdate_unchecked (jobId : UUID) (p : EvaluationJob → Bool)
    (set : EvaluationJob → EvaluationJob) (q : Queue) :
    queueUpdate jobId p set (fun _ => true) q = (do
      let (row, q') := Jobs.updateJobs jobId p set q
      let row ← fetchone row
      pure (row, q')) := by
  unfold queueUpdate
  dsimp only
  rw [if_pos (by cases (Jobs.updateJobs jobId p set q).1 <;> rfl)]

/-- A lease sees of the fleet what its tenant sees. -/
theorem leaseJob_sees (workerId : String) (leaseSeconds : Int)
    (capabilities : Option WorkerCapabilities) (plan : ClaimPlan) :
    Sees t (db.leaseJob t workerId leaseSeconds capabilities plan)
      (Jobs.leaseJob workerId leaseSeconds capabilities plan (db.queue t)) := by
  refine transaction_sees _ _ ?_
  dsimp only
  cases runningQuotaFull (db.queue t) with
  | true => rfl
  | false =>
    cases nextClaim plan (Offer.ofCapabilities capabilities) workerId leaseSeconds
        (db.queue t) with
    | error e => rfl
    | ok row =>
      cases row with
      | none => rfl
      | some claim =>
        exact (guardedUpdate_sees db t claim.jobId (fun _ => true)
          (claimed db.now workerId leaseSeconds) fun _ => true).trans
            (queueUpdate_unchecked _ _ _ _)

/-- A row inserted for the tenant is the last job of its queue. -/
theorem queue_insert (j : EvaluationJob) (rollups : List JobRollup) :
    queue { db with jobs := db.jobs ++ [⟨t, j⟩], jobRollups := rollups } t =
      { db.queue t with jobs := (db.queue t).jobs ++ [j] } := by
  have hrows : (visible JobRow.tenantId t (db.jobs ++ [⟨t, j⟩])).map JobRow.job =
      (db.queue t).jobs ++ [j] := by
    rw [visible_append_own (show (JobRow.mk t j).tenantId = t from rfl), List.map_append]
    rfl
  exact congrArg (fun jobs => { db.queue t with jobs := jobs }) hrows

/-- The primary keys hold, and each rollup has the rows of its table. -/
structure Exact (db : Fleet) : Prop where
  jobs : Keyed JobRow.jobId db.jobs
  workers : Keyed WorkerRow.key db.workers
  jobRollups : Mirrors jobRollup db.jobs db.jobRollups
  workerRollups : Mirrors workerRollup db.workers db.workerRollups

/-- An empty fleet is exact. -/
theorem exact_empty (now : Timestamp) : Exact (empty now) :=
  ⟨List.nodup_nil, List.nodup_nil, rfl, rfl⟩

/-- A key for all tenants is a key together with the tenant. -/
theorem keyed_key {jobs : List JobRow} (h : Keyed JobRow.jobId jobs) : Keyed JobRow.key jobs := by
  have hpair : (jobs.map JobRow.key).map Prod.snd = jobs.map JobRow.jobId := by
    rw [List.map_map]
    rfl
  exact List.Nodup.of_map Prod.snd (hpair ▸ h)

/-- An update of jobs that keeps their identifiers keeps the fleet exact. -/
theorem Exact.updateJobs (h : Exact db) (jobId : UUID) (p : EvaluationJob → Bool)
    {set : EvaluationJob → EvaluationJob} (hset : ∀ j, (set j).jobId = j.jobId) :
    Exact (db.updateJobs t jobId p set).2 := by
  have hset' : ∀ r : JobRow, (r.set set).jobId = r.jobId := fun r => hset r.job
  have hkey : ∀ r : JobRow, (r.set set).key = r.key := fun r => Prod.ext rfl (hset r.job)
  exact ⟨h.jobs.update hset', h.workers,
    syncUpdate_mirrors (by intro r; rfl) h.jobs (keyed_key h.jobs) hkey h.jobRollups,
    h.workerRollups⟩

/-- Every change of jobs keeps the fleet exact. -/
theorem JobChange.exact {db' : Fleet} (hch : JobChange db t db') (h : Exact db) : Exact db' := by
  cases hch with
  | none => exact h
  | update jobId p set hset => exact h.updateJobs jobId p hset
  | insert j hfresh =>
    refine ⟨h.jobs.append_one hfresh, h.workers, ?_, h.workerRollups⟩
    refine sync_insert (by intro r; rfl) (fun x hx hkey => ?_) h.jobRollups
    exact hfresh x hx (congrArg Prod.snd hkey)
  | saveRun runId => exact ⟨h.jobs, h.workers, h.jobRollups, h.workerRollups⟩
  | advance d => exact ⟨h.jobs, h.workers, h.jobRollups, h.workerRollups⟩

/-- Registering a worker keeps the fleet exact. -/
theorem Exact.registerWorker (h : Exact db) (workerId : String) (c : WorkerCapabilities) :
    Exact (db.registerWorker t workerId c).2 := by
  unfold Fleet.registerWorker
  split_ifs with hjson
  · exact h
  · cases hl : lookup WorkerRow.key (t, workerId) db.workers with
    | none =>
      have hfresh := lookup_none.mp hl
      exact ⟨h.jobs, h.workers.append_one hfresh, h.jobRollups,
        sync_insert (by intro r; rfl) hfresh h.workerRollups⟩
    | some old =>
      have hkey : ∀ r, (seenAgain c db.now r).key = r.key := fun _ => rfl
      exact ⟨h.jobs, h.workers.update hkey, h.jobRollups,
        syncUpdate_mirrors (by intro r; rfl) h.workers h.workers hkey h.workerRollups⟩

/-- Every call keeps the rollups exact. -/
theorem Exact.step (h : Exact db) (op : FleetOp) : Exact (db.step op) := by
  cases op with
  | job t op => exact (performJob_change op).exact h
  | registerWorker t workerId c => exact h.registerWorker workerId c
  | createTenant row =>
    show Exact (db.createTenant row)
    unfold createTenant
    split_ifs
    · exact h
    · exact ⟨h.jobs, h.workers, h.jobRollups, h.workerRollups⟩
  | setTenantStatus t status now updatedBy =>
    exact ⟨h.jobs, h.workers, h.jobRollups, h.workerRollups⟩
  | setTenantQuota t limits => exact ⟨h.jobs, h.workers, h.jobRollups, h.workerRollups⟩
  | backfillFleetRollups => exact ⟨h.jobs, h.workers, rfl, rfl⟩

/-- In every state of every run the rollups are exact. -/
theorem exact_run (now : Timestamp) (ops : List FleetOp) :
    Exact (Runs.run step (empty now) ops) :=
  Runs.run_invariant step Exact (fun _ op h => h.step op) (exact_empty now) ops

end Fleet

end AEControl.Jobs
