/-
  The job tables under row-level security: what a call for one tenant takes from the schema, and
  what it leaves of the other tenants' rows.

  `Fleet.restrict t` is the schema with the rows of `t` and the shared registry.  Since a job method
  does for its tenant what it does on the tenant's queue (`performJob_sees`), it does on the schema
  what it does on the restriction, where no other tenant holds the `job_id` it inserts.  The workers
  are keyed under the tenant and have no such condition.
-/
import AEControl.Lib.Noninterference
import AEControl.Jobs.Fleet

namespace AEControl.Jobs

open Table RowSecurity Mirror Noninterference Evidence Tenancy

/-- Everything in the job tables that is one tenant's: its registry and quota rows, its jobs and
    workers, and the entries the triggers mirror of them. -/
structure FleetRows where
  tenant : Option TenantRow
  quota : Option TenantQuotaLimits
  jobs : List JobRow
  workers : List WorkerRow
  jobRollups : List JobRollup
  workerRollups : List WorkerRollup

namespace Fleet

/-- The rows a tenant sees, and the registry and quotas all see.  No method of a tenant reads the
    rollups. -/
def restrict (t : TenantId) (db : Fleet) : Fleet where
  now := db.now
  tenants := db.tenants
  quotas := db.quotas
  jobs := visible JobRow.tenantId t db.jobs
  workers := visible WorkerRow.tenantId t db.workers
  runs := visible Prod.fst t db.runs
  jobRollups := []
  workerRollups := []

/-- A tenant's rows in all tables. -/
def rowsOf (u : TenantId) (db : Fleet) : FleetRows where
  tenant := lookup TenantRow.tenantId u db.tenants
  quota := db.tenantQuota u
  jobs := visible JobRow.tenantId u db.jobs
  workers := visible WorkerRow.tenantId u db.workers
  jobRollups := visible JobRollup.tenantId u db.jobRollups
  workerRollups := visible WorkerRollup.tenantId u db.workerRollups

variable {db db' : Fleet} {t u : TenantId}

@[simp] theorem restrict_restrict (db : Fleet) (t : TenantId) :
    (db.restrict t).restrict t = db.restrict t := by
  show Fleet.mk _ _ _ (visible _ t (visible _ t db.jobs)) (visible _ t (visible _ t db.workers))
    (visible _ t (visible _ t db.runs)) [] [] = _
  rw [visible_visible, visible_visible, visible_visible]
  rfl

/-- A job method keeps the primary key. -/
theorem JobChange.keyed (hch : JobChange db t db') (hk : Keyed JobRow.jobId db.jobs) :
    Keyed JobRow.jobId db'.jobs := by
  cases hch with
  | update jobId p set hset => exact hk.update fun r => hset r.job
  | insert j hfresh => exact hk.append_one hfresh
  | _ => exact hk

variable {request : EnqueueRequest} {jobId : UUID} {createdAt updatedAt : Timestamp}

theorem registerWorker_jobs (workerId : String) (c : WorkerCapabilities) :
    (db.registerWorker t workerId c).2.jobs = db.jobs := by
  unfold registerWorker
  split_ifs
  · rfl
  · split <;> rfl

end Fleet

end AEControl.Jobs
