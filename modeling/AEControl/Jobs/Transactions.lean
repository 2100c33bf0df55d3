/-
  `store.py`, the transactions on a tenant's job queue, statement by statement.

  `Jobs.Store` runs a method as one step.  Here its statements are apart, so that those of other
  transactions may come between them: `now()` is read once, at the first statement, and the quota
  and the usage are read by statements of their own, behind the tenant's advisory lock.  Renewals,
  completions, failures and cancellations are one update each and take no lock but the row's.

  A `Session` says which statement of which method comes next and what has been read, `execute`
  runs it on the tables as the transaction sees them, with its own writes, and `protocol` is the
  whole as an instance of `Lib.Locking`: the events begin a transaction, advance one, or let one
  commit, in any order.

  `serial_eq_step` connects the two: a call that runs alone does what the method does in `Store`.
  It goes by the method: `solo_enqueue` and `solo_lease` for the two that lock, and `solo_updateRow`
  for the four that update one row.
-/
import AEControl.Lib.Locking
import AEControl.Jobs.Lifecycle

namespace AEControl.Jobs.Transactions

open Table

/-! ## Tables -/

/-- What the tenant's transactions share. -/
structure Tables where
  /-- The tenant's row of `tenant_quotas`, if it has one. -/
  quota : Option TenantQuotaLimits
  jobs : List EvaluationJob
  runs : List UUID

/-- The tables for a transaction whose `now()` is `now`. -/
def Tables.seen (db : Tables) (now : Timestamp) : Queue := ⟨now, db.quota, db.jobs, db.runs⟩

@[simp] theorem Tables.seen_jobs (db : Tables) (now : Timestamp) : (db.seen now).jobs = db.jobs := rfl

@[simp] theorem Tables.seen_runs (db : Tables) (now : Timestamp) : (db.seen now).runs = db.runs := rfl

@[simp] theorem Tables.seen_quota (db : Tables) (now : Timestamp) :
    (db.seen now).quota = db.quota := rfl

/-- The tables of a queue. -/
def Tables.ofQueue (q : Queue) : Tables := ⟨q.quota, q.jobs, q.runs⟩

/-- The `SET` lists of the updates of `evaluation_jobs`. -/
inductive RowUpdate where
  | claimed (now : Timestamp) (workerId : String) (leaseSeconds : Int)
  | renewed (now : Timestamp) (leaseSeconds : Int)
  | completed (now : Timestamp) (runId : UUID)
  | failedOnce (now : Timestamp) (message : String)
  | cancelled (now : Timestamp)

def RowUpdate.set : RowUpdate → EvaluationJob → EvaluationJob
  | .claimed now workerId leaseSeconds => Jobs.claimed now workerId leaseSeconds
  | .renewed now leaseSeconds => Jobs.renewed now leaseSeconds
  | .completed now runId => Jobs.completed now runId
  | .failedOnce now message => Jobs.failedOnce now message
  | .cancelled now => Jobs.cancelled now

/-- `evaluation_jobs_tenant_run_fkey`, checked on the updated row. -/
def RowUpdate.references (runs : List UUID) : RowUpdate → Bool
  | .completed _ runId => runs.contains runId
  | _ => true

@[simp] theorem RowUpdate.set_jobId (u : RowUpdate) (j : EvaluationJob) :
    (u.set j).jobId = j.jobId := by
  cases u <;> rfl

@[simp] theorem RowUpdate.set_createdAt (u : RowUpdate) (j : EvaluationJob) :
    (u.set j).createdAt = j.createdAt := by
  cases u <;> rfl

/-- What a statement writes. -/
inductive Write where
  | insertJob (job : EvaluationJob)
  | updateJob (jobId : UUID) (u : RowUpdate)
  | setQuota (limits : TenantQuotaLimits)
  | insertRun (runId : UUID)

def Tables.apply (db : Tables) : Write → Tables
  | .insertJob job => { db with jobs := db.jobs ++ [job] }
  | .updateJob jobId u =>
    { db with jobs := Table.update EvaluationJob.jobId jobId (fun _ => true) u.set db.jobs }
  | .setQuota limits => { db with quota := some limits }
  | .insertRun runId => { db with runs := runId :: db.runs }

/-! ## Calls -/

/-- The arguments of `lease_job`, with how PostgreSQL goes through the rows. -/
structure Lease where
  workerId : String
  leaseSeconds : Int
  capabilities : Option WorkerCapabilities
  plan : ClaimPlan

inductive Call where
  /-- `jobId`, `createdAt` and `updatedAt` are drawn before the transaction. -/
  | enqueueJob (request : EnqueueRequest) (jobId : UUID) (createdAt updatedAt : Timestamp)
  | leaseJob (c : Lease)
  | renewJobLease (jobId : UUID) (workerId : String) (leaseSeconds : Int)
  | completeJob (jobId : UUID) (workerId : String) (runId : UUID)
  | failJob (jobId : UUID) (workerId : String) (error : String)
  | cancelJob (jobId : UUID)
  | saveRun (runId : UUID)
  | setTenantQuota (limits : TenantQuotaLimits)

/-- The next statement of a call. -/
inductive Session where
  /-- `_set_tenant_context`, the statement that begins the transaction and fixes its `now()`. -/
  | begin (c : Call)
  /-- `enqueue_job`: `_lock_tenant_quota`, … -/
  | enqueueLock (now : Timestamp) (job : EvaluationJob)
  /-- … `_tenant_quota`, … -/
  | enqueueQuota (now : Timestamp) (job : EvaluationJob)
  /-- … `_tenant_quota_usage` and the two tests, … -/
  | enqueueUsage (now : Timestamp) (job : EvaluationJob) (quota : TenantQuotaLimits)
  /-- … `INSERT INTO evaluation_jobs … RETURNING *`, … -/
  | enqueueInsert (now : Timestamp) (job : EvaluationJob)
  /-- … `COMMIT`. -/
  | enqueueCommit (now : Timestamp) (job : EvaluationJob)
  /-- `lease_job`: `_lock_tenant_quota`, … -/
  | leaseLock (now : Timestamp) (c : Lease)
  /-- … `_tenant_quota`, … -/
  | leaseQuota (now : Timestamp) (c : Lease)
  /-- … `_tenant_quota_usage` and the test, … -/
  | leaseUsage (now : Timestamp) (c : Lease) (quota : TenantQuotaLimits)
  /-- … the claim. -/
  | leaseClaim (now : Timestamp) (c : Lease) (cudaQuotaAvailable : Bool)
  /-- `UPDATE evaluation_jobs SET … WHERE job_id = … AND … RETURNING *`. -/
  | update (jobId : UUID) (p : EvaluationJob → Bool) (u : RowUpdate)
  /-- The insert of `save_run`. -/
  | insertRun (runId : UUID)
  /-- `set_tenant_quota`: `_lock_tenant_quota`, … -/
  | quotaLock (limits : TenantQuotaLimits)
  /-- … `UPDATE tenant_quotas`. -/
  | quotaUpdate (limits : TenantQuotaLimits)
  /-- The `with` block is left with the row of its last statement: `COMMIT`. -/
  | leave (row : Option EvaluationJob)

/-- What is locked: the tenant's quota, by `pg_advisory_xact_lock`, and a job's row or key. -/
inductive Lock where
  | quota
  | job (jobId : UUID)
  deriving DecidableEq

/-- What a statement finds when its turn comes. -/
structure Moment where
  now : Timestamp
  /-- The rows `SKIP LOCKED` passes over. -/
  skips : UUID → Bool

/-- What the `with` block gives: the row, or what rolled it back. -/
abbrev Answer := Except StoreError (Option EvaluationJob)

abbrev Statement := Locking.Statement Session Write Lock Answer

/-! ## Statements -/

/-- A call that raises inside its `with` block. -/
def raises (e : StoreError) : Statement := .rollback (.error e)

/-- The `EvaluationJob` that `enqueue_job` builds before its transaction. -/
def newJob (request : EnqueueRequest) (jobId : UUID) (createdAt updatedAt : Timestamp) :
    Except StoreError EvaluationJob := do
  let labels ← effectiveLabels request.agentVersion request.requiredLabels
  let spec ← JobSpec.ofRequest request labels
  .ok { toJobSpec := spec, jobId, createdAt, updatedAt }

/-- The first statement, at `now`. -/
def begin (now : Timestamp) : Call → Statement
  | .enqueueJob request jobId createdAt updatedAt =>
    match newJob request jobId createdAt updatedAt with
    | .error e => raises e
    | .ok job => .proceed [] [] (.enqueueLock now job)
  | .leaseJob c => .proceed [] [] (.leaseLock now c)
  | .renewJobLease jobId workerId leaseSeconds =>
    .proceed [] [] (.update jobId (leasedBy workerId) (.renewed now leaseSeconds))
  | .completeJob jobId workerId runId =>
    .proceed [] [] (.update jobId (leasedBy workerId) (.completed now runId))
  | .failJob jobId workerId error =>
    .proceed [] [] (.update jobId (leasedBy workerId)
      (.failedOnce now (String.ofList (error.toList.take 4000))))
  | .cancelJob jobId =>
    .proceed [] [] (.update jobId (fun j => !j.status.terminal) (.cancelled now))
  | .saveRun runId => .proceed [] [] (.insertRun runId)
  | .setTenantQuota limits => .proceed [] [] (.quotaLock limits)

/-- An update of one row, which it locks. -/
def updateRow (jobId : UUID) (p : EvaluationJob → Bool) (u : RowUpdate) (db : Tables) : Statement :=
  match returning EvaluationJob.jobId jobId p u.set db.jobs with
  | none => .proceed [] [] (.leave none)
  | some row =>
    if u.references db.runs then
      match fetchone (some row) with
      | .error e => raises e
      | .ok row => .proceed [.job jobId] [.updateJob jobId u] (.leave row)
    else raises .foreignKeyViolation

/-- The claim of `lease_job`. -/
def claimRow (now : Timestamp) (c : Lease) (cudaQuotaAvailable : Bool) (db : Tables)
    (skips : UUID → Bool) : Statement :=
  let o := Offer.ofCapabilities c.capabilities
  let jobs := db.jobs.filter fun j => !skips j.jobId
  let selected := selectClaim o cudaQuotaAvailable c.plan.tie { db.seen now with jobs := jobs }
  match claimStatement c.plan o c.workerId c.leaseSeconds cudaQuotaAvailable selected
      (db.seen now) with
  | .error e => raises e
  | .ok none => .proceed [] [] (.leave none)
  | .ok (some claim) =>
    updateRow claim.jobId (fun _ => true) (.claimed now c.workerId c.leaseSeconds) db

/-- One statement, on the tables as its transaction sees them. -/
def execute (session : Session) (db : Tables) (m : Moment) : Statement :=
  match session with
  | .begin c => begin m.now c
  | .enqueueLock now job => .proceed [.quota] [] (.enqueueQuota now job)
  | .enqueueQuota now job =>
    match db.quota with
    | none => .proceed [] [] (.enqueueInsert now job)
    | some quota => .proceed [] [] (.enqueueUsage now job quota)
  | .enqueueUsage now job quota =>
    match checkSubmissionQuota { db.seen now with quota := some quota } with
    | .error e => raises e
    | .ok () => .proceed [] [] (.enqueueInsert now job)
  | .enqueueInsert now job =>
    match insertJob job (db.seen now) with
    | .error e => raises e
    | .ok _ => .proceed [.job job.jobId] [.insertJob job] (.enqueueCommit now job)
  | .enqueueCommit _ job => .commit (.ok (some job))
  | .leaseLock now c => .proceed [.quota] [] (.leaseQuota now c)
  | .leaseQuota now c =>
    match db.quota with
    | none => .proceed [] [] (.leaseClaim now c true)
    | some quota => .proceed [] [] (.leaseUsage now c quota)
  | .leaseUsage now c quota =>
    let q : Queue := { db.seen now with quota := some quota }
    if runningQuotaFull q then .commit (.ok none)
    else .proceed [] [] (.leaseClaim now c (cudaQuotaAvailable q))
  | .leaseClaim now c cudaQuotaAvailable => claimRow now c cudaQuotaAvailable db m.skips
  | .update jobId p u => updateRow jobId p u db
  | .insertRun runId => .proceed [] [.insertRun runId] (.leave none)
  | .quotaLock limits => .proceed [.quota] [] (.quotaUpdate limits)
  | .quotaUpdate limits =>
    match db.quota with
    | none => .proceed [] [] (.leave none)
    | some _ => .proceed [] [.setQuota limits] (.leave none)
  | .leave row => .commit (.ok row)

/-- The transactions on the queue. -/
def protocol : Locking.Protocol Tables Call Session Write Lock Moment Answer where
  start := .begin
  apply := Tables.apply
  execute := execute

abbrev State := Locking.State Tables Session Write Lock

abbrev Event := Locking.Event Call Moment

/-- The state after any interleaving of any calls. -/
def reached (db : Tables) (events : List Event) : State :=
  Runs.run (Locking.step protocol) (.idle db) events

/-! ## One call at a time -/

/-- The operation of `Store` that a call is, if there is one. -/
def Call.op : Call → Option Op
  | .enqueueJob request jobId createdAt updatedAt =>
    some (.enqueueJob request jobId createdAt updatedAt)
  | .leaseJob c => some (.leaseJob c.workerId c.leaseSeconds c.capabilities c.plan)
  | .renewJobLease jobId workerId leaseSeconds => some (.renewJobLease jobId workerId leaseSeconds)
  | .completeJob jobId workerId runId => some (.completeJob jobId workerId runId)
  | .failJob jobId workerId error => some (.failJob jobId workerId error)
  | .cancelJob jobId => some (.cancelJob jobId)
  | .saveRun runId => some (.saveRun runId)
  | .setTenantQuota _ => none

section Serial

variable {db : Tables} {m : Moment} {n : ℕ}

/-- A transaction that wrote nothing sees the tables as they are. -/
theorem execute_unwritten (session : Session) :
    protocol.execute session (protocol.view db []) m = execute session db m := rfl

/-- What an update's transaction leaves, as `Store` writes it. -/
def updateTransaction (jobId : UUID) (p : EvaluationJob → Bool) (u : RowUpdate) (q : Queue) :
    Except StoreError (Option EvaluationJob) × Queue :=
  transaction (fun q => do
    let (row, q') := updateJobs jobId p u.set q
    if row.all fun _ => u.references q.runs then
      let row ← fetchone row
      pure (row, q')
    else .error .foreignKeyViolation) q

theorem updateTransaction_unchecked (jobId : UUID) (p : EvaluationJob → Bool) {u : RowUpdate}
    (hu : ∀ runs, u.references runs = true) (q : Queue) :
    updateTransaction jobId p u q = transaction (fun q => do
      let (row, q') := updateJobs jobId p u.set q
      let row ← fetchone row
      pure (row, q')) q := by
  have hall : ∀ row : Option EvaluationJob, (row.all fun _ => true) = true := by
    intro row
    cases row <;> rfl
  simp only [updateTransaction, hu, hall, if_true]

/-- An update that returned a row wrote that row and no other. -/
theorem apply_updateJob (hk : Keyed EvaluationJob.jobId db.jobs) {jobId : UUID}
    {p : EvaluationJob → Bool} {u : RowUpdate} {row : EvaluationJob}
    (h : returning EvaluationJob.jobId jobId p u.set db.jobs = some row) :
    Table.update EvaluationJob.jobId jobId p u.set db.jobs =
      Table.update EvaluationJob.jobId jobId (fun _ => true) u.set db.jobs := by
  rcases update_cases (k := jobId) (p := p) (f := u.set) hk with
    ⟨-, -, hnone⟩ | ⟨j, hj, hid, hp, -⟩
  · rw [hnone] at h
    cases h
  · unfold Table.update
    refine List.map_congr_left fun x hx => ?_
    by_cases hxk : x.jobId = jobId
    · obtain rfl := hk.eq_of_key hx hj (hxk.trans hid.symm)
      simp [hp]
    · simp [hxk]

/-- The update of a call that runs alone. -/
theorem solo_updateRow (hk : Keyed EvaluationJob.jobId db.jobs) {session : Session}
    {jobId : UUID} {p : EvaluationJob → Bool} {u : RowUpdate} (now : Timestamp)
    (h : execute session db m = updateRow jobId p u db) :
    ∃ answer, protocol.solo m db (n + 2) session [] =
      some (answer, .ofQueue (updateTransaction jobId p u (db.seen now)).2) := by
  have hfirst := (execute_unwritten session).trans h
  -- no row to update; a run that is not there; a row that cannot be read back
  cases hret : returning EvaluationJob.jobId jobId p u.set db.jobs with
  | none =>
    have hsame : Table.update EvaluationJob.jobId jobId p u.set db.jobs = db.jobs := by
      rcases update_cases (k := jobId) (p := p) (f := u.set) hk with
        ⟨-, hsame, -⟩ | ⟨j, -, -, -, -, hsome⟩
      · exact hsame
      · rw [hret] at hsome
        cases hsome
    have hrow : updateRow jobId p u db = .proceed [] [] (.leave none) := by
      simp only [updateRow, hret]
    have hstore : updateTransaction jobId p u (db.seen now) = (.ok none, db.seen now) := by
      simp [updateTransaction, transaction, updateJobs, hret, hsame, fetchone_none, bind,
        Except.bind, pure, Except.pure]
      rfl
    refine ⟨.ok none, ?_⟩
    rw [Locking.solo_proceed (hfirst.trans hrow), hstore]
    rfl
  | some row =>
    have happly := apply_updateJob hk hret
    cases href : u.references db.runs with
    | false =>
      have hrow : updateRow jobId p u db = raises .foreignKeyViolation := by
        simp [updateRow, hret, href]
      have hstore : updateTransaction jobId p u (db.seen now) =
          (.error .foreignKeyViolation, db.seen now) := by
        simp [updateTransaction, transaction, updateJobs, hret, href]
      refine ⟨.error .foreignKeyViolation, ?_⟩
      rw [Locking.solo_rollback (hfirst.trans hrow), hstore]
      rfl
    | true =>
      cases hfetch : fetchone (some row) with
      | error e =>
        have hrow : updateRow jobId p u db = raises e := by
          simp [updateRow, hret, href, hfetch]
        have hstore : updateTransaction jobId p u (db.seen now) = (.error e, db.seen now) := by
          simp [updateTransaction, transaction, updateJobs, hret, href, hfetch, bind, Except.bind]
        refine ⟨.error e, ?_⟩
        rw [Locking.solo_rollback (hfirst.trans hrow), hstore]
        rfl
      | ok row' =>
        have hrow : updateRow jobId p u db =
            .proceed [.job jobId] [.updateJob jobId u] (.leave row') := by
          simp [updateRow, hret, href, hfetch]
        have hstore : updateTransaction jobId p u (db.seen now) =
            (.ok row', (db.apply (.updateJob jobId u)).seen now) := by
          simp [updateTransaction, transaction, updateJobs, hret, href, hfetch, happly, bind,
            Except.bind, pure, Except.pure]
          rfl
        refine ⟨.ok row', ?_⟩
        rw [Locking.solo_proceed (hfirst.trans hrow), hstore]
        rfl

/-- The insert of `enqueue_job`, once the quota is checked. -/
theorem solo_enqueueInsert {now : Timestamp} (hquota : checkSubmissionQuota (db.seen now) = .ok ())
    (job : EvaluationJob) :
    ∃ answer, protocol.solo m db (n + 2) (.enqueueInsert now job) [] =
      some (answer, .ofQueue (transaction (fun q => do
        checkSubmissionQuota q
        insertJob job q) (db.seen now)).2) := by
  have hbody : (do checkSubmissionQuota (db.seen now); insertJob job (db.seen now)) =
      insertJob job (db.seen now) := by
    rw [hquota]
    rfl
  simp only [transaction, hbody]
  cases hjob : insertJob job (db.seen now) with
  | error e =>
    have hinsert : execute (.enqueueInsert now job) db m = raises e := by
      simp only [execute, hjob]
    refine ⟨.error e, ?_⟩
    rw [Locking.solo_rollback ((execute_unwritten _).trans hinsert)]
    rfl
  | ok r =>
    have hinsert : execute (.enqueueInsert now job) db m =
        .proceed [.job job.jobId] [.insertJob job] (.enqueueCommit now job) := by
      simp only [execute, hjob]
    obtain rfl : (job, (db.apply (.insertJob job)).seen now) = r := by
      unfold insertJob at hjob
      split_ifs at hjob
      exact Except.ok.inj hjob
    refine ⟨.ok (some job), ?_⟩
    rw [Locking.solo_proceed ((execute_unwritten _).trans hinsert)]
    rfl

/-- `enqueue_job` from the lock on. -/
theorem solo_enqueue (now : Timestamp) (job : EvaluationJob) :
    ∃ answer, protocol.solo m db (n + 5) (.enqueueLock now job) [] =
      some (answer, .ofQueue (transaction (fun q => do
        checkSubmissionQuota q
        insertJob job q) (db.seen now)).2) := by
  have hlock : protocol.solo m db (n + 5) (.enqueueLock now job) [] =
      protocol.solo m db (n + 4) (.enqueueQuota now job) [] := rfl
  rw [hlock]
  -- without limits the check reads nothing more
  cases hq : db.quota with
  | none =>
    have hread : execute (.enqueueQuota now job) db m = .proceed [] [] (.enqueueInsert now job) := by
      simp only [execute, hq]
    have hquota : checkSubmissionQuota (db.seen now) = .ok () := by
      simp only [checkSubmissionQuota, Tables.seen, hq]
    rw [Locking.solo_proceed ((execute_unwritten _).trans hread)]
    exact solo_enqueueInsert hquota job
  | some quota =>
    have hread : execute (.enqueueQuota now job) db m =
        .proceed [] [] (.enqueueUsage now job quota) := by
      simp only [execute, hq]
    have hseen : ({ db.seen now with quota := some quota } : Queue) = db.seen now := by
      simp only [Tables.seen, hq]
    rw [Locking.solo_proceed ((execute_unwritten _).trans hread)]
    cases hquota : checkSubmissionQuota (db.seen now) with
    | error e =>
      have hcheck : execute (.enqueueUsage now job quota) db m = raises e := by
        simp only [execute, hseen, hquota]
      have hstore : transaction (fun q => do
          checkSubmissionQuota q
          insertJob job q) (db.seen now) = (.error e, db.seen now) := by
        simp [transaction, hquota, bind, Except.bind]
      refine ⟨.error e, ?_⟩
      rw [List.append_nil,
        Locking.solo_rollback ((execute_unwritten _).trans hcheck), hstore]
      rfl
    | ok u =>
      have hcheck : execute (.enqueueUsage now job quota) db m =
          .proceed [] [] (.enqueueInsert now job) := by
        simp only [execute, hseen, hquota]
      rw [List.append_nil, Locking.solo_proceed ((execute_unwritten _).trans hcheck)]
      exact solo_enqueueInsert hquota job

/-- The claim of `lease_job`, once the quota is read. -/
theorem solo_leaseClaim (hk : Keyed EvaluationJob.jobId db.jobs)
    (hskips : ∀ k, m.skips k = false) {now : Timestamp}
    (hfree : runningQuotaFull (db.seen now) = false) (c : Lease) :
    ∃ answer, protocol.solo m db (n + 2)
      (.leaseClaim now c (cudaQuotaAvailable (db.seen now))) [] =
      some (answer, .ofQueue (leaseJob c.workerId c.leaseSeconds c.capabilities c.plan
        (db.seen now)).2) := by
  -- alone, no row is locked by another
  have hjobs : db.jobs.filter (fun j => !m.skips j.jobId) = db.jobs := by simp [hskips]
  have hstatement : execute (.leaseClaim now c (cudaQuotaAvailable (db.seen now))) db m =
      match nextClaim c.plan (Offer.ofCapabilities c.capabilities) c.workerId c.leaseSeconds
          (db.seen now) with
      | .error e => raises e
      | .ok none => .proceed [] [] (.leave none)
      | .ok (some claim) =>
        updateRow claim.jobId (fun _ => true) (.claimed now c.workerId c.leaseSeconds) db := by
    simp only [execute, claimRow, hjobs]
    rfl
  cases hclaim : nextClaim c.plan (Offer.ofCapabilities c.capabilities) c.workerId c.leaseSeconds
      (db.seen now) with
  | error e =>
    rw [hclaim] at hstatement
    have hstore : leaseJob c.workerId c.leaseSeconds c.capabilities c.plan (db.seen now) =
        (.error e, db.seen now) := by
      simp [leaseJob, transaction, hfree, hclaim]
    refine ⟨.error e, ?_⟩
    rw [Locking.solo_rollback ((execute_unwritten _).trans hstatement), hstore]
    rfl
  | ok row =>
    rw [hclaim] at hstatement
    cases row with
    | none =>
      have hstore : leaseJob c.workerId c.leaseSeconds c.capabilities c.plan (db.seen now) =
          (.ok none, db.seen now) := by
        simp [leaseJob, transaction, hfree, hclaim]
      refine ⟨.ok none, ?_⟩
      rw [Locking.solo_proceed ((execute_unwritten _).trans hstatement), hstore]
      rfl
    | some claim =>
      have hstore : leaseJob c.workerId c.leaseSeconds c.capabilities c.plan (db.seen now) =
          updateTransaction claim.jobId (fun _ => true) (.claimed now c.workerId c.leaseSeconds)
            (db.seen now) := by
        rw [updateTransaction_unchecked _ _ fun _ => rfl]
        simp [leaseJob, transaction, hfree, hclaim, RowUpdate.set]
        rfl
      rw [hstore]
      exact solo_updateRow hk now hstatement

/-- `lease_job` from the lock on. -/
theorem solo_lease (hk : Keyed EvaluationJob.jobId db.jobs) (hskips : ∀ k, m.skips k = false)
    (now : Timestamp) (c : Lease) :
    ∃ answer, protocol.solo m db (n + 5) (.leaseLock now c) [] =
      some (answer, .ofQueue (leaseJob c.workerId c.leaseSeconds c.capabilities c.plan
        (db.seen now)).2) := by
  have hlock : protocol.solo m db (n + 5) (.leaseLock now c) [] =
      protocol.solo m db (n + 4) (.leaseQuota now c) [] := rfl
  rw [hlock]
  -- without limits the usage is not read
  cases hq : db.quota with
  | none =>
    have hread : execute (.leaseQuota now c) db m =
        .proceed [] [] (.leaseClaim now c (cudaQuotaAvailable (db.seen now))) := by
      simp [execute, cudaQuotaAvailable, hq]
    have hfree : runningQuotaFull (db.seen now) = false := by
      simp [runningQuotaFull, hq]
    rw [Locking.solo_proceed ((execute_unwritten _).trans hread)]
    exact solo_leaseClaim hk hskips hfree c
  | some quota =>
    have hread : execute (.leaseQuota now c) db m = .proceed [] [] (.leaseUsage now c quota) := by
      simp only [execute, hq]
    have hseen : ({ db.seen now with quota := some quota } : Queue) = db.seen now := by
      simp only [Tables.seen, hq]
    rw [Locking.solo_proceed ((execute_unwritten _).trans hread), List.append_nil]
    cases hfull : runningQuotaFull (db.seen now) with
    | true =>
      have hcheck : execute (.leaseUsage now c quota) db m = .commit (.ok none) := by
        simp only [execute, hseen, hfull, if_true]
      have hstore : leaseJob c.workerId c.leaseSeconds c.capabilities c.plan (db.seen now) =
          (.ok none, db.seen now) := by
        simp [leaseJob, transaction, hfull]
      refine ⟨.ok none, ?_⟩
      rw [Locking.solo_commit ((execute_unwritten _).trans hcheck), hstore]
      rfl
    | false =>
      have hcheck : execute (.leaseUsage now c quota) db m =
          .proceed [] [] (.leaseClaim now c (cudaQuotaAvailable (db.seen now))) := by
        simp only [execute, hseen, hfull, Bool.false_eq_true, if_false]
      rw [Locking.solo_proceed ((execute_unwritten _).trans hcheck)]
      exact solo_leaseClaim hk hskips hfull c

/-- The calls that are one update. -/
theorem solo_begin_update (hk : Keyed EvaluationJob.jobId db.jobs) {c : Call} {jobId : UUID}
    {p : EvaluationJob → Bool} {u : RowUpdate}
    (hbegin : begin m.now c = .proceed [] [] (.update jobId p u)) :
    ∃ answer, protocol.solo m db 6 (.begin c) [] =
      some (answer, .ofQueue (updateTransaction jobId p u (db.seen m.now)).2) := by
  have hbegin : execute (.begin c) db m = .proceed [] [] (.update jobId p u) := hbegin
  rw [Locking.solo_proceed ((execute_unwritten _).trans hbegin)]
  exact solo_updateRow (n := 3) hk m.now rfl

/-- A call by itself does what its method does in `Store`. -/
theorem solo_step (hk : Keyed EvaluationJob.jobId db.jobs) (hskips : ∀ k, m.skips k = false)
    {c : Call} {op : Op} (hop : c.op = some op) :
    ∃ answer, protocol.solo m db 6 (.begin c) [] =
      some (answer, .ofQueue (Jobs.step (db.seen m.now) op)) := by
  cases c with
  | enqueueJob request jobId createdAt updatedAt =>
    obtain rfl := Option.some.inj hop
    cases hlabels : effectiveLabels request.agentVersion request.requiredLabels with
    | error e =>
      have hbegin : execute (.begin (.enqueueJob request jobId createdAt updatedAt)) db m =
          raises e := by
        simp [execute, begin, newJob, hlabels, bind, Except.bind]
      refine ⟨.error e, ?_⟩
      rw [Locking.solo_rollback ((execute_unwritten _).trans hbegin)]
      simp [Jobs.step, perform, enqueueJob, hlabels, bind, Except.bind]
      rfl
    | ok labels =>
      cases hspec : JobSpec.ofRequest request labels with
      | error e =>
        have hbegin : execute (.begin (.enqueueJob request jobId createdAt updatedAt)) db m =
            raises e := by
          simp [execute, begin, newJob, hlabels, hspec, bind, Except.bind]
        refine ⟨.error e, ?_⟩
        rw [Locking.solo_rollback ((execute_unwritten _).trans hbegin)]
        simp [Jobs.step, perform, enqueueJob, hlabels, hspec, bind, Except.bind]
        rfl
      | ok spec =>
        have hbegin : execute (.begin (.enqueueJob request jobId createdAt updatedAt)) db m =
            .proceed [] [] (.enqueueLock m.now { toJobSpec := spec, jobId, createdAt, updatedAt }) := by
          simp [execute, begin, newJob, hlabels, hspec, bind, Except.bind]
        rw [Locking.solo_proceed ((execute_unwritten _).trans hbegin)]
        obtain ⟨answer, hanswer⟩ := solo_enqueue (m := m) (n := 0) m.now
          { toJobSpec := spec, jobId, createdAt, updatedAt }
        refine ⟨answer, ?_⟩
        rw [List.append_nil, hanswer]
        simp [Jobs.step, perform, enqueueJob, hlabels, hspec, bind, Except.bind]
  | leaseJob c =>
    obtain rfl := Option.some.inj hop
    exact solo_lease (n := 0) hk hskips m.now c
  | renewJobLease jobId workerId leaseSeconds =>
    obtain rfl := Option.some.inj hop
    exact solo_begin_update (p := leasedBy workerId) (u := .renewed m.now leaseSeconds) hk rfl
  | completeJob jobId workerId runId =>
    obtain rfl := Option.some.inj hop
    exact solo_begin_update (p := leasedBy workerId) (u := .completed m.now runId) hk rfl
  | failJob jobId workerId error =>
    obtain rfl := Option.some.inj hop
    exact solo_begin_update (p := leasedBy workerId)
      (u := .failedOnce m.now (String.ofList (error.toList.take 4000))) hk rfl
  | cancelJob jobId =>
    obtain rfl := Option.some.inj hop
    have hstate : (cancelJob jobId (db.seen m.now)).2 = (updateTransaction jobId
        (fun j => !j.status.terminal) (.cancelled m.now) (db.seen m.now)).2 := by
      rw [updateTransaction_unchecked _ _ fun _ => rfl]
      unfold cancelJob
      dsimp only
      split
      · rfl
      · rfl
      · split <;> rfl
    show ∃ answer, _ = some (answer, Tables.ofQueue (cancelJob jobId (db.seen m.now)).2)
    rw [hstate]
    exact solo_begin_update hk rfl
  | saveRun runId =>
    obtain rfl := Option.some.inj hop
    exact ⟨.ok none, rfl⟩
  | setTenantQuota limits => cases hop

end Serial

/-- **One call at a time.**  A call whose transaction is the only one leaves the tables that its
    method leaves in `Store`, at the time its transaction began. -/
theorem serial_eq_step {db : Tables} (hk : Keyed EvaluationJob.jobId db.jobs) {m : Moment}
    (hskips : ∀ k, m.skips k = false) {c : Call} {op : Op} (hop : c.op = some op) (id : ℕ) :
    reached db (.call id c :: List.replicate 6 (.advance id m)) =
      .idle (.ofQueue (Jobs.step (db.seen m.now) op)) := by
  obtain ⟨answer, hsolo⟩ := solo_step hk hskips hop
  exact Locking.call_run protocol hsolo

end AEControl.Jobs.Transactions
