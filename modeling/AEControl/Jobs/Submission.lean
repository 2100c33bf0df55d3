/-
  The submission quota under concurrency.

  An `enqueue_job` counts, and inserts later.  In between, the tenant's advisory lock keeps out what
  would add a row or change the quota (`discipline`): the hourly count it made is still right when
  it commits, whatever the order in which clocks were read and transactions commit.  The lock does
  not keep out the updates of single rows, and one of them adds to the count of queued jobs: a
  `fail_job` that puts its job back into the queue.  `watch` follows the jobs put back since a
  transaction's check; apart from them the queue is within its limit at the commit
  (`Watched.step`, `submissionQuota`).

  Structure of the proof, over the locking discipline of `Lib.Locking`:
  1. `Rely`: what other transactions may do to the tables while the locks in `held` are held, and
     `Rely.write`, by which a write needs the locks of what it touches;
  2. `Prepared`: what a transaction has established by its statements so far, stable under `Rely`
     (`Prepared.stable`).  For a submission it is `HourFree`, the room in the hour;
  3. `execute_proceeds`, the inversion lemma of the statements, and with it `execute_proceed` and
     `execute_commit`: each statement prepares the next one, and what is committed may be;
  4. **the crux**, `Watched.step`: the room in the queue (`QueueFree`) is counted apart from the
     jobs put back, and a commit of others either needs the quota's lock or leaves that room
     (`Commits.queueFree`);
  5. `submissionQuota` reads the result off at the commit, for every interleaving.
-/
import AEControl.Jobs.Transactions

namespace AEControl.Jobs.Transactions

open Table

/-! ## What a transaction relies on -/

/-- The locks of a write. -/
def Write.touches : Write → List Lock
  | .insertJob job => [.quota, .job job.jobId]
  | .updateJob jobId _ => [.job jobId]
  | .setQuota _ => [.quota]
  | .insertRun _ => []

/-- What the holder of some locks sees unchanged. -/
structure Rely (held : Lock → Prop) (db db' : Tables) : Prop where
  quota : held .quota → db'.quota = db.quota
  created : held .quota →
    db'.jobs.map EvaluationJob.createdAt = db.jobs.map EvaluationJob.createdAt
  row : ∀ k, held (.job k) →
    lookup EvaluationJob.jobId k db'.jobs = lookup EvaluationJob.jobId k db.jobs

/-- Nothing happening is within what others may do. -/
theorem Rely.refl (held : Lock → Prop) (db : Tables) : Rely held db db :=
  ⟨fun _ => rfl, fun _ => rfl, fun _ _ => rfl⟩

/-- Two things others may do, one after the other, are within what they may do. -/
theorem Rely.trans {held : Lock → Prop} {db db' db'' : Tables} (h : Rely held db db')
    (h' : Rely held db' db'') : Rely held db db'' where
  quota := fun hl => (h'.quota hl).trans (h.quota hl)
  created := fun hl => (h'.created hl).trans (h.created hl)
  row := fun k hk => (h'.row k hk).trans (h.row k hk)

/-- **A write is no business of whoever holds none of its locks.** -/
theorem Rely.write {held : Lock → Prop} {db : Tables} {w : Write}
    (h : ∀ l ∈ w.touches, ¬held l) : Rely held db (db.apply w) := by
  cases w with
  | insertJob job =>
    have hquota : ¬held .quota := h _ (by simp [Write.touches])
    have hjob : ¬held (.job job.jobId) := h _ (by simp [Write.touches])
    refine ⟨fun hl => absurd hl hquota, fun hl => absurd hl hquota, fun k hk => ?_⟩
    refine lookup_append_of_ne ?_
    rintro rfl
    exact hjob hk
  | updateJob jobId u =>
    have hjob : ¬held (.job jobId) := h _ (by simp [Write.touches])
    refine ⟨fun _ => rfl, fun _ => map_update fun j => u.set_createdAt j, fun k hk => ?_⟩
    refine lookup_update_of_ne ?_ fun j => u.set_jobId j
    rintro rfl
    exact hjob hk
  | setQuota limits =>
    have hquota : ¬held .quota := h _ (by simp [Write.touches])
    exact ⟨fun hl => absurd hl hquota, fun hl => absurd hl hquota, fun _ _ => rfl⟩
  | insertRun runId => exact ⟨fun _ => rfl, fun _ => rfl, fun _ _ => rfl⟩

/-! ## What a transaction has established -/

/-- `jobs_submitted_last_hour`, for a transaction that began at `now`. -/
def submittedLastHour (db : Tables) (now : Timestamp) : ℕ :=
  (tenantQuotaUsage (db.seen now)).jobsSubmittedLastHour

/-- The hourly limit leaves room for a job. -/
def HourFree (db : Tables) (now : Timestamp) : Prop :=
  ∀ quota ∈ db.quota, ∀ n ∈ quota.maxJobsPerHour, submittedLastHour db now < n

/-- The queued jobs other than those of a list. -/
def queuedBesides (besides : List UUID) (db : Tables) : ℕ :=
  db.jobs.countP fun j => j.status = .queued && !besides.contains j.jobId

/-- The limit on queued jobs leaves room for a job. -/
def QueueFree (besides : List UUID) (db : Tables) : Prop :=
  ∀ quota ∈ db.quota, ∀ n ∈ quota.maxQueuedJobs, queuedBesides besides db < n

/-- Besides no requeued job all queued ones count. -/
theorem queuedBesides_nil (db : Tables) (now : Timestamp) :
    queuedBesides [] db = (tenantQuotaUsage (db.seen now)).queuedJobs := by
  show db.jobs.countP _ = db.jobs.countP _
  congr 1
  funext j
  simp

/-- The key of the job is locked, and no row has it. -/
def FreshJob (db : Tables) (held : Lock → Prop) (job : EvaluationJob) : Prop :=
  held (.job job.jobId) ∧ lookup EvaluationJob.jobId job.jobId db.jobs = none

/-- What a transaction that is not an `enqueue_job` may commit, with the row it returns. -/
inductive Committable (db : Tables) (held : Lock → Prop) : List Write → Option EvaluationJob → Prop
  | nothing (row : Option EvaluationJob) : Committable db held [] row
  | updated {jobId : UUID} {u : RowUpdate} {j : EvaluationJob} (hheld : held (.job jobId))
      (hj : lookup EvaluationJob.jobId jobId db.jobs = some j) :
      Committable db held [.updateJob jobId u] (some (u.set j))
  | quotaSet {limits : TenantQuotaLimits} (hheld : held .quota) :
      Committable db held [.setQuota limits] none
  | runInserted {runId : UUID} : Committable db held [.insertRun runId] none

/-- What a transaction has established before its next statement. -/
def Prepared (db : Tables) (held : Lock → Prop) (session : Session) (writes : List Write) : Prop :=
  match session with
  | .enqueueQuota _ _ => writes = [] ∧ held .quota
  | .enqueueUsage _ _ quota => writes = [] ∧ held .quota ∧ db.quota = some quota
  | .enqueueInsert now _ => writes = [] ∧ held .quota ∧ HourFree db now
  | .enqueueCommit now job =>
    writes = [.insertJob job] ∧ held .quota ∧ HourFree db now ∧ FreshJob db held job
  | .quotaUpdate _ => writes = [] ∧ held .quota
  | .leave row => Committable db held writes row
  | _ => writes = []

/-! ### Stability -/

section Stable

variable {db db' : Tables} {held held' : Lock → Prop}

/-- The count of the last hour reads nothing but `created_at`. -/
theorem submittedLastHour_eq (db : Tables) (now : Timestamp) : submittedLastHour db now =
    (db.jobs.map EvaluationJob.createdAt).countP fun t => now - hour ≤ t := by
  show db.jobs.countP (fun j => now - hour ≤ j.createdAt) = _
  rw [List.countP_map]
  rfl

/-- Room in the hour stays while the quota is locked. -/
theorem HourFree.stable {now : Timestamp} (hrely : Rely held db db') (hheld : held .quota)
    (h : HourFree db now) : HourFree db' now := by
  intro quota hquota n hn
  rw [hrely.quota hheld] at hquota
  have hlt := h quota hquota n hn
  rw [submittedLastHour_eq] at hlt ⊢
  rwa [hrely.created hheld]

/-- A fresh job stays one when more is locked. -/
theorem FreshJob.mono {job : EvaluationJob} (hle : ∀ l, held l → held' l)
    (h : FreshJob db held job) : FreshJob db held' job := ⟨hle _ h.1, h.2⟩

/-- A fresh job stays one whatever others do, for its identifier is locked. -/
theorem FreshJob.stable {job : EvaluationJob} (hrely : Rely held db db')
    (h : FreshJob db held job) : FreshJob db' held job := ⟨h.1, (hrely.row _ h.1).trans h.2⟩

/-- Writes that may be committed stay so when more is locked. -/
theorem Committable.mono {writes : List Write} {row : Option EvaluationJob}
    (hle : ∀ l, held l → held' l) (h : Committable db held writes row) :
    Committable db held' writes row := by
  cases h with
  | nothing row => exact .nothing row
  | updated hheld hj => exact .updated (hle _ hheld) hj
  | quotaSet hheld => exact .quotaSet (hle _ hheld)
  | runInserted => exact .runInserted

/-- Writes that may be committed stay so whatever others do. -/
theorem Committable.stable {writes : List Write} {row : Option EvaluationJob}
    (hrely : Rely held db db') (h : Committable db held writes row) :
    Committable db' held writes row := by
  cases h with
  | nothing row => exact .nothing row
  | updated hheld hj => exact .updated hheld ((hrely.row _ hheld).trans hj)
  | quotaSet hheld => exact .quotaSet hheld
  | runInserted => exact .runInserted

/-- A prepared session stays prepared when more is locked. -/
theorem Prepared.mono {session : Session} {writes : List Write} (hle : ∀ l, held l → held' l)
    (h : Prepared db held session writes) : Prepared db held' session writes := by
  cases session with
  | enqueueQuota now job => exact ⟨h.1, hle _ h.2⟩
  | enqueueUsage now job quota => exact ⟨h.1, hle _ h.2.1, h.2.2⟩
  | enqueueInsert now job => exact ⟨h.1, hle _ h.2.1, h.2.2⟩
  | enqueueCommit now job => exact ⟨h.1, hle _ h.2.1, h.2.2.1, h.2.2.2.mono hle⟩
  | quotaUpdate limits => exact ⟨h.1, hle _ h.2⟩
  | leave row => exact Committable.mono hle h
  | _ => exact h

/-- A prepared session stays prepared whatever others do. -/
theorem Prepared.stable {session : Session} {writes : List Write} (hrely : Rely held db db')
    (h : Prepared db held session writes) : Prepared db' held session writes := by
  cases session with
  | enqueueUsage now job quota =>
    obtain ⟨hwrites, hheld, hquota⟩ := h
    exact ⟨hwrites, hheld, (hrely.quota hheld).trans hquota⟩
  | enqueueInsert now job =>
    obtain ⟨hwrites, hheld, hfree⟩ := h
    exact ⟨hwrites, hheld, hfree.stable hrely hheld⟩
  | enqueueCommit now job =>
    obtain ⟨hwrites, hheld, hfree, hfresh⟩ := h
    exact ⟨hwrites, hheld, hfree.stable hrely hheld, hfresh.stable hrely⟩
  | leave row => exact Committable.stable hrely h
  | _ => exact h

end Stable

/-! ## Statements -/

/-- Nothing is established before the statement. -/
def Session.Unprepared : Session → Prop
  | .enqueueQuota _ _ | .enqueueUsage _ _ _ | .enqueueInsert _ _ | .enqueueCommit _ _ => False
  | .quotaUpdate _ | .leave _ => False
  | _ => True

/-- **The ways a transaction goes on**, with the locks it takes and what it writes. -/
inductive Proceeds (db : Tables) : Session → List Lock → List Write → Session → Prop
  | next {session session' : Session} {locks : List Lock} (h : session.Unprepared)
      (h' : session'.Unprepared) : Proceeds db session locks [] session'
  | enqueueLocked {now : Timestamp} {job : EvaluationJob} :
      Proceeds db (.enqueueLock now job) [.quota] [] (.enqueueQuota now job)
  | unlimited {now : Timestamp} {job : EvaluationJob} (hquota : db.quota = none) :
      Proceeds db (.enqueueQuota now job) [] [] (.enqueueInsert now job)
  | limited {now : Timestamp} {job : EvaluationJob} {quota : TenantQuotaLimits}
      (hquota : db.quota = some quota) :
      Proceeds db (.enqueueQuota now job) [] [] (.enqueueUsage now job quota)
  | checked {now : Timestamp} {job : EvaluationJob} {quota : TenantQuotaLimits}
      (hcheck : checkSubmissionQuota { db.seen now with quota := some quota } = .ok ()) :
      Proceeds db (.enqueueUsage now job quota) [] [] (.enqueueInsert now job)
  | inserted {now : Timestamp} {job : EvaluationJob}
      (hfresh : lookup EvaluationJob.jobId job.jobId db.jobs = none) :
      Proceeds db (.enqueueInsert now job) [.job job.jobId] [.insertJob job]
        (.enqueueCommit now job)
  | missed {session : Session} (h : session.Unprepared) : Proceeds db session [] [] (.leave none)
  | updated {session : Session} {jobId : UUID} {u : RowUpdate} {j : EvaluationJob}
      (h : session.Unprepared) (hj : lookup EvaluationJob.jobId jobId db.jobs = some j) :
      Proceeds db session [.job jobId] [.updateJob jobId u] (.leave (some (u.set j)))
  | runInserted {runId : UUID} :
      Proceeds db (.insertRun runId) [] [.insertRun runId] (.leave none)
  | quotaLocked {limits : TenantQuotaLimits} :
      Proceeds db (.quotaLock limits) [.quota] [] (.quotaUpdate limits)
  | quotaMissed {limits : TenantQuotaLimits} :
      Proceeds db (.quotaUpdate limits) [] [] (.leave none)
  | quotaSet {limits : TenantQuotaLimits} :
      Proceeds db (.quotaUpdate limits) [] [.setQuota limits] (.leave none)

/-- An UPDATE of one row goes on with that row locked. -/
theorem updateRow_proceeds {db : Tables} {jobId : UUID} {p : EvaluationJob → Bool} {u : RowUpdate}
    (hgood : Keyed EvaluationJob.jobId db.jobs) {session session' : Session}
    (hsession : session.Unprepared) {locks : List Lock} {writes : List Write}
    (h : updateRow jobId p u db = .proceed locks writes session') :
    Proceeds db session locks writes session' := by
  unfold updateRow at h
  rcases update_cases (k := jobId) (p := p) (f := u.set) hgood with
    ⟨-, -, hnone⟩ | ⟨j, hj, hid, -, -, hsome⟩
  · rw [hnone] at h
    cases h
    exact .missed hsession
  · rw [hsome] at h
    simp only at h
    split_ifs at h with href
    · cases hfetch : fetchone (some (u.set j)) with
      | error e =>
        rw [hfetch] at h
        cases h
      | ok row =>
        have hrow : row = some (u.set j) := by
          unfold fetchone at hfetch
          split_ifs at hfetch
          exact (Except.ok.inj hfetch).symm
        rw [hfetch, hrow] at h
        cases h
        refine .updated hsession ?_
        rw [← hid]
        exact lookup_of_mem hgood hj
    · cases h

/-- An UPDATE of one row commits nothing yet. -/
theorem updateRow_ne_commit {db : Tables} {jobId : UUID} {p : EvaluationJob → Bool}
    {u : RowUpdate} {answer : Answer} : updateRow jobId p u db ≠ .commit answer := by
  intro h
  unfold updateRow at h
  split at h
  · cases h
  · split_ifs at h
    · split at h
      · cases h
      · cases h
    · cases h

/-- A claim is an update of the row it selects. -/
theorem claimRow_cases (now : Timestamp) (c : Lease) (cudaQuotaAvailable : Bool) (db : Tables)
    (skips : UUID → Bool) :
    (∃ e, claimRow now c cudaQuotaAvailable db skips = raises e) ∨
      claimRow now c cudaQuotaAvailable db skips = .proceed [] [] (.leave none) ∨
      ∃ jobId, claimRow now c cudaQuotaAvailable db skips =
        updateRow jobId (fun _ => true) (.claimed now c.workerId c.leaseSeconds) db := by
  unfold claimRow
  dsimp only
  split
  · next e _ => exact Or.inl ⟨e, rfl⟩
  · exact Or.inr (Or.inl rfl)
  · next claim _ => exact Or.inr (Or.inr ⟨claim.jobId, rfl⟩)

/-- **Inversion.**  Everything a statement that goes on can do. -/
theorem execute_proceeds {db : Tables} (hgood : Keyed EvaluationJob.jobId db.jobs)
    {session session' : Session} {locks : List Lock} {writes : List Write} {m : Moment}
    (h : execute session db m = .proceed locks writes session') :
    Proceeds db session locks writes session' := by
  -- statement by statement; those that raise or commit do not proceed
  cases session with
  | begin c =>
    cases c with
    | enqueueJob request jobId createdAt updatedAt =>
      simp only [execute, begin] at h
      split at h
      · cases h
      · cases h
        exact .next trivial trivial
    | _ =>
      cases h
      exact .next trivial trivial
  | enqueueLock now job =>
    cases h
    exact .enqueueLocked
  | enqueueQuota now job =>
    simp only [execute] at h
    split at h
    · rename_i hquota
      cases h
      exact .unlimited hquota
    · rename_i quota hquota
      cases h
      exact .limited hquota
  | enqueueUsage now job quota =>
    simp only [execute] at h
    split at h
    · cases h
    · rename_i hcheck
      cases h
      exact .checked hcheck
  | enqueueInsert now job =>
    simp only [execute] at h
    split at h
    · cases h
    · rename_i r hinsert
      cases h
      refine .inserted ?_
      unfold insertJob at hinsert
      split_ifs at hinsert with hsize htaken
      exact Option.not_isSome_iff_eq_none.mp htaken
  | enqueueCommit now job => cases h
  | leaseLock now c =>
    cases h
    exact .next trivial trivial
  | leaseQuota now c =>
    simp only [execute] at h
    split at h
    · cases h
      exact .next trivial trivial
    · cases h
      exact .next trivial trivial
  | leaseUsage now c quota =>
    simp only [execute] at h
    split_ifs at h
    cases h
    exact .next trivial trivial
  | leaseClaim now c cudaQuotaAvailable =>
    have h : claimRow now c cudaQuotaAvailable db m.skips = .proceed locks writes session' := h
    rcases claimRow_cases now c cudaQuotaAvailable db m.skips with
      ⟨e, hraises⟩ | hnone | ⟨jobId, hrow⟩
    · rw [hraises] at h
      cases h
    · rw [hnone] at h
      cases h
      exact .missed trivial
    · rw [hrow] at h
      refine updateRow_proceeds hgood ?_ h
      trivial
  | update jobId p u =>
    refine updateRow_proceeds hgood ?_ h
    trivial
  | insertRun runId =>
    cases h
    exact .runInserted
  | quotaLock limits =>
    cases h
    exact .quotaLocked
  | quotaUpdate limits =>
    simp only [execute] at h
    split at h
    · cases h
      exact .quotaMissed
    · cases h
      exact .quotaSet
  | leave row => cases h

/-- A transaction that goes on has written nothing before: each writes once. -/
theorem unwritten_of_proceed {db db' : Tables} {held : Lock → Prop} {session session' : Session}
    {locks : List Lock} {writes writes' : List Write} {m : Moment}
    (h : Prepared db held session writes)
    (hexecute : execute session db' m = .proceed locks writes' session') : writes = [] := by
  cases session with
  | enqueueQuota now job => exact h.1
  | enqueueUsage now job quota => exact h.1
  | enqueueInsert now job => exact h.1
  | quotaUpdate limits => exact h.1
  | enqueueCommit now job => cases hexecute
  | leave row => cases hexecute
  | _ => exact h

/-- A session that has read nothing has nothing to rest on. -/
theorem Prepared.of_unprepared {db : Tables} {held : Lock → Prop} {session : Session}
    (h : session.Unprepared) : Prepared db held session [] := by
  cases session with
  | enqueueQuota now job => cases h
  | enqueueUsage now job quota => cases h
  | enqueueInsert now job => cases h
  | enqueueCommit now job => cases h
  | quotaUpdate limits => cases h
  | leave row => cases h
  | _ => rfl

/-- The limits that passed the tests leave room. -/
theorem free_of_check {db : Tables} {now : Timestamp} {quota : TenantQuotaLimits}
    (hquota : db.quota = some quota)
    (h : checkSubmissionQuota { db.seen now with quota := some quota } = .ok ()) :
    QueueFree [] db ∧ HourFree db now := by
  unfold checkSubmissionQuota at h
  simp only at h
  split_ifs at h with hqueued hhour
  constructor
  · intro quota' hquota' n hn
    obtain rfl : quota = quota' := Option.some.inj (hquota.symm.trans hquota')
    have hn : quota.maxQueuedJobs = some n := hn
    simp only [hn, Option.any_some, decide_eq_true_eq, not_le] at hqueued
    rw [queuedBesides_nil db now]
    exact hqueued
  · intro quota' hquota' n hn
    obtain rfl : quota = quota' := Option.some.inj (hquota.symm.trans hquota')
    have hn : quota.maxJobsPerHour = some n := hn
    simp only [hn, Option.any_some, decide_eq_true_eq, not_le] at hhour
    exact hhour

/-- **A statement that proceeds prepares the next one.** -/
theorem execute_proceed {db : Tables} {held : Lock → Prop} {session session' : Session}
    {locks : List Lock} {writes writes' : List Write} {m : Moment}
    (hgood : Keyed EvaluationJob.jobId db.jobs) (h : Prepared db held session writes)
    (hexecute : execute session (protocol.view db writes) m = .proceed locks writes' session')
    (hlocks : ∀ l ∈ locks, held l) :
    Prepared db held session' (writes ++ writes') ∧ ∀ w ∈ writes', ∀ l ∈ w.touches, held l := by
  have hnothing : ∀ w ∈ ([] : List Write), ∀ l ∈ w.touches, held l := fun _ hw => by cases hw
  -- only the last statement of a transaction writes
  obtain rfl := unwritten_of_proceed h hexecute
  cases execute_proceeds hgood hexecute with
  | next hsession hsession' => exact ⟨.of_unprepared hsession', hnothing⟩
  | enqueueLocked => exact ⟨⟨rfl, hlocks _ List.mem_cons_self⟩, hnothing⟩
  | unlimited hquota =>
    refine ⟨⟨rfl, h.2, fun quota hq => ?_⟩, hnothing⟩
    rw [show db.quota = none from hquota] at hq
    cases hq
  | limited hquota => exact ⟨⟨rfl, h.2, hquota⟩, hnothing⟩
  | checked hcheck =>
    obtain ⟨-, hheld, hquota⟩ := h
    exact ⟨⟨rfl, hheld, (free_of_check hquota hcheck).2⟩, hnothing⟩
  | @inserted now job hfresh =>
    obtain ⟨-, hheld, hfree⟩ := h
    have hjob : held (.job job.jobId) := hlocks _ List.mem_cons_self
    refine ⟨⟨rfl, hheld, hfree, hjob, hfresh⟩, List.forall_mem_singleton.mpr ?_⟩
    exact List.forall_mem_cons.mpr ⟨hheld, List.forall_mem_singleton.mpr hjob⟩
  | missed hsession => exact ⟨.nothing none, hnothing⟩
  | @updated _ jobId u j hsession hj =>
    have hheld : held (.job jobId) := hlocks _ List.mem_cons_self
    refine ⟨.updated hheld hj, List.forall_mem_singleton.mpr ?_⟩
    exact List.forall_mem_singleton.mpr hheld
  | runInserted =>
    exact ⟨.runInserted, List.forall_mem_singleton.mpr fun l hl => by cases hl⟩
  | quotaLocked => exact ⟨⟨rfl, hlocks _ List.mem_cons_self⟩, hnothing⟩
  | quotaMissed => exact ⟨.nothing none, hnothing⟩
  | quotaSet =>
    refine ⟨.quotaSet h.2, List.forall_mem_singleton.mpr ?_⟩
    exact List.forall_mem_singleton.mpr h.2

/-- The transactions that commit, with what they have written. -/
inductive Commits (db : Tables) (held : Lock → Prop) : Session → List Write → Answer → Prop
  | enqueued {now : Timestamp} {job : EvaluationJob} (hheld : held .quota) (hfree : HourFree db now)
      (hfresh : FreshJob db held job) :
      Commits db held (.enqueueCommit now job) [.insertJob job] (.ok (some job))
  | full {now : Timestamp} {c : Lease} {quota : TenantQuotaLimits} :
      Commits db held (.leaseUsage now c quota) [] (.ok none)
  | left {writes : List Write} {row : Option EvaluationJob} (h : Committable db held writes row) :
      Commits db held (.leave row) writes (.ok row)

/-- What a prepared session commits may be committed. -/
theorem execute_commit {db : Tables} {held : Lock → Prop} {session : Session}
    {writes : List Write} {m : Moment} {answer : Answer} (h : Prepared db held session writes)
    (hexecute : execute session (protocol.view db writes) m = .commit answer) :
    Commits db held session writes answer := by
  cases session with
  | enqueueCommit now job =>
    obtain ⟨rfl, hheld, hfree, hfresh⟩ := h
    cases hexecute
    exact .enqueued hheld hfree hfresh
  | leave row =>
    cases hexecute
    exact .left h
  | leaseUsage now c quota =>
    obtain rfl : writes = [] := h
    simp only [execute] at hexecute
    split_ifs at hexecute
    cases hexecute
    exact .full
  -- the other statements proceed or raise
  | begin c =>
    cases c with
    | enqueueJob request jobId createdAt updatedAt =>
      simp only [execute, begin] at hexecute
      split at hexecute
      · cases hexecute
      · cases hexecute
    | _ => cases hexecute
  | enqueueQuota now job =>
    simp only [execute] at hexecute
    split at hexecute
    · cases hexecute
    · cases hexecute
  | enqueueUsage now job quota =>
    simp only [execute] at hexecute
    split at hexecute
    · cases hexecute
    · cases hexecute
  | enqueueInsert now job =>
    simp only [execute] at hexecute
    split at hexecute
    · cases hexecute
    · cases hexecute
  | leaseQuota now c =>
    simp only [execute] at hexecute
    split at hexecute
    · cases hexecute
    · cases hexecute
  | leaseClaim now c cudaQuotaAvailable =>
    have hclaim : claimRow now c cudaQuotaAvailable (protocol.view db writes) m.skips =
        .commit answer := hexecute
    rcases claimRow_cases now c cudaQuotaAvailable (protocol.view db writes) m.skips with
      ⟨e, hraises⟩ | hnone | ⟨jobId, hrow⟩
    · rw [hraises] at hclaim
      cases hclaim
    · rw [hnone] at hclaim
      cases hclaim
    · rw [hrow] at hclaim
      exact absurd hclaim updateRow_ne_commit
  | update jobId p u => exact absurd hexecute updateRow_ne_commit
  | quotaUpdate limits =>
    simp only [execute] at hexecute
    split at hexecute
    · cases hexecute
    · cases hexecute
  | enqueueLock now job => cases hexecute
  | leaseLock now c => cases hexecute
  | insertRun runId => cases hexecute
  | quotaLock limits => cases hexecute

/-- A commit keeps the primary key. -/
theorem Commits.keyed {db : Tables} {held : Lock → Prop} {session : Session} {writes : List Write}
    {answer : Answer} (hgood : Keyed EvaluationJob.jobId db.jobs)
    (h : Commits db held session writes answer) :
    Keyed EvaluationJob.jobId (protocol.view db writes).jobs := by
  cases h with
  | enqueued hheld hfree hfresh => exact hgood.append_one (lookup_none.mp hfresh.2)
  | full => exact hgood
  | left h =>
    cases h with
    | nothing row => exact hgood
    | @updated jobId u j hheld hj => exact hgood.update fun j => u.set_jobId j
    | quotaSet hheld => exact hgood
    | runInserted => exact hgood

/-- The locking discipline of the queue. -/
def discipline : Locking.Discipline protocol where
  Good db := Keyed EvaluationJob.jobId db.jobs
  touches := Write.touches
  Rely := Rely
  Prepared := Prepared
  start := fun _ _ _ => rfl
  mono := Prepared.mono
  proceed := execute_proceed
  commit := fun hgood h hexecute => (execute_commit h hexecute).keyed hgood
  rely_refl := Rely.refl
  rely_trans := Rely.trans
  rely_write := Rely.write
  stable := Prepared.stable

/-- **The discipline of the locks holds in every state reached.** -/
theorem invariant_reached {db : Tables} (hk : Keyed EvaluationJob.jobId db.jobs)
    (events : List Event) : discipline.Invariant (reached db events) :=
  Locking.Discipline.invariant_run hk events

/-! ## The jobs put back since a check -/

/-- The job a transaction puts back into the queue when it commits, if it is that of a
    `fail_job`. -/
def requeues : Session → List Write → List UUID
  | .leave (some row), [.updateJob jobId (.failedOnce _ _)] =>
    if row.status = .queued then [jobId] else []
  | _, _ => []

/-- The job that an event puts back. -/
def requeued (s : State) : Event → List UUID
  | .advance id _ =>
    match s.inflight id with
    | some txn => requeues txn.session txn.writes
    | none => []
  | _ => []

/-- The event is the quota check of transaction `id`. -/
def checksQuota (id : ℕ) (s : State) : Event → Bool
  | .advance id' _ =>
    id' = id && match s.inflight id with
    | some ⟨.enqueueUsage _ _ _, _⟩ => true
    | _ => false
  | _ => false

/-- A run, with the jobs put back since the last quota check of one transaction. -/
structure Watch where
  state : State
  requeued : List UUID

def watch (id : ℕ) (w : Watch) (event : Event) : Watch where
  state := Locking.step protocol w.state event
  requeued := if checksQuota id w.state event then [] else requeued w.state event ++ w.requeued

/-- The jobs that `fail_job` has put back into the queue since transaction `id` checked the
    quota. -/
def requeuedSinceCheck (id : ℕ) (db : Tables) (events : List Event) : List UUID :=
  (Runs.run (watch id) ⟨.idle db, []⟩ events).requeued

/-- Watching changes nothing. -/
theorem watch_state (id : ℕ) (w : Watch) (events : List Event) :
    (Runs.run (watch id) w events).state = Runs.run (Locking.step protocol) w.state events := by
  induction events generalizing w with
  | nil => rfl
  | cons event events ih => exact ih (watch id w event)

/-! ### The commits of others -/

/-- Without a write nothing is requeued. -/
theorem requeues_unwritten (session : Session) : requeues session [] = [] := by
  cases session with
  | leave row => cases row <;> rfl
  | _ => rfl

/-- Of the updates only `fail_job`'s can give a row the status `queued`. -/
theorem RowUpdate.queued_cases {u : RowUpdate} {j : EvaluationJob}
    (h : (u.set j).status = .queued) :
    j.status = .queued ∨ ∃ now message, u = .failedOnce now message := by
  cases u with
  | claimed now workerId leaseSeconds => cases h
  | renewed now leaseSeconds => exact Or.inl h
  | completed now runId => cases h
  | failedOnce now message => exact Or.inr ⟨now, message, rfl⟩
  | cancelled now => cases h

/-- An update adds no queued job that is not put on the list. -/
theorem queuedBesides_update_le {db : Tables} {jobId : UUID} {u : RowUpdate}
    {besides besides' : List UUID} (hsub : ∀ k ∈ besides, k ∈ besides')
    (hrow : ∀ j ∈ db.jobs, j.jobId = jobId → (u.set j).status = .queued →
      j.status = .queued ∨ jobId ∈ besides') :
    queuedBesides besides' (db.apply (.updateJob jobId u)) ≤ queuedBesides besides db := by
  unfold queuedBesides Tables.apply Table.update
  rw [List.countP_map]
  refine List.countP_mono_left fun j hj hcounted => ?_
  simp only [Function.comp_apply, and_true, Bool.and_eq_true, decide_eq_true_eq,
    Bool.not_eq_true', List.contains_eq_mem, decide_eq_false_iff_not] at hcounted ⊢
  obtain ⟨hstatus, hnot⟩ := hcounted
  by_cases hid : j.jobId = jobId
  · rw [if_pos hid] at hstatus hnot
    rw [u.set_jobId] at hnot
    rcases hrow j hj hid hstatus with hqueued | hput
    · exact ⟨hqueued, fun hmem => hnot (hsub _ hmem)⟩
    · rw [hid] at hnot
      exact absurd hput hnot
  · rw [if_neg hid] at hstatus hnot
    exact ⟨hstatus, fun hmem => hnot (hsub _ hmem)⟩

/-- **A commit without the lock** leaves the room it finds, apart from the job it puts back. -/
theorem Commits.queueFree {db : Tables} {held : Lock → Prop} {session : Session}
    {writes : List Write} {answer : Answer} {besides : List UUID}
    (hgood : Keyed EvaluationJob.jobId db.jobs) (h : Commits db held session writes answer)
    (hlock : ¬held .quota) (hfree : QueueFree besides db) :
    QueueFree (requeues session writes ++ besides) (protocol.view db writes) := by
  cases h with
  | enqueued hheld hhour hfresh => exact absurd hheld hlock
  | full => exact hfree
  | left h =>
    cases h with
    | nothing =>
      rw [requeues_unwritten]
      exact hfree
    | quotaSet hheld => exact absurd hheld hlock
    | runInserted => exact hfree
    | @updated jobId u j hheld hj =>
      obtain ⟨hmem, hid⟩ := lookup_some hj
      intro quota hquota n hn
      refine Nat.lt_of_le_of_lt (queuedBesides_update_le ?_ ?_) (hfree quota hquota n hn)
      · exact fun k hk => List.mem_append_right _ hk
      · intro x hx hxid hstatus
        obtain rfl := hgood.eq_of_key hx hmem (hxid.trans hid.symm)
        -- the row was queued before, or it is put back
        rcases RowUpdate.queued_cases hstatus with hqueued | ⟨now, message, rfl⟩
        · exact Or.inl hqueued
        · refine Or.inr (List.mem_append_left _ ?_)
          simp only [requeues]
          rw [if_pos hstatus]
          exact List.mem_singleton.mpr rfl

/-! ### One event -/

/-- The call has passed its quota check, or had none to pass. -/
def Session.Checked : Session → Prop
  | .enqueueInsert _ _ => True
  | .enqueueCommit _ _ => True
  | _ => False

/-- A transaction that has checked the quota holds its lock. -/
theorem Session.Checked.held {db : Tables} {held : Lock → Prop} {session : Session}
    {writes : List Write} (hchecked : session.Checked) (h : Prepared db held session writes) :
    held .quota := by
  cases session with
  | enqueueInsert now job => exact h.2.1
  | enqueueCommit now job => exact h.2.1
  | _ => cases hchecked

/-- Only a commit puts a job back. -/
theorem requeued_eq_nil {s : State} {id : ℕ} {m : Moment} {txn : Locking.Txn Session Write}
    (hid : s.inflight id = some txn) (h : ∀ answer, protocol.next s txn m ≠ .commit answer) :
    requeued s (.advance id m) = [] := by
  obtain ⟨session, writes⟩ := txn
  simp only [requeued, hid]
  cases session with
  | leave row => exact absurd rfl (h (.ok row))
  | _ => rfl

/-- A session that has read nothing has not checked the quota. -/
theorem Session.Unprepared.not_checked {session : Session} (h : session.Unprepared) :
    ¬session.Checked := by
  intro hchecked
  cases session with
  | enqueueInsert now job => cases h
  | enqueueCommit now job => cases h
  | _ => cases hchecked

/-- A statement after which the call has checked the quota: the check, or one after it. -/
theorem checked_of_proceed {db : Tables} {held : Lock → Prop} {session session' : Session}
    {locks : List Lock} {writes writes' : List Write} {m : Moment}
    (hgood : Keyed EvaluationJob.jobId db.jobs) (h : Prepared db held session writes)
    (hexecute : execute session (protocol.view db writes) m = .proceed locks writes' session')
    (hchecked : session'.Checked) :
    session.Checked ∨ db.quota = none ∨
      ((∃ now job quota, session = .enqueueUsage now job quota) ∧ QueueFree [] db) := by
  obtain rfl := unwritten_of_proceed h hexecute
  cases execute_proceeds hgood hexecute with
  | next hsession hsession' => exact absurd hchecked hsession'.not_checked
  | unlimited hquota => exact Or.inr (Or.inl hquota)
  | @checked now job quota hcheck =>
    exact Or.inr (Or.inr ⟨⟨now, job, quota, rfl⟩, (free_of_check h.2.2 hcheck).1⟩)
  | inserted hfresh => exact Or.inl trivial
  | _ => cases hchecked

/-- **What is known of a watched transaction**: from its check to its commit the queue has room, apart
    from the jobs that were put back. -/
structure Watched (id : ℕ) (w : Watch) : Prop where
  invariant : discipline.Invariant w.state
  free : ∀ txn, w.state.inflight id = some txn → txn.session.Checked →
    QueueFree w.requeued w.state.committed

/-- Two transactions do not hold the lock at once. -/
theorem not_holds_of_holds {s : State} {id id' : ℕ} {l : Lock} (hne : id' ≠ id)
    (h : s.Holds id l) : ¬s.Holds id' l := fun h' => hne (Option.some.inj (h'.symm.trans h))

/-- Another transaction's statement is no check of this one's quota. -/
theorem checksQuota_of_ne {s : State} {id id' : ℕ} {m : Moment} (hne : id' ≠ id) :
    checksQuota id s (.advance id' m) = false := by
  simp [checksQuota, hne]

/-- A transaction that has checked its quota does not check it again. -/
theorem checksQuota_of_checked {s : State} {id id' : ℕ} {m : Moment} {txn : Locking.Txn Session Write}
    (hid : s.inflight id = some txn) (hchecked : txn.session.Checked) :
    checksQuota id s (.advance id' m) = false := by
  obtain ⟨session, writes⟩ := txn
  cases session with
  | enqueueInsert now job => simp [checksQuota, hid]
  | enqueueCommit now job => simp [checksQuota, hid]
  | _ => cases hchecked

/-- The watched transaction's own statement. -/
theorem Watched.proceed {id : ℕ} {w : Watch} (h : Watched id w) {m : Moment}
    {txn : Locking.Txn Session Write} {locks : List Lock} {writes : List Write} {session : Session}
    (hid : w.state.inflight id = some txn)
    (hnext : protocol.next w.state txn m = .proceed locks writes session)
    (hchecked : session.Checked) :
    QueueFree (watch id w (.advance id m)).requeued w.state.committed := by
  have hnone : requeued w.state (.advance id m) = [] :=
    requeued_eq_nil hid (by simp [hnext])
  simp only [watch, hnone, List.nil_append]
  rcases checked_of_proceed h.invariant.good (h.invariant.prepared id txn hid) hnext hchecked with
    hbefore | hquota | ⟨⟨now, job, quota, hsession⟩, hfree⟩
  · rw [checksQuota_of_checked hid hbefore]
    exact h.free txn hid hbefore
  · intro quota hq
    rw [hquota] at hq
    cases hq
  · obtain ⟨session', writes'⟩ := txn
    obtain rfl : session' = .enqueueUsage now job quota := hsession
    have hcheck : checksQuota id w.state (.advance id m) = true := by
      simp [checksQuota, hid]
    rw [hcheck]
    exact hfree

/-- The statement of another transaction. -/
theorem Watched.advance_other {id id' : ℕ} {w : Watch} (h : Watched id w) {m : Moment}
    (hne : id' ≠ id) {txn : Locking.Txn Session Write} (hid : w.state.inflight id = some txn)
    (hchecked : txn.session.Checked) :
    QueueFree (watch id w (.advance id' m)).requeued
      (Locking.step protocol w.state (.advance id' m)).committed := by
  have hfree := h.free txn hid hchecked
  simp only [watch, checksQuota_of_ne hne, Bool.false_eq_true, if_false]
  cases hid' : w.state.inflight id' with
  | none =>
    have hstep : Locking.step protocol w.state (.advance id' m) = w.state := by
      simp only [Locking.step, hid']
    rw [hstep]
    simpa only [requeued, hid', List.nil_append] using hfree
  | some txn' =>
    cases Locking.advance_turn protocol hid' m with
    | waits locks writes session hnext hwaits hs =>
      rw [hs, requeued_eq_nil hid' (by simp [hnext])]
      exact hfree
    | proceeds locks writes session hnext hs =>
      rw [hs, requeued_eq_nil hid' (by simp [hnext])]
      exact hfree
    | rollsBack answer hnext hs =>
      rw [hs, requeued_eq_nil hid' (by simp [hnext])]
      exact hfree
    | commits answer hnext hs =>
      rw [hs]
      simp only [requeued, hid']
      -- the watched transaction has the lock, so this one has not
      have hheld : w.state.Holds id .quota := hchecked.held (h.invariant.prepared id txn hid)
      exact (execute_commit (h.invariant.prepared id' txn' hid') hnext).queueFree h.invariant.good
        (not_holds_of_holds hne hheld) hfree

/-- **Every event** keeps what is known of the watched transaction. -/
theorem Watched.step {id : ℕ} {w : Watch} (h : Watched id w) (event : Event) :
    Watched id (watch id w event) := by
  refine ⟨h.invariant.step event, fun txn hid hchecked => ?_⟩
  have hid : (Locking.step protocol w.state event).inflight id = some txn := hid
  show QueueFree _ (Locking.step protocol w.state event).committed
  cases event with
  | call id' c =>
    show QueueFree w.requeued _
    cases hid' : w.state.inflight id' with
    | some txn' =>
      simp only [Locking.step, hid'] at hid ⊢
      exact h.free txn hid hchecked
    | none =>
      simp only [Locking.step, hid'] at hid ⊢
      rcases Locking.update_some hid with ⟨-, hnew⟩ | ⟨-, hold⟩
      · obtain rfl := Option.some.inj hnew
        cases hchecked
      · exact h.free txn hold hchecked
  | abort id' =>
    show QueueFree w.requeued w.state.committed
    rcases Locking.update_some hid with ⟨-, hnone⟩ | ⟨-, hold⟩
    · cases hnone
    · exact h.free txn hold hchecked
  | advance id' m =>
    by_cases hne : id' = id
    · subst hne
      rcases Locking.proceeds_of_inflight protocol hid with
        ⟨hs, locks, writes, session, hnext⟩ | ⟨txn', locks, writes, hold, hnext, hs⟩
      · -- it waits
        rw [hs] at hid ⊢
        have hnone : requeued w.state (.advance id' m) = [] :=
          requeued_eq_nil hid (by simp [hnext])
        simp only [watch, checksQuota_of_checked hid hchecked, Bool.false_eq_true, if_false, hnone,
          List.nil_append]
        exact h.free txn hid hchecked
      · rw [hs]
        exact h.proceed hold hnext hchecked
    · rw [Locking.inflight_of_ne protocol hne] at hid
      exact h.advance_other hne hid hchecked

/-! ## Every interleaving -/

/-- **What is watched of a submission holds along every interleaving.** -/
theorem watched_reached {db : Tables} (hk : Keyed EvaluationJob.jobId db.jobs) (id : ℕ)
    (events : List Event) : Watched id (Runs.run (watch id) ⟨.idle db, []⟩ events) := by
  refine Runs.run_invariant (watch id) (Watched id) (fun _ event h => h.step event) ?_ events
  exact ⟨Locking.Discipline.Invariant.idle discipline hk, fun _ hid => by cases hid⟩

/-- A transaction that holds the lock before and after an event finds the same quota. -/
theorem quota_step {s : State} (hinv : discipline.Invariant s) {id : ℕ} {event : Event}
    (hheld : s.Holds id .quota) (hstill : (Locking.step protocol s event).Holds id .quota) :
    (Locking.step protocol s event).committed.quota = s.committed.quota := by
  cases Locking.step_change protocol s event with
  | idle hs => rw [hs]
  | started id' c hid' hs => rw [hs]
  | proceeded id' txn m locks writes session hid' hnext hfree hs =>
    rw [hs]
    rfl
  | dropped id' hs =>
    rw [hs]
    rfl
  | committed id' txn m answer hid' hnext hanswer hs =>
    by_cases hne : id' = id
    · -- at its own commit it gives the lock back
      subst hne
      rw [hs] at hstill
      have hgone : (if s.holder .quota = some id' then none else s.holder .quota) = some id' :=
        hstill
      rw [if_pos (show s.holder .quota = some id' from hheld)] at hgone
      cases hgone
    · rw [hs]
      have hcovered := hinv.covered id' txn hid'
      have hrely : Rely (s.Holds id) s.committed (protocol.view s.committed txn.writes) := by
        refine Locking.Discipline.rely_view (D := discipline) fun w hw l hl hl' => ?_
        exact not_holds_of_holds hne hl' (hcovered w hw l hl)
      exact hrely.quota hheld

/-- What an `enqueue_job` that began at `now` leaves, jobs put back meanwhile apart. -/
structure Admitted (besides : List UUID) (now : Timestamp) (db : Tables) : Prop where
  queued : ∀ quota ∈ db.quota, ∀ n ∈ quota.maxQueuedJobs, queuedBesides besides db ≤ n
  hourly : ∀ quota ∈ db.quota, ∀ n ∈ quota.maxJobsPerHour, submittedLastHour db now ≤ n

/-- One more job is one more in each count. -/
theorem admitted_insertJob {besides : List UUID} {now : Timestamp} {db : Tables}
    (hqueue : QueueFree besides db) (hhour : HourFree db now) (job : EvaluationJob) :
    Admitted besides now (db.apply (.insertJob job)) := by
  have hone : ∀ p : EvaluationJob → Bool,
      (db.apply (.insertJob job)).jobs.countP p ≤ db.jobs.countP p + 1 := by
    intro p
    show (db.jobs ++ [job]).countP p ≤ _
    rw [List.countP_append]
    have : [job].countP p ≤ 1 := List.countP_le_length
    omega
  constructor
  · intro quota hquota n hn
    have hlt := hqueue quota hquota n hn
    have hle : queuedBesides besides (db.apply (.insertJob job)) ≤ queuedBesides besides db + 1 :=
      hone _
    omega
  · intro quota hquota n hn
    have hlt := hhour quota hquota n hn
    have hle : submittedLastHour (db.apply (.insertJob job)) now ≤ submittedLastHour db now + 1 :=
      hone _
    omega

/-- The submission quota after any interleaving. -/
structure SubmissionQuota (db : Tables) (events : List Event) : Prop where
  /-- An `enqueue_job` commits under the lock, and what it leaves is within the quota, apart from
      the jobs that `fail_job` has put back into the queue since it checked. -/
  admitted : ∀ id now job writes m,
    (reached db events).inflight id = some ⟨.enqueueCommit now job, writes⟩ →
      Locking.response protocol (reached db events) (.advance id m) = some (.ok (some job)) ∧
      (reached db events).Holds id .quota ∧
      Admitted (requeuedSinceCheck id db events) now
        (Locking.step protocol (reached db events) (.advance id m)).committed
  /-- As long as a transaction holds the lock, the quota in force is the same. -/
  settled : ∀ id later, Runs.Throughout (Locking.step protocol) (fun s => s.Holds id .quota)
    (reached db events) later →
      (reached db (events ++ later)).committed.quota = (reached db events).committed.quota
  /-- Only a statement whose call returns changes the tables: no statement of a call that is refused
      does, before or when it is refused. -/
  refused : ∀ event, (∀ row, Locking.response protocol (reached db events) event ≠
      some (.ok row)) →
    (Locking.step protocol (reached db events) event).committed = (reached db events).committed

/-- **The submission quota under concurrency**, in every interleaving of the statements of any
    transactions on the queue. -/
theorem submissionQuota {db : Tables} (hk : Keyed EvaluationJob.jobId db.jobs)
    (events : List Event) : SubmissionQuota db events where
  admitted := by
    intro id now job writes m hid
    have hstep : (Locking.step protocol (reached db events) (.advance id m)).committed =
        protocol.view (reached db events).committed writes := by
      simp only [Locking.step, hid]
      rfl
    -- the transaction still holds what its check found
    obtain ⟨hwrites, hheld, hhour, -⟩ := (invariant_reached hk events).prepared id _ hid
    refine ⟨?_, hheld, ?_⟩
    · simp only [Locking.response, hid]
      rfl
    · have hwatched := watched_reached hk id events
      have hstate : (Runs.run (watch id) ⟨.idle db, []⟩ events).state = reached db events :=
        watch_state id _ events
      have hqueue : QueueFree (requeuedSinceCheck id db events) (reached db events).committed := by
        rw [← hstate]
        exact hwatched.free ⟨.enqueueCommit now job, writes⟩ (hstate.symm ▸ hid) trivial
      rw [hstep]
      obtain rfl : writes = [.insertJob job] := hwrites
      exact admitted_insertJob hqueue hhour job
  settled := by
    intro id later
    -- on the last event, since the run so far decides what it does
    induction later using List.reverseRecOn with
    | nil =>
      intro _
      rw [List.append_nil]
    | append_singleton later event ih =>
      intro hthroughout
      obtain ⟨hbefore, hlast⟩ := Runs.throughout_append.mp hthroughout
      have hsnoc : reached db (events ++ (later ++ [event])) =
          Locking.step protocol (reached db (events ++ later)) event := by
        unfold reached
        rw [← List.append_assoc, Runs.run_snoc]
      have hrun : Runs.run (Locking.step protocol) (reached db events) later =
          reached db (events ++ later) := (Runs.run_append _ _ _).symm
      rw [hrun] at hlast
      rw [hsnoc, quota_step (invariant_reached hk (events ++ later)) hlast.1 hlast.2]
      exact ih hbefore
  refused := by
    intro event hrefused
    rcases Locking.committed_step protocol (reached db events) event with
      h | ⟨id, txn, m, answer, hid, hnext, hanswer, -⟩
    · exact h
    · cases answer with
      | ok row => exact absurd hanswer (hrefused row)
      | error e =>
        obtain ⟨session, writes⟩ := txn
        cases execute_commit ((invariant_reached hk events).prepared id _ hid) hnext

/-! ## The interleaving that overruns the limit -/

namespace Sample

/-- One queued job at a time. -/
def oneQueued : TenantQuotaLimits := ⟨some 1, none, none, none, cuda_le_unlimited⟩

/-- A job was enqueued, and a worker is on the first of its attempts. -/
def tables : Tables := .ofQueue (Runs.run Jobs.step (emptyQueue 0 (some oneQueued) [])
  [.enqueueJob codingJob 1 0 0, .leaseJob "w" 60 none .scan])

def moment : Moment := ⟨1, fun _ => false⟩

/-- A second job is submitted; after its quota check the first one fails, and is back in the queue
    before the second is inserted. -/
def overrun : List Event :=
  .call 0 (.enqueueJob codingJob 2 1 1) :: List.replicate 4 (.advance 0 moment) ++
    .call 1 (.failJob 1 "w" "exit 1") :: List.replicate 3 (.advance 1 moment) ++
    [.advance 0 moment]

/-- The worked tables have each job once. -/
theorem keyed_tables : Keyed EvaluationJob.jobId tables.jobs := by
  have h : (tables.jobs.map EvaluationJob.jobId) = [1] := by decide +kernel
  unfold Keyed
  rw [h]
  exact List.nodup_singleton _

/-- The next statement is the commit of the second job. -/
theorem overrun_commits :
    ∃ job writes, (reached tables overrun).inflight 0 = some ⟨.enqueueCommit 1 job, writes⟩ := by
  have h : ((reached tables overrun).inflight 0).any (fun txn => match txn.session with
      | .enqueueCommit now _ => now = 1
      | _ => false) = true := by decide +kernel
  obtain ⟨⟨session, writes⟩, hid, hsession⟩ := (Option.any_eq_true _ _).mp h
  cases session with
  | enqueueCommit now job =>
    obtain rfl : now = 1 := of_decide_eq_true hsession
    exact ⟨job, writes, hid⟩
  | _ => cases hsession

end Sample

/-- The worked overrun: one job was requeued since the check, and that is by how much the quota is
    passed. -/
theorem submissionQuota_sample :
    (∃ job writes, (reached Sample.tables Sample.overrun).inflight 0 =
      some ⟨.enqueueCommit 1 job, writes⟩) ∧
    requeuedSinceCheck 0 Sample.tables Sample.overrun = [1] ∧
    SubmissionQuota Sample.tables Sample.overrun :=
  ⟨Sample.overrun_commits, by decide +kernel, submissionQuota Sample.keyed_tables Sample.overrun⟩

/-- **Counted with the job that was put back, two jobs are queued under a limit of one**: `fail_job`
    takes no lock, and commits between the check of the other transaction and its commit. -/
theorem submissionQuota_overrun :
    ¬ ∀ (db : Tables) (events : List Event) (id : ℕ) (now : Timestamp) (job : EvaluationJob)
      (writes : List Write) (m : Moment), Keyed EvaluationJob.jobId db.jobs →
      (reached db events).inflight id = some ⟨.enqueueCommit now job, writes⟩ →
      Admitted [] now (Locking.step protocol (reached db events) (.advance id m)).committed := by
  intro h
  obtain ⟨job, writes, hid⟩ := Sample.overrun_commits
  have hadmitted := h Sample.tables Sample.overrun 0 1 job writes Sample.moment
    Sample.keyed_tables hid
  have hquota : (Locking.step protocol (reached Sample.tables Sample.overrun)
      (.advance 0 Sample.moment)).committed.quota = some Sample.oneQueued := by decide +kernel
  have hle := hadmitted.queued Sample.oneQueued hquota 1 rfl
  have htwo : queuedBesides [] (Locking.step protocol (reached Sample.tables Sample.overrun)
      (.advance 0 Sample.moment)).committed = 2 := by decide +kernel
  omega

end AEControl.Jobs.Transactions
