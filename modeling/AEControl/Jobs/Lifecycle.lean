/-
  What one operation can do to the queue, and the life of a job row.

  `perform_effect` is the inversion lemma of the state machine: an operation raises and changes
  nothing, finds nothing to do, admits one fresh row, or replaces exactly one row in one of the
  five ways of `RowChange` — every invariant of the queue is read off these cases.  The first
  one is `RowInvariant`, the coupling of status, lease, attempts and result columns, and with it
  the queue follows the documented job state machine (`Edge`).

  Structure of the proof:
  1. one spec lemma for each statement of `Store` (`selectClaim_some`, `ownerUpdate_cases`,
     `renewJobLease_ok`, …), then one `Effect` for each method; no later proof unfolds a method;
  2. `RowInvariant.change`, a case for each way of `RowChange`: what a row's status says of its
     other columns is said of the new row as well;
  3. `invariant_step` and `invariant_run`: the primary key and the row invariant hold of all rows,
     in every state that an empty queue can reach;
  4. `lifecycle_invariant` states what a step preserves of each row besides: no row is lost, the
     attempts only grow and a final row never changes again;
  5. `step_refines_edges`: the abstract state machine is the one of the documentation, and every
     change of a status goes along one of its edges.
-/
import AEControl.Lib.Runs
import AEControl.Jobs.Store

namespace AEControl.Jobs

open Runs Table

/-! ## Specs of the statements -/

/-- A selected job is one of the queue that the statement admits. -/
theorem selectClaim_some {o : Offer} {cuda : Bool} {tie : UUID → Nat} {q : Queue}
    {j : EvaluationJob} (h : selectClaim o cuda tie q = some j) :
    j ∈ q.jobs ∧ claimPredicate q.now o cuda j = true := by
  have hmem := List.argmin_mem h
  exact ⟨(List.mem_filter.mp hmem).1, (List.mem_filter.mp hmem).2⟩

/-- A job the statement admits is queued, or expired with attempts left. -/
theorem claimPredicate_claimable {now : Timestamp} {o : Offer} {cuda : Bool} {j : EvaluationJob}
    (h : claimPredicate now o cuda j = true) : claimable now j = true :=
  (Bool.and_eq_true_iff.mp h).2

/-- A job the statement admits has a place on the worker. -/
theorem claimPredicate_admits {now : Timestamp} {o : Offer} {cuda : Bool} {j : EvaluationJob}
    (h : claimPredicate now o cuda j = true) : placementAdmits o cuda j = true :=
  (Bool.and_eq_true_iff.mp h).1

/-- A placed job requires an accelerator the worker offers, and CUDA only under a free CUDA
    quota. -/
theorem accelerator_of_admits {o : Offer} {cuda : Bool} {j : EvaluationJob}
    (h : placementAdmits o cuda j = true) :
    j.requiredAccelerator ∈ o.accelerators ∧ (j.requiredAccelerator = .cuda → cuda = true) := by
  unfold placementAdmits at h
  obtain ⟨hoffered, hquota⟩ := Bool.and_eq_true_iff.mp
    (Bool.and_eq_true_iff.mp (Bool.and_eq_true_iff.mp h).1).1
  refine ⟨List.contains_iff_mem.mp hoffered, fun hcuda => ?_⟩
  rcases Bool.or_eq_true_iff.mp hquota with hother | havailable
  · exact absurd hcuda (of_decide_eq_true hother)
  · exact havailable

/-- A job without labels and device constraints is placed on any worker with its accelerator. -/
theorem admits_of_unconstrained {o : Offer} {cuda : Bool} {j : EvaluationJob}
    (haccelerator : j.requiredAccelerator ∈ o.accelerators)
    (hcuda : j.requiredAccelerator = .cuda → cuda = true) (hlabels : j.requiredLabels = [])
    (htotal : j.minimumGpuMemoryMb = 0) (hcompute : j.minimumCudaComputeCapability = none)
    (hfree : j.minimumGpuMemoryAvailableMb = 0)
    (hutilization : j.maximumGpuUtilizationPercent = none)
    (hprofile : j.requiredMigProfile = none) : placementAdmits o cuda j = true := by
  have hoffered : o.accelerators.contains j.requiredAccelerator = true :=
    List.contains_iff_mem.mpr haccelerator
  have hquota : (decide (j.requiredAccelerator ≠ .cuda) || cuda) = true := by
    by_cases h : j.requiredAccelerator = .cuda
    · rw [hcuda h, Bool.or_true]
    · rw [decide_eq_true h, Bool.true_or]
  unfold placementAdmits hostAdmits deviceFree
  rw [hoffered, hquota, hlabels, htotal, hcompute, hfree, hutilization, hprofile]
  rfl

/-- No row is read back as none. -/
theorem fetchone_none : fetchone none = .ok none := rfl

/-- A row is read back as it is if its deadline is one a `datetime` can hold. -/
theorem fetchone_some {j : EvaluationJob} :
    fetchone (some j) =
      if j.leaseExpiresAt.all representable then .ok (some j) else .error .dataError := rfl

/-- The spec of an owner's call: the guard fails and the call raises, or the one row it matches
    is refused by a constraint or by the client library, or it is replaced and returned. -/
theorem ownerUpdate_cases {q : Queue} (hk : Keyed EvaluationJob.jobId q.jobs) (jobId : UUID)
    (workerId : String) (set : EvaluationJob → EvaluationJob) (ref : EvaluationJob → Bool) :
    ((∀ j ∈ q.jobs, j.jobId = jobId → leasedBy workerId j = false) ∧
      ownerUpdate jobId workerId set ref q =
        (.error (.runtimeError s!"worker no longer owns the lease for job {jobId.str}"), q)) ∨
    ∃ j ∈ q.jobs, j.jobId = jobId ∧ leasedBy workerId j = true ∧
      ((ref (set j) = false ∧
          ownerUpdate jobId workerId set ref q = (.error .foreignKeyViolation, q)) ∨
        (ref (set j) = true ∧ (set j).leaseExpiresAt.all representable = false ∧
          ownerUpdate jobId workerId set ref q = (.error .dataError, q)) ∨
        (ref (set j) = true ∧ (set j).leaseExpiresAt.all representable = true ∧
          ∃ jobs', Replaced q.jobs jobs' j (set j) ∧
            ownerUpdate jobId workerId set ref q = (.ok (set j), { q with jobs := jobs' }))) := by
  rcases update_cases (k := jobId) (p := leasedBy workerId) (f := set) hk with
    ⟨hno, hupd, hret⟩ | ⟨j, hj, hid, hown, hrep, hret⟩
  · refine Or.inl ⟨hno, ?_⟩
    simp only [ownerUpdate, transaction, updateJobs, hret, hupd, Option.all_none, if_true,
      fetchone_none]
    rfl
  · refine Or.inr ⟨j, hj, hid, hown, ?_⟩
    -- the foreign key is checked before the row is read back
    cases href : ref (set j) with
    | false =>
      refine Or.inl ⟨rfl, ?_⟩
      simp [ownerUpdate, transaction, updateJobs, hret, href, Except.bind]
    | true =>
      refine Or.inr ?_
      cases hrp : (set j).leaseExpiresAt.all representable with
      | false =>
        refine Or.inl ⟨rfl, rfl, ?_⟩
        simp [ownerUpdate, transaction, updateJobs, hret, href, fetchone_some, hrp, bind,
          Except.bind]
      | true =>
        refine Or.inr ⟨rfl, rfl, _, hrep, ?_⟩
        simp [ownerUpdate, transaction, updateJobs, hret, href, fetchone_some, hrp, bind,
          Except.bind, pure, Except.pure, leasedJobOrError]

/-- A renewal that passes the guard and sets a deadline a `datetime` can hold succeeds. -/
theorem renewJobLease_ok {q : Queue} (hk : Keyed EvaluationJob.jobId q.jobs) {jobId : UUID}
    {workerId : String} {leaseSeconds : Int} {j : EvaluationJob} (hj : j ∈ q.jobs)
    (hid : j.jobId = jobId) (hown : leasedBy workerId j = true)
    (hdue : representable (leaseDeadline q.now leaseSeconds) = true) :
    ∃ x, (renewJobLease jobId workerId leaseSeconds q).1 = .ok x := by
  rcases ownerUpdate_cases hk jobId workerId (renewed q.now leaseSeconds) (fun _ => true) with
    ⟨hno, -⟩ | ⟨x, -, -, -, ⟨href, -⟩ | ⟨-, hbad, -⟩ | ⟨-, -, jobs', -, hok⟩⟩
  · rw [hno j hj hid] at hown
    cases hown
  · cases href
  · rw [show (renewed q.now leaseSeconds x).leaseExpiresAt.all representable =
      representable (leaseDeadline q.now leaseSeconds) from rfl, hdue] at hbad
    cases hbad
  · exact ⟨_, congrArg Prod.fst hok⟩

/-! ## What an operation does -/

/-- The five ways a row is replaced, each with the guard it was replaced under. -/
inductive RowChange (q : Queue) : Op → EvaluationJob → EvaluationJob → Prop
  | lease {workerId : String} {leaseSeconds : Int} {capabilities : Option WorkerCapabilities}
      {plan : ClaimPlan} {j : EvaluationJob}
      (hfree : runningQuotaFull q = false)
      (hclaim : nextClaim plan (Offer.ofCapabilities capabilities) workerId leaseSeconds q =
        .ok (some j))
      (hrep : representable (leaseDeadline q.now leaseSeconds) = true) :
      RowChange q (.leaseJob workerId leaseSeconds capabilities plan) j
        (claimed q.now workerId leaseSeconds j)
  | renew {workerId : String} {leaseSeconds : Int} {j : EvaluationJob}
      (hown : leasedBy workerId j = true)
      (hrep : representable (leaseDeadline q.now leaseSeconds) = true) :
      RowChange q (.renewJobLease j.jobId workerId leaseSeconds) j
        (renewed q.now leaseSeconds j)
  | complete {workerId : String} {runId : UUID} {j : EvaluationJob}
      (hown : leasedBy workerId j = true) (hrun : runId ∈ q.runs) :
      RowChange q (.completeJob j.jobId workerId runId) j (completed q.now runId j)
  | fail {workerId error : String} {j : EvaluationJob} (hown : leasedBy workerId j = true) :
      RowChange q (.failJob j.jobId workerId error) j
        (failedOnce q.now (String.ofList (error.toList.take 4000)) j)
  | cancel {j : EvaluationJob} (hlive : j.status.terminal = false) :
      RowChange q (.cancelJob j.jobId) j (cancelled q.now j)

/-- A row as `enqueue_job` inserts it. -/
def Fresh (j : EvaluationJob) : Prop :=
  j.status = .queued ∧ j.attempts = 0 ∧ j.startedAt = none ∧ j.leaseOwner = none ∧
    j.leaseExpiresAt = none ∧ j.runId = none

/-- What an operation returns and the state it leaves. -/
inductive Effect (q : Queue) (op : Op) : Except StoreError (Option EvaluationJob) → Queue → Prop
  /-- It raises and the transaction is rolled back, or its `UPDATE` matched no row. -/
  | raised (e : StoreError) : Effect q op (.error e) q
  /-- `lease_job` found no job, or the running quota is full. -/
  | idle {workerId : String} {leaseSeconds : Int} {capabilities : Option WorkerCapabilities}
      {plan : ClaimPlan} (hop : op = .leaseJob workerId leaseSeconds capabilities plan) :
      Effect q op (.ok none) q
  | enqueued {request : EnqueueRequest} {createdAt updatedAt : Timestamp} {j : EvaluationJob}
      (hop : op = .enqueueJob request j.jobId createdAt updatedAt) (hfresh : Fresh j)
      (hnew : ∀ x ∈ q.jobs, x.jobId ≠ j.jobId) :
      Effect q op (.ok (some j)) { q with jobs := q.jobs ++ [j] }
  | changed {j j' : EvaluationJob} {jobs' : List EvaluationJob}
      (hrep : Replaced q.jobs jobs' j j') (hch : RowChange q op j j') :
      Effect q op (.ok (some j')) { q with jobs := jobs' }
  | stored {runId : UUID} (hop : op = .saveRun runId) :
      Effect q op (.ok none) { q with runs := runId :: q.runs }
  | advanced {d : Nat} (hop : op = .advance d) :
      Effect q op (.ok none) { q with now := q.now + d }

/-- Submitting inserts a fresh row at the end, or raises and writes nothing. -/
theorem enqueueJob_effect (q : Queue) (request : EnqueueRequest) (jobId : UUID)
    (createdAt updatedAt : Timestamp) :
    Effect q (.enqueueJob request jobId createdAt updatedAt)
      (perform q (.enqueueJob request jobId createdAt updatedAt)).1
      (perform q (.enqueueJob request jobId createdAt updatedAt)).2 := by
  simp only [perform, enqueueJob]
  split
  · exact Effect.raised _
  · rename_i spec _
    simp only [transaction]
    cases hquota : checkSubmissionQuota q with
    | error e =>
      simp only [bind, Except.bind]
      exact Effect.raised e
    | ok u =>
      simp only [bind, Except.bind, insertJob]
      split_ifs with hsize hdup
      · exact Effect.raised _
      · exact Effect.raised _
      · refine Effect.enqueued rfl ⟨rfl, rfl, rfl, rfl, rfl, rfl⟩ ?_
        have hnone : lookup EvaluationJob.jobId jobId q.jobs = none := by
          cases hl : lookup EvaluationJob.jobId jobId q.jobs with
          | none => rfl
          | some x => simp [hl] at hdup
        exact lookup_none.mp hnone

/-- The claim's statement gives a row when its parameters are taken and no device that is read is
    beyond its columns. -/
theorem claimStatement_ok {plan : ClaimPlan} {o : Offer} {workerId : String} {leaseSeconds : Int}
    {cuda : Bool} {selected row : Option EvaluationJob} {q : Queue} :
    claimStatement plan o workerId leaseSeconds cuda selected q = .ok row ↔
      claimParameters q.now o workerId leaseSeconds = .ok () ∧
        (gpuColumnsFit o || !devicesRead plan o cuda selected q) = true ∧ selected = row := by
  unfold claimStatement
  cases claimParameters q.now o workerId leaseSeconds with
  | error e => exact iff_of_false (fun h => by cases h) fun h => by cases h.1
  | ok u =>
    cases hread : gpuColumnsFit o || !devicesRead plan o cuda selected q with
    | false =>
      refine iff_of_false (fun h => ?_) fun h => by cases h.2.1
      simp [bind, Except.bind] at h
    | true => simp [bind, Except.bind]

/-- A statement that gives its row has selected it. -/
theorem nextClaim_selects {plan : ClaimPlan} {o : Offer} {workerId : String} {leaseSeconds : Int}
    {q : Queue} {row : Option EvaluationJob} (h : nextClaim plan o workerId leaseSeconds q = .ok row) :
    selectClaim o (cudaQuotaAvailable q) plan.tie q = row := (claimStatement_ok.mp h).2.2

/-- The row it selects is one of the queue that passes the `WHERE` clause. -/
theorem nextClaim_some {plan : ClaimPlan} {o : Offer} {workerId : String} {leaseSeconds : Int}
    {q : Queue} {j : EvaluationJob} (h : nextClaim plan o workerId leaseSeconds q = .ok (some j)) :
    j ∈ q.jobs ∧ claimPredicate q.now o (cudaQuotaAvailable q) j = true :=
  selectClaim_some (nextClaim_selects h)

/-- The spec of `lease_job`: no quota, a statement that raises, no row, a deadline no `datetime` can
    hold — or the selected row is claimed. -/
theorem leaseJob_cases {q : Queue} (hk : Keyed EvaluationJob.jobId q.jobs) (workerId : String)
    (leaseSeconds : Int) (capabilities : Option WorkerCapabilities) (plan : ClaimPlan) :
    (runningQuotaFull q = true ∧
      leaseJob workerId leaseSeconds capabilities plan q = (.ok none, q)) ∨
    (runningQuotaFull q = false ∧
      ((∃ e, nextClaim plan (Offer.ofCapabilities capabilities) workerId leaseSeconds q = .error e ∧
          leaseJob workerId leaseSeconds capabilities plan q = (.error e, q)) ∨
        (nextClaim plan (Offer.ofCapabilities capabilities) workerId leaseSeconds q = .ok none ∧
          leaseJob workerId leaseSeconds capabilities plan q = (.ok none, q)) ∨
        ∃ j, nextClaim plan (Offer.ofCapabilities capabilities) workerId leaseSeconds q =
            .ok (some j) ∧
          ((representable (leaseDeadline q.now leaseSeconds) = false ∧
              leaseJob workerId leaseSeconds capabilities plan q = (.error .dataError, q)) ∨
            (representable (leaseDeadline q.now leaseSeconds) = true ∧
              ∃ jobs', Replaced q.jobs jobs' j (claimed q.now workerId leaseSeconds j) ∧
                leaseJob workerId leaseSeconds capabilities plan q =
                  (.ok (some (claimed q.now workerId leaseSeconds j)),
                    { q with jobs := jobs' }))))) := by
  -- the branches, in the order the method takes them
  cases hfull : runningQuotaFull q with
  | true => exact Or.inl ⟨rfl, by simp [leaseJob, transaction, hfull]⟩
  | false =>
    refine Or.inr ⟨rfl, ?_⟩
    cases hclaim : nextClaim plan (Offer.ofCapabilities capabilities) workerId leaseSeconds q with
    | error e => exact Or.inl ⟨e, rfl, by simp [leaseJob, transaction, hfull, hclaim]⟩
    | ok row =>
      cases row with
      | none => exact Or.inr (Or.inl ⟨rfl, by simp [leaseJob, transaction, hfull, hclaim]⟩)
      | some j =>
        refine Or.inr (Or.inr ⟨j, rfl, ?_⟩)
        obtain ⟨hrepl, hret⟩ := update_of_match (p := fun _ => true)
          (f := claimed q.now workerId leaseSeconds) hk
          (nextClaim_some hclaim).1 rfl rfl
        have hdeadline : (claimed q.now workerId leaseSeconds j).leaseExpiresAt.all representable =
            representable (leaseDeadline q.now leaseSeconds) := rfl
        cases hrep : representable (leaseDeadline q.now leaseSeconds) with
        | false =>
          refine Or.inl ⟨rfl, ?_⟩
          simp [leaseJob, transaction, hfull, hclaim, updateJobs, hret, fetchone_some,
            hdeadline, hrep, bind, Except.bind]
        | true =>
          refine Or.inr ⟨rfl, _, hrepl, ?_⟩
          simp [leaseJob, transaction, hfull, hclaim, updateJobs, hret, fetchone_some,
            hdeadline, hrep, bind, Except.bind, pure, Except.pure]

/-- Leasing puts the claim on one row, or leaves all. -/
theorem leaseJob_effect {q : Queue} (hk : Keyed EvaluationJob.jobId q.jobs) (workerId : String)
    (leaseSeconds : Int) (capabilities : Option WorkerCapabilities) (plan : ClaimPlan) :
    Effect q (.leaseJob workerId leaseSeconds capabilities plan)
      (leaseJob workerId leaseSeconds capabilities plan q).1
      (leaseJob workerId leaseSeconds capabilities plan q).2 := by
  rcases leaseJob_cases hk workerId leaseSeconds capabilities plan with
    ⟨-, h⟩ | ⟨hfree, ⟨e, -, h⟩ | ⟨-, h⟩ | ⟨j, hclaim, ⟨-, h⟩ | ⟨hrep, jobs', hrepl, h⟩⟩⟩
  · rw [h]; exact Effect.idle rfl
  · rw [h]; exact Effect.raised _
  · rw [h]; exact Effect.idle rfl
  · rw [h]; exact Effect.raised _
  · rw [h]; exact Effect.changed hrepl (RowChange.lease hfree hclaim hrep)

/-- Cancelling changes one row that waits, or raises and leaves all. -/
theorem cancelJob_effect {q : Queue} (hk : Keyed EvaluationJob.jobId q.jobs) (jobId : UUID) :
    Effect q (.cancelJob jobId) (some <$> (cancelJob jobId q).1) (cancelJob jobId q).2 := by
  rcases update_cases (k := jobId) (p := fun j : EvaluationJob => !j.status.terminal)
      (f := cancelled q.now) hk with ⟨-, hupd, hret⟩ | ⟨j, -, rfl, hlive, hrep, hret⟩
  · simp only [cancelJob, transaction, updateJobs, hret, hupd, fetchone_none]
    simp only [bind, Except.bind, pure, Except.pure]
    split
    · exact Effect.raised _
    · exact Effect.raised _
  · simp only [cancelJob, transaction, updateJobs, hret, fetchone_some, cancelled,
      Option.all_none, if_true]
    exact Effect.changed hrep (RowChange.cancel (by simpa using hlive))

/-- An owner's call that succeeds replaces the row; otherwise it raises and changes nothing. -/
theorem ownerUpdate_effect {q : Queue} (hk : Keyed EvaluationJob.jobId q.jobs) {op : Op}
    {jobId : UUID} {workerId : String} {set : EvaluationJob → EvaluationJob}
    {ref : EvaluationJob → Bool}
    (hch : ∀ j, j.jobId = jobId → leasedBy workerId j = true → ref (set j) = true →
      (set j).leaseExpiresAt.all representable = true → RowChange q op j (set j)) :
    Effect q op (some <$> (ownerUpdate jobId workerId set ref q).1)
      (ownerUpdate jobId workerId set ref q).2 := by
  rcases ownerUpdate_cases hk jobId workerId set ref with
    ⟨-, h⟩ | ⟨j, -, hid, hown, ⟨-, h⟩ | ⟨-, -, h⟩ | ⟨href, hrp, jobs', hrep, h⟩⟩
  · rw [h]; exact Effect.raised _
  · rw [h]; exact Effect.raised _
  · rw [h]; exact Effect.raised _
  · rw [h]; exact Effect.changed hrep (hch j hid hown href hrp)

/-- **Inversion.**  Everything one operation can do to a queue with unique job ids. -/
theorem perform_effect {q : Queue} (hk : Keyed EvaluationJob.jobId q.jobs) (op : Op) :
    Effect q op (perform q op).1 (step q op) := by
  cases op with
  | enqueueJob request jobId createdAt updatedAt => exact enqueueJob_effect q _ _ _ _
  | leaseJob workerId leaseSeconds capabilities plan => exact leaseJob_effect hk _ _ _ _
  | renewJobLease jobId workerId leaseSeconds =>
    refine ownerUpdate_effect hk fun j hid hown _ hrp => ?_
    subst hid
    exact RowChange.renew hown (by simpa [renewed] using hrp)
  | completeJob jobId workerId runId =>
    refine ownerUpdate_effect hk fun j hid hown href _ => ?_
    subst hid
    exact RowChange.complete hown (by simpa using href)
  | failJob jobId workerId error =>
    refine ownerUpdate_effect hk fun j hid hown _ _ => ?_
    subst hid
    exact RowChange.fail hown
  | cancelJob jobId => exact cancelJob_effect hk jobId
  | saveRun runId => exact Effect.stored rfl
  | advance d => exact Effect.advanced rfl

/-- A replaced row keeps its id and everything that was fixed at admission. -/
theorem RowChange.spec_eq {q : Queue} {op : Op} {j j' : EvaluationJob} (h : RowChange q op j j') :
    j'.jobId = j.jobId ∧ j'.toJobSpec = j.toJobSpec := by
  cases h <;> exact ⟨rfl, rfl⟩

/-- Every operation keeps the primary key. -/
theorem Effect.keyed {q q' : Queue} {op : Op} {r : Except StoreError (Option EvaluationJob)}
    (h : Effect q op r q') (hk : Keyed EvaluationJob.jobId q.jobs) :
    Keyed EvaluationJob.jobId q'.jobs := by
  cases h with
  | raised e => exact hk
  | idle _ => exact hk
  | enqueued _ _ hnew => exact hk.append_one hnew
  | changed hrep hch =>
    unfold Keyed
    rw [hrep.keys_eq hch.spec_eq.1]
    exact hk
  | stored _ => exact hk
  | advanced _ => exact hk

/-- Every step keeps the primary key, for it is one operation. -/
theorem keyed_step {q : Queue} (hk : Keyed EvaluationJob.jobId q.jobs) (op : Op) :
    Keyed EvaluationJob.jobId (step q op).jobs :=
  (perform_effect hk op).keyed hk

/-! ## The row invariant -/

/-- The coupling of the columns of a job row. -/
structure RowInvariant (j : EvaluationJob) : Prop where
  owner_iff : j.leaseOwner ≠ none ↔ j.status = .running
  expires_iff : j.leaseExpiresAt ≠ none ↔ j.status = .running
  attempts_le : j.attempts ≤ j.maxAttempts
  queued_budget : j.status = .queued → j.attempts < j.maxAttempts ∧ j.startedAt = none
  running_attempts : j.status = .running → 1 ≤ j.attempts
  run_iff : j.runId ≠ none ↔ j.status = .completed

/-- A fresh row has no lease, no run and no error to tell of. -/
theorem Fresh.rowInvariant {j : EvaluationJob} (h : Fresh j) : RowInvariant j := by
  obtain ⟨hs, ha, hst, ho, he, hr⟩ := h
  have hmax := j.attempts_range.1
  constructor <;> simp only [hs, ha, hst, ho, he, hr] <;> simp
  omega

/-- Only a running job is leased. -/
theorem leasedBy_running {workerId : String} {j : EvaluationJob}
    (h : leasedBy workerId j = true) : j.status = .running ∧ j.leaseOwner = some workerId := by
  simpa [leasedBy] using h

/-- A job can be claimed when it waits or when its lease has run out. -/
theorem claimable_cases {now : Timestamp} {j : EvaluationJob} (h : claimable now j = true) :
    j.attempts < j.maxAttempts ∧ (j.status = .queued ∨ expired now j = true) := by
  simpa [claimable] using h

/-- Only a running job expires. -/
theorem expired_running {now : Timestamp} {j : EvaluationJob} (h : expired now j = true) :
    j.status = .running := by
  unfold expired at h
  rw [Bool.and_eq_true_iff] at h
  exact of_decide_eq_true h.1

/-- Only a running job counts against the running quota. -/
theorem activeRunning_of_status {now : Timestamp} {j : EvaluationJob} (h : j.status ≠ .running) :
    activeRunning now j = false := by
  simp [activeRunning, h]

/-- A running row is active or expired, and not both. -/
theorem activeRunning_eq_not_expired {now : Timestamp} {j : EvaluationJob} (h : RowInvariant j)
    (hs : j.status = .running) : activeRunning now j = !expired now j := by
  obtain ⟨d, hd⟩ := Option.ne_none_iff_exists'.mp (h.expires_iff.mpr hs)
  by_cases hle : now ≤ d
  · simp [activeRunning, expired, hs, hd, hle]
  · simp [activeRunning, expired, hs, hd, hle, not_le.mp hle]

/-- Only a live row is ever replaced. -/
theorem RowChange.live {q : Queue} {op : Op} {j j' : EvaluationJob} (h : RowChange q op j j') :
    j.status.terminal = false := by
  cases h with
  | lease _ hclaim _ =>
    rcases (claimable_cases (claimPredicate_claimable (nextClaim_some hclaim).2)).2 with hs | hs
    · rw [hs]; rfl
    · rw [expired_running hs]; rfl
  | renew hown _ => rw [(leasedBy_running hown).1]; rfl
  | complete hown _ => rw [(leasedBy_running hown).1]; rfl
  | fail hown => rw [(leasedBy_running hown).1]; rfl
  | cancel hlive => exact hlive

/-- A job that is not final has no run yet. -/
theorem RowInvariant.run_none {j : EvaluationJob} (h : RowInvariant j)
    (hlive : j.status.terminal = false) : j.runId = none := by
  by_contra hrun
  rw [h.run_iff.mp hrun] at hlive
  cases hlive

/-- **Every change of a row keeps what its status says of its other columns**: a case for each
    operation. -/
theorem RowInvariant.change {q : Queue} {op : Op} {j j' : EvaluationJob} (h : RowInvariant j)
    (hch : RowChange q op j j') : RowInvariant j' := by
  have hrun := h.run_none hch.live
  cases hch with
  | lease _ hclaim _ =>
    have hlt := (claimable_cases (claimPredicate_claimable (nextClaim_some hclaim).2)).1
    constructor <;> simp [claimed, hrun]
    omega
  | renew hown _ =>
    have hs := (leasedBy_running hown).1
    have ho := (leasedBy_running hown).2
    have ha := h.running_attempts hs
    constructor <;> simp [renewed, hs, hrun, ho, ha, h.attempts_le]
  | complete hown _ =>
    constructor <;> simp [completed, h.attempts_le]
  | fail hown =>
    by_cases hbudget : j.maxAttempts ≤ j.attempts
    · constructor <;> simp [failedOnce, hbudget, hrun, h.attempts_le]
    · constructor <;> simp [failedOnce, hbudget, hrun, h.attempts_le]
      omega
  | cancel _ =>
    constructor <;> simp [cancelled, hrun, h.attempts_le]

/-- The attempt counter moves by one, and only under `lease_job`. -/
theorem RowChange.attempts {q : Queue} {op : Op} {j j' : EvaluationJob}
    (h : RowChange q op j j') :
    j'.attempts = j.attempts ∨
      (j'.attempts = j.attempts + 1 ∧
        ∃ workerId leaseSeconds capabilities plan,
          op = .leaseJob workerId leaseSeconds capabilities plan) := by
  cases h with
  | lease _ _ _ => exact Or.inr ⟨rfl, _, _, _, _, rfl⟩
  | renew _ _ => exact Or.inl rfl
  | complete _ _ => exact Or.inl rfl
  | fail _ => exact Or.inl rfl
  | cancel _ => exact Or.inl rfl

/-- The invariant of the queue: unique job ids, every row well coupled. -/
structure Invariant (q : Queue) : Prop where
  keyed : Keyed EvaluationJob.jobId q.jobs
  rows : ∀ j ∈ q.jobs, RowInvariant j

/-- Every operation keeps what holds of all rows. -/
theorem Effect.rows {q q' : Queue} {op : Op} {r : Except StoreError (Option EvaluationJob)}
    (h : Effect q op r q') (hrows : ∀ j ∈ q.jobs, RowInvariant j) :
    ∀ j ∈ q'.jobs, RowInvariant j := by
  cases h with
  | raised e => exact hrows
  | idle _ => exact hrows
  | enqueued _ hfresh _ =>
    intro j hj
    rcases List.mem_append.mp hj with hj | hj
    · exact hrows j hj
    · obtain rfl := List.mem_singleton.mp hj
      exact hfresh.rowInvariant
  | changed hrep hch => exact hrep.forall_mem hrows ((hrows _ hrep.mem_old).change hch)
  | stored _ => exact hrows
  | advanced _ => exact hrows

/-- Every step keeps the invariant of the queue. -/
theorem invariant_step {q : Queue} (h : Invariant q) (op : Op) : Invariant (step q op) :=
  ⟨keyed_step h.keyed op, (perform_effect h.keyed op).rows h.rows⟩

/-- An empty queue meets the invariant. -/
theorem invariant_empty (now : Timestamp) (quota : Option TenantQuotaLimits) (runs : List UUID) :
    Invariant (emptyQueue now quota runs) :=
  ⟨List.nodup_nil, fun _ hj => absurd hj (List.not_mem_nil)⟩

/-- Every reachable queue satisfies the invariant. -/
theorem invariant_run {q : Queue} (h : Invariant q) (ops : List Op) : Invariant (run step q ops) :=
  run_invariant step Invariant (fun _ op hq => invariant_step hq op) h ops

/-! ## What a step preserves of each row -/

/-- The row `j` after an operation: still there under its id, its counter moved by at most one
    and only by a lease, and unchanged if it was final. -/
def Carried (op : Op) (j : EvaluationJob) (jobs' : List EvaluationJob) : Prop :=
  ∃ j' ∈ jobs', j'.jobId = j.jobId ∧
    (j'.attempts = j.attempts ∨ (j'.attempts = j.attempts + 1 ∧
      ∃ workerId leaseSeconds capabilities plan,
        op = .leaseJob workerId leaseSeconds capabilities plan)) ∧
    (j.status.terminal = true → j' = j)

/-- A row that is untouched is carried over. -/
theorem Carried.same {op : Op} {j : EvaluationJob} {jobs' : List EvaluationJob} (h : j ∈ jobs') :
    Carried op j jobs' :=
  ⟨j, h, rfl, Or.inl rfl, fun _ => rfl⟩

/-- No operation drops a row: each is there afterwards, untouched or changed as the operation says.
    -/
theorem Effect.carried {q q' : Queue} {op : Op} {r : Except StoreError (Option EvaluationJob)}
    (h : Effect q op r q') : ∀ j ∈ q.jobs, Carried op j q'.jobs := by
  intro j hj
  cases h with
  | raised e => exact Carried.same hj
  | idle _ => exact Carried.same hj
  | enqueued _ _ _ => exact Carried.same (List.mem_append_left _ hj)
  | changed hrep hch =>
    rcases hrep.mem_cases hj with hj' | rfl
    · exact Carried.same hj'
    · refine ⟨_, hrep.mem_new, hch.spec_eq.1, hch.attempts, fun hterm => ?_⟩
      rw [hch.live] at hterm
      cases hterm
  | stored _ => exact Carried.same hj
  | advanced _ => exact Carried.same hj

/-- An operation that raises has written nothing. -/
theorem Effect.error_jobs {q q' : Queue} {op : Op} {e : StoreError}
    (h : Effect q op (.error e) q') : q' = q := by
  cases h
  rfl

/-- **Job lifecycle.**  In every state an empty queue can reach, every row satisfies
    `RowInvariant`; and whatever operation comes next, every row is carried over it, and an
    operation that raises leaves the rows as they were. -/
theorem lifecycle_invariant (now : Timestamp) (quota : Option TenantQuotaLimits)
    (runs : List UUID) (ops : List Op) (op : Op) :
    let q := run step (emptyQueue now quota runs) ops
    Keyed EvaluationJob.jobId q.jobs ∧ (∀ j ∈ q.jobs, RowInvariant j) ∧
      (∀ j ∈ q.jobs, Carried op j (step q op).jobs) ∧
      (∀ e, (perform q op).1 = .error e → (step q op).jobs = q.jobs) := by
  intro q
  have hinv : Invariant q := invariant_run (invariant_empty now quota runs) ops
  have heff := perform_effect hinv.keyed op
  refine ⟨hinv.keyed, hinv.rows, heff.carried, fun e he => ?_⟩
  rw [he] at heff
  rw [heff.error_jobs]

/-! ## The documented state machine -/

/-- The edges of the job state machine, as `docs/distributed-execution.md` draws them; an owner's
    renewal stays on the loop at `running`. -/
inductive Edge : JobStatus → JobStatus → Prop
  | lease : Edge .queued .running
  | reclaim : Edge .running .running
  | complete : Edge .running .completed
  | retry : Edge .running .queued
  | exhaust : Edge .running .failed
  | cancelQueued : Edge .queued .cancelled
  | cancelRunning : Edge .running .cancelled

/-- A change of a row goes along an edge of the status machine. -/
theorem RowChange.edge {q : Queue} {op : Op} {j j' : EvaluationJob} (h : RowChange q op j j') :
    Edge j.status j'.status := by
  cases h with
  | lease _ hclaim _ =>
    rcases (claimable_cases (claimPredicate_claimable (nextClaim_some hclaim).2)).2 with hs | hs
    · rw [hs]; exact Edge.lease
    · rw [expired_running hs]; exact Edge.reclaim
  | renew hown _ =>
    show Edge j.status j.status
    rw [(leasedBy_running hown).1]
    exact Edge.reclaim
  | complete hown _ => rw [(leasedBy_running hown).1]; exact Edge.complete
  | fail hown =>
    rw [(leasedBy_running hown).1]
    simp only [failedOnce]
    split
    · exact Edge.exhaust
    · exact Edge.retry
  | cancel hlive =>
    show Edge j.status .cancelled
    cases hs : j.status with
    | queued => exact Edge.cancelQueued
    | running => exact Edge.cancelRunning
    | completed => rw [hs] at hlive; cases hlive
    | failed => rw [hs] at hlive; cases hlive
    | cancelled => rw [hs] at hlive; cases hlive

/-- **Refinement.**  Every operation moves every row along an edge of the documented state
    machine, or not at all. -/
theorem step_refines_edges {q : Queue} (hinv : Invariant q) (op : Op) :
    ∀ j ∈ q.jobs, ∃ j' ∈ (step q op).jobs, j'.jobId = j.jobId ∧
      (j' = j ∨ Edge j.status j'.status) := by
  intro j hj
  generalize hr : (perform q op).1 = r
  generalize hq' : step q op = q'
  have heff : Effect q op r q' := hr ▸ hq' ▸ perform_effect hinv.keyed op
  cases heff with
  | raised e => exact ⟨j, hj, rfl, Or.inl rfl⟩
  | idle _ => exact ⟨j, hj, rfl, Or.inl rfl⟩
  | enqueued _ _ _ => exact ⟨j, List.mem_append_left _ hj, rfl, Or.inl rfl⟩
  | changed hrep hch =>
    rcases hrep.mem_cases hj with hj' | rfl
    · exact ⟨j, hj', rfl, Or.inl rfl⟩
    · exact ⟨_, hrep.mem_new, hch.spec_eq.1, Or.inr hch.edge⟩
  | stored _ => exact ⟨j, hj, rfl, Or.inl rfl⟩
  | advanced _ => exact ⟨j, hj, rfl, Or.inl rfl⟩

end AEControl.Jobs
