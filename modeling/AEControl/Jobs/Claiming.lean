/-
  What `lease_job` owes its caller: the right job, and that job alone.

  `ClaimableBy` says in the terms of the scheduling contract which jobs a worker may take, and
  `First` which of them is due: highest priority, then earliest creation.  A call that returns at
  all answers as `LeaseExact` asks; `leaseJob_exact_iff` says when it returns.

  Structure of the proof:
  1. the `WHERE` clause of the claim is `ClaimableBy` (`claimPredicate_iff`), and the row that
     `ORDER BY … LIMIT 1` selects is due (`selectClaim_first`);
  2. `Sendable`: the parameters reach PostgreSQL.  A device whose compute capability reads "nan"
     has no JSON, NUL is in no text it takes, and an interval has its bounds (`claimParameters_ok`);
  3. `DevicesUnread`: no row is tested for which a device beyond the `INTEGER` columns would be
     read (`gpuColumns_ok`);
  4. the deadline of a claimed row is one a Python `datetime` can hold.
-/
import AEControl.Jobs.Lifecycle
import AEControl.Jobs.Placement

namespace AEControl.Jobs

open Runs Table

/-! ## The contract -/

/-- One device meets every requirement of the job. -/
def DeviceServes (j : EvaluationJob) (gpu : GpuDevice) : Prop :=
  j.minimumGpuMemoryMb ≤ gpu.memoryTotalMb ∧
  (∀ minimum ∈ j.minimumCudaComputeCapability,
    ∃ compute ∈ gpu.computeCapability, minimum.sqlLe compute = true) ∧
  (0 < j.minimumGpuMemoryAvailableMb →
    ∃ used ∈ gpu.memoryUsedMb, j.minimumGpuMemoryAvailableMb ≤ gpu.memoryTotalMb - used) ∧
  (∀ maximum ∈ j.maximumGpuUtilizationPercent,
    ∃ utilization ∈ gpu.utilizationPercent, utilization.sqlLe maximum = true) ∧
  ∀ profile ∈ j.requiredMigProfile, gpu.migProfile = some profile

/-- The worker has the accelerator, the labels and, where the job asks for one, a device. -/
def Placed (o : Offer) (j : EvaluationJob) : Prop :=
  j.requiredAccelerator ∈ o.accelerators ∧
  (∀ label ∈ j.requiredLabels, o.labels.lookup label.1 = some label.2) ∧
  (unconstrained j = true ∨ ∃ gpu ∈ o.gpus, DeviceServes j gpu)

/-- The tenant has as many active running jobs as `max_running_jobs` allows. -/
def RunningQuotaFull (q : Queue) : Prop :=
  ∃ quota ∈ q.quota, ∃ limit ∈ quota.maxRunningJobs, limit ≤ q.jobs.countP (activeRunning q.now)

/-- The tenant has as many active running CUDA jobs as `max_running_cuda_jobs` allows. -/
def CudaQuotaFull (q : Queue) : Prop :=
  ∃ quota ∈ q.quota, ∃ limit ∈ quota.maxRunningCudaJobs,
    limit ≤ q.jobs.countP (activeRunningCuda q.now)

/-- Queued, or running under a lease that has expired. -/
def Free (now : Timestamp) (j : EvaluationJob) : Prop :=
  j.status = .queued ∨ (j.status = .running ∧ ∃ deadline ∈ j.leaseExpiresAt, deadline < now)

/-- The worker may take the job: it is free and has an attempt left, the worker can place it, and
    a full CUDA quota withholds CUDA jobs only. -/
def ClaimableBy (q : Queue) (capabilities : Option WorkerCapabilities) (j : EvaluationJob) :
    Prop :=
  j.attempts < j.maxAttempts ∧ Free q.now j ∧ Placed (Offer.ofCapabilities capabilities) j ∧
    ¬ (j.requiredAccelerator = .cuda ∧ CudaQuotaFull q)

/-- The job comes before another in the queue's order: by priority, then by creation. -/
def NotAfter (j x : EvaluationJob) : Prop :=
  x.priority < j.priority ∨ (x.priority = j.priority ∧ j.createdAt ≤ x.createdAt)

/-- The job is in the queue, the worker may take it, and no other such job is before it. -/
def First (q : Queue) (capabilities : Option WorkerCapabilities) (j : EvaluationJob) : Prop :=
  j ∈ q.jobs ∧ ClaimableBy q capabilities j ∧
    ∀ x ∈ q.jobs, ClaimableBy q capabilities x → NotAfter j x

/-- The whole contract of one `lease_job` call, about its answer and the state it leaves. -/
structure LeaseExact (q : Queue) (workerId : String) (leaseSeconds : Int)
    (capabilities : Option WorkerCapabilities)
    (answer : Except StoreError (Option EvaluationJob)) (q' : Queue) : Prop where
  /-- The call gives an answer. -/
  returns : ∃ row, answer = .ok row
  /-- A returned row is a due job with the lease on it, and its row is the only one changed. -/
  due : ∀ row, answer = .ok (some row) → ∃ j, First q capabilities j ∧
    row = claimed q.now workerId leaseSeconds j ∧ Replaced q.jobs q'.jobs j row
  none_iff : answer = .ok none ↔
    (¬ ∃ j ∈ q.jobs, ClaimableBy q capabilities j) ∨ RunningQuotaFull q
  /-- Without a job, no row is changed. -/
  idle : answer = .ok none → q'.jobs = q.jobs
  /-- Nothing but the job rows is ever written. -/
  frame : q' = { q with jobs := q'.jobs }

/-- Every parameter of the claim can be sent: the memory sizes print, the texts are without NUL, the
    compute capabilities are finite numbers, and the lease is an interval. -/
structure Sendable (q : Queue) (workerId : String) (leaseSeconds : Int) (o : Offer) : Prop where
  printable : ∀ gpu ∈ o.gpus, Json.intPrintable gpu.memoryTotalMb = true ∧
    ∀ used ∈ gpu.memoryUsedMb, Json.intPrintable used = true
  worker : isStorableText workerId = true
  labels : ∀ label ∈ o.labels, isStorableText label.1 = true ∧ isStorableText label.2 = true
  capabilities : ∀ gpu ∈ o.gpus, ∀ compute ∈ gpu.computeCapability, compute.isFinite = true
  interval : leaseSeconds.natAbs ≤ 9223372036854 ∨
    representable (leaseDeadline q.now leaseSeconds) = true

/-- The job asks something of a device, and nothing else keeps it from the worker. -/
def AsksDevice (q : Queue) (capabilities : Option WorkerCapabilities) (j : EvaluationJob) : Prop :=
  j.attempts < j.maxAttempts ∧ Free q.now j ∧
    j.requiredAccelerator ∈ (Offer.ofCapabilities capabilities).accelerators ∧
    (∀ label ∈ j.requiredLabels,
      (Offer.ofCapabilities capabilities).labels.lookup label.1 = some label.2) ∧
    unconstrained j = false ∧ ¬ (j.requiredAccelerator = .cuda ∧ CudaQuotaFull q)

/-- PostgreSQL reads the devices for no job: each that asks for one comes after the one selected,
    and the rows are not all tested first. -/
def DevicesUnread (q : Queue) (capabilities : Option WorkerCapabilities) (plan : ClaimPlan) :
    Prop :=
  ∀ j ∈ q.jobs, AsksDevice q capabilities j → plan.sorts = false ∧
    ∃ claim, selectClaim (Offer.ofCapabilities capabilities) (cudaQuotaAvailable q) plan.tie q =
      some claim ∧ claimOrder plan.tie claim < claimOrder plan.tie j

/-! ## The predicates of the statement -/

theorem gpuAdmits_iff {j : EvaluationJob} {gpu : GpuDevice} :
    gpuAdmits j gpu = true ↔ DeviceServes j gpu := by
  unfold gpuAdmits DeviceServes
  simp only [Bool.and_eq_true, Bool.or_eq_true, decide_eq_true_eq, Option.all_eq_true,
    Option.any_eq_true, and_assoc, Option.mem_def, Nat.pos_iff_ne_zero, or_iff_not_imp_left]

theorem runningQuotaFull_iff {q : Queue} : runningQuotaFull q = true ↔ RunningQuotaFull q := by
  unfold runningQuotaFull RunningQuotaFull
  simp only [Option.any_eq_true, decide_eq_true_eq, Option.mem_def]
  rfl

theorem cudaQuotaAvailable_iff {q : Queue} :
    cudaQuotaAvailable q = true ↔ ¬ CudaQuotaFull q := by
  unfold cudaQuotaAvailable CudaQuotaFull
  simp only [Option.all_eq_true, decide_eq_true_eq, Option.mem_def, not_exists, not_and, not_le]
  rfl

theorem claimable_iff {now : Timestamp} {j : EvaluationJob} :
    claimable now j = true ↔ j.attempts < j.maxAttempts ∧ Free now j := by
  unfold claimable expired Free
  simp only [Bool.and_eq_true, Bool.or_eq_true, decide_eq_true_eq, Option.any_eq_true,
    Option.mem_def]

/-- The conjuncts that do not concern a device. -/
theorem hostAdmits_iff {o : Offer} {cuda : Bool} {j : EvaluationJob} :
    hostAdmits o cuda j = true ↔ j.requiredAccelerator ∈ o.accelerators ∧
      (∀ label ∈ j.requiredLabels, o.labels.lookup label.1 = some label.2) ∧
      (j.requiredAccelerator = .cuda → cuda = true) := by
  have hlabels : o.labels.contain j.requiredLabels = true ↔
      ∀ label ∈ j.requiredLabels, o.labels.lookup label.1 = some label.2 := by
    simp [Labels.contain]
  have hcuda : (j.requiredAccelerator ≠ .cuda ∨ cuda = true) ↔
      (j.requiredAccelerator = .cuda → cuda = true) := by
    rw [ne_eq, ← imp_iff_not_or]
  unfold hostAdmits
  rw [Bool.and_eq_true, Bool.and_eq_true, Bool.or_eq_true, hlabels, decide_eq_true_eq, hcuda,
    List.contains_iff_mem, and_assoc, and_comm (a := _ → _)]

theorem placementAdmits_iff {o : Offer} {cuda : Bool} {j : EvaluationJob} :
    placementAdmits o cuda j = true ↔
      Placed o j ∧ (j.requiredAccelerator = .cuda → cuda = true) := by
  have hdevice : o.gpus.any (gpuAdmits j) = true ↔ ∃ gpu ∈ o.gpus, DeviceServes j gpu := by
    rw [List.any_eq_true]
    exact exists_congr fun gpu => and_congr_right fun _ => gpuAdmits_iff
  show (hostAdmits o cuda j && (unconstrained j || _)) = true ↔ _
  rw [Bool.and_eq_true, hostAdmits_iff, Bool.or_eq_true, hdevice]
  constructor
  · rintro ⟨⟨haccelerator, hlabel, hquota⟩, hgpu⟩
    exact ⟨⟨haccelerator, hlabel, hgpu⟩, hquota⟩
  · rintro ⟨⟨haccelerator, hlabel, hgpu⟩, hquota⟩
    exact ⟨⟨haccelerator, hlabel, hquota⟩, hgpu⟩

/-- The `WHERE` clause of the claim says which jobs the worker may take. -/
theorem claimPredicate_iff {q : Queue} {capabilities : Option WorkerCapabilities}
    {j : EvaluationJob} :
    claimPredicate q.now (Offer.ofCapabilities capabilities) (cudaQuotaAvailable q) j = true ↔
      ClaimableBy q capabilities j := by
  unfold claimPredicate ClaimableBy
  rw [Bool.and_eq_true, placementAdmits_iff, cudaQuotaAvailable_iff, claimable_iff, not_and]
  constructor
  · rintro ⟨⟨hplaced, hquota⟩, hattempts, hfree⟩
    exact ⟨hattempts, hfree, hplaced, hquota⟩
  · rintro ⟨hattempts, hfree, hplaced, hquota⟩
    exact ⟨⟨hplaced, hquota⟩, hattempts, hfree⟩

/-! ## The selected row -/

/-- `ORDER BY priority DESC, created_at`, whatever order ties are visited in. -/
theorem claimOrder_le {tie : UUID → Nat} {j x : EvaluationJob}
    (h : claimOrder tie j ≤ claimOrder tie x) : NotAfter j x := by
  rcases Prod.Lex.toLex_le_toLex.mp h with hpriority | ⟨hpriority, hrest⟩
  · left
    have : -j.priority < -x.priority := hpriority
    omega
  · right
    have heq : -j.priority = -x.priority := hpriority
    refine ⟨by omega, ?_⟩
    rcases Prod.Lex.toLex_le_toLex.mp hrest with hcreated | ⟨hcreated, -⟩
    · exact le_of_lt hcreated
    · exact le_of_eq hcreated

/-- The selected row is due. -/
theorem selectClaim_first {q : Queue} {capabilities : Option WorkerCapabilities}
    {tie : UUID → Nat} {j : EvaluationJob}
    (h : selectClaim (Offer.ofCapabilities capabilities) (cudaQuotaAvailable q) tie q = some j) :
    First q capabilities j := by
  obtain ⟨hmem, hpred⟩ := selectClaim_some h
  refine ⟨hmem, claimPredicate_iff.mp hpred, ?_⟩
  intro x hx hclaim
  have hfilter : x ∈ q.jobs.filter
      (claimPredicate q.now (Offer.ofCapabilities capabilities) (cudaQuotaAvailable q)) :=
    List.mem_filter.mpr ⟨hx, claimPredicate_iff.mpr hclaim⟩
  exact claimOrder_le (List.le_of_mem_argmin hfilter h)

/-- No row is selected exactly when there is none the worker may take. -/
theorem selectClaim_none {q : Queue} {capabilities : Option WorkerCapabilities}
    {tie : UUID → Nat} :
    selectClaim (Offer.ofCapabilities capabilities) (cudaQuotaAvailable q) tie q = none ↔
      ¬ ∃ j ∈ q.jobs, ClaimableBy q capabilities j := by
  unfold selectClaim
  rw [List.argmin_eq_none, List.filter_eq_nil_iff, not_exists]
  refine forall_congr' fun j => ?_
  rw [claimPredicate_iff, not_and]

/-! ## The call -/

/-- A call that raises does not give its caller what the contract promises. -/
theorem not_leaseExact_error {q q' : Queue} {workerId : String} {leaseSeconds : Int}
    {capabilities : Option WorkerCapabilities} {e : StoreError} :
    ¬ LeaseExact q workerId leaseSeconds capabilities (.error e) q' := by
  intro h
  obtain ⟨row, hrow⟩ := h.returns
  cases hrow

/-- A call that finds nothing and says so. -/
theorem leaseExact_none {q : Queue} {workerId : String} {leaseSeconds : Int}
    {capabilities : Option WorkerCapabilities}
    (h : (¬ ∃ j ∈ q.jobs, ClaimableBy q capabilities j) ∨ RunningQuotaFull q) :
    LeaseExact q workerId leaseSeconds capabilities (.ok none) q where
  returns := ⟨none, rfl⟩
  due := by
    intro row hrow
    cases hrow
  none_iff := iff_of_true rfl h
  idle := fun _ => rfl
  frame := rfl

/-- A call that claims a due job. -/
theorem leaseExact_some {q : Queue} {workerId : String} {leaseSeconds : Int}
    {capabilities : Option WorkerCapabilities} {j : EvaluationJob} {jobs' : List EvaluationJob}
    (hfree : ¬ RunningQuotaFull q) (hfirst : First q capabilities j)
    (hrep : Replaced q.jobs jobs' j (claimed q.now workerId leaseSeconds j)) :
    LeaseExact q workerId leaseSeconds capabilities
      (.ok (some (claimed q.now workerId leaseSeconds j))) { q with jobs := jobs' } where
  returns := ⟨_, rfl⟩
  due := by
    intro row hrow
    obtain rfl := Option.some.inj (Except.ok.inj hrow)
    exact ⟨j, hfirst, rfl, hrep⟩
  none_iff := by
    refine iff_of_false (fun h => ?_) ?_
    · cases h
    · rintro (hnone | hfull)
      · exact hnone ⟨j, hfirst.1, hfirst.2.1⟩
      · exact hfree hfull
  idle := by
    intro h
    cases h
  frame := rfl

/-- The parameters are taken exactly if they can be sent. -/
theorem claimParameters_ok {q : Queue} {workerId : String} {leaseSeconds : Int} {o : Offer} :
    claimParameters q.now o workerId leaseSeconds = .ok () ↔
      Sendable q workerId leaseSeconds o := by
  have hprint : gpuProfilesPrint o = true ↔ ∀ gpu ∈ o.gpus,
      Json.intPrintable gpu.memoryTotalMb = true ∧
        ∀ used ∈ gpu.memoryUsedMb, Json.intPrintable used = true := by
    simp [gpuProfilesPrint, Option.all_eq_true]
  have hlabels : labelsAreJson o.labels = true ↔
      ∀ label ∈ o.labels, isStorableText label.1 = true ∧ isStorableText label.2 = true := by
    simp [labelsAreJson]
  have hjson : gpuProfilesAreJson o = true ↔
      ∀ gpu ∈ o.gpus, ∀ compute ∈ gpu.computeCapability, compute.isFinite = true := by
    simp [gpuProfilesAreJson, Option.all_eq_true]
  have hinterval : intervalFits q.now leaseSeconds = true ↔
      leaseSeconds.natAbs ≤ 9223372036854 ∨
        representable (leaseDeadline q.now leaseSeconds) = true := by
    simp [intervalFits]
  unfold claimParameters
  constructor
  · intro h
    split_ifs at h with hbad hgood
    · rw [Bool.and_eq_true, Bool.and_eq_true, Bool.and_eq_true] at hgood
      obtain ⟨⟨⟨hworker, hlabel⟩, hnumber⟩, hlease⟩ := hgood
      exact ⟨hprint.mp (by simpa using hbad), hworker, hlabels.mp hlabel, hjson.mp hnumber,
        hinterval.mp hlease⟩
  · intro h
    rw [if_neg (by rw [hprint.mpr h.printable]; exact Bool.true_eq_false.mp), if_pos]
    rw [h.worker, hlabels.mpr h.labels, hjson.mpr h.capabilities, hinterval.mpr h.interval]
    rfl

/-- A job whose test comes to the devices is one that asks for a device. -/
theorem asksDevice_iff {q : Queue} {capabilities : Option WorkerCapabilities} {j : EvaluationJob} :
    (hostAdmits (Offer.ofCapabilities capabilities) (cudaQuotaAvailable q) j &&
      claimable q.now j && !deviceFree j) = true ↔ AsksDevice q capabilities j := by
  have hfree : (!deviceFree j) = true ↔ unconstrained j = false := by
    rw [Bool.not_eq_true']
    rfl
  rw [Bool.and_eq_true, Bool.and_eq_true, hostAdmits_iff, claimable_iff, hfree,
    cudaQuotaAvailable_iff]
  unfold AsksDevice
  rw [not_and]
  constructor
  · rintro ⟨⟨⟨haccelerator, hlabel, hquota⟩, hattempts, hidle⟩, hasks⟩
    exact ⟨hattempts, hidle, haccelerator, hlabel, hasks, hquota⟩
  · rintro ⟨hattempts, hidle, haccelerator, hlabel, hasks, hquota⟩
    exact ⟨⟨⟨haccelerator, hlabel, hquota⟩, hattempts, hidle⟩, hasks⟩

/-- The statement converts every device it reads exactly if they fit or are not read. -/
theorem gpuColumns_ok {q : Queue} {capabilities : Option WorkerCapabilities} {plan : ClaimPlan} :
    (gpuColumnsFit (Offer.ofCapabilities capabilities) ||
      !devicesRead plan (Offer.ofCapabilities capabilities) (cudaQuotaAvailable q)
        (selectClaim (Offer.ofCapabilities capabilities) (cudaQuotaAvailable q) plan.tie q) q) =
        true ↔
      (∀ gpu ∈ (Offer.ofCapabilities capabilities).gpus, DeviceFits gpu) ∨
        DevicesUnread q capabilities plan := by
  have hfit : gpuColumnsFit (Offer.ofCapabilities capabilities) = true ↔
      ∀ gpu ∈ (Offer.ofCapabilities capabilities).gpus, DeviceFits gpu := by
    simp [gpuColumnsFit, DeviceFits, Option.all_eq_true]
  rw [Bool.or_eq_true, hfit]
  refine or_congr_right ?_
  unfold devicesRead DevicesUnread
  generalize selectClaim (Offer.ofCapabilities capabilities) (cudaQuotaAvailable q) plan.tie q =
    selected
  -- a row that is not visited comes after the selected one
  have hvisits : ∀ j, plan.visits selected j = false ↔ plan.sorts = false ∧
      ∃ claim, selected = some claim ∧ claimOrder plan.tie claim < claimOrder plan.tie j := by
    intro j
    unfold ClaimPlan.visits
    cases selected <;> simp
  rw [Bool.not_eq_true', List.any_eq_false]
  refine forall₂_congr fun j _ => ?_
  rw [Bool.and_eq_true, asksDevice_iff, not_and, Bool.not_eq_true, hvisits]

/-- **Exact claims.**  `lease_job` keeps its whole contract exactly when the running quota is full
    anyway, or the claim can be sent, no device beyond the columns is read, and either there is no
    job to claim or the deadline is one a `datetime` can hold. -/
theorem leaseJob_exact_iff (q : Queue) (hk : Keyed EvaluationJob.jobId q.jobs)
    (workerId : String) (leaseSeconds : Int) (capabilities : Option WorkerCapabilities)
    (plan : ClaimPlan) :
    LeaseExact q workerId leaseSeconds capabilities
        (leaseJob workerId leaseSeconds capabilities plan q).1
        (leaseJob workerId leaseSeconds capabilities plan q).2 ↔
      RunningQuotaFull q ∨
        (Sendable q workerId leaseSeconds (Offer.ofCapabilities capabilities) ∧
          ((∀ gpu ∈ (Offer.ofCapabilities capabilities).gpus, DeviceFits gpu) ∨
            DevicesUnread q capabilities plan) ∧
          ((¬ ∃ j ∈ q.jobs, ClaimableBy q capabilities j) ∨
            representable (leaseDeadline q.now leaseSeconds) = true)) := by
  -- the statement gives its row exactly if the two conditions on what it reads hold
  have hstatement : ∀ row, nextClaim plan (Offer.ofCapabilities capabilities) workerId leaseSeconds
      q = .ok row ↔
        Sendable q workerId leaseSeconds (Offer.ofCapabilities capabilities) ∧
        ((∀ gpu ∈ (Offer.ofCapabilities capabilities).gpus, DeviceFits gpu) ∨
          DevicesUnread q capabilities plan) ∧
        selectClaim (Offer.ofCapabilities capabilities) (cudaQuotaAvailable q) plan.tie q = row :=
    fun row => by
      unfold nextClaim
      rw [claimStatement_ok, claimParameters_ok, gpuColumns_ok]
  rcases leaseJob_cases hk workerId leaseSeconds capabilities plan with
    ⟨hfull, h⟩ | ⟨hfree, ⟨e, hraise, h⟩ | ⟨hnone, h⟩ | ⟨j, hclaim, ⟨hbad, h⟩ |
      ⟨hrep, jobs', hrepl, h⟩⟩⟩
  · rw [h]
    have hfull' := runningQuotaFull_iff.mp hfull
    exact iff_of_true (leaseExact_none (Or.inr hfull')) (Or.inl hfull')
  all_goals
    have hfree' : ¬ RunningQuotaFull q := by
      rw [← runningQuotaFull_iff, hfree]
      exact Bool.false_ne_true
    rw [h]
  · refine iff_of_false not_leaseExact_error ?_
    rintro (hfull | ⟨hsend, hread, -⟩)
    · exact hfree' hfull
    · rw [(hstatement _).mpr ⟨hsend, hread, rfl⟩] at hraise
      cases hraise
  · obtain ⟨hsend, hread, hselect⟩ := (hstatement _).mp hnone
    have hno := selectClaim_none.mp hselect
    exact iff_of_true (leaseExact_none (Or.inl hno)) (Or.inr ⟨hsend, hread, Or.inl hno⟩)
  · -- the deadline is refused when the row is read back
    refine iff_of_false not_leaseExact_error ?_
    have hfirst := selectClaim_first (nextClaim_selects hclaim)
    rintro (hfull | ⟨-, -, hno | hrep⟩)
    · exact hfree' hfull
    · exact hno ⟨j, hfirst.1, hfirst.2.1⟩
    · rw [hbad] at hrep
      cases hrep
  · obtain ⟨hsend, hread, hselect⟩ := (hstatement _).mp hclaim
    exact iff_of_true (leaseExact_some hfree' (selectClaim_first hselect) hrepl)
      (Or.inr ⟨hsend, hread, Or.inr hrep⟩)

/-! ## A call that meets the condition, and one that does not -/

/-- One CPU job waits. -/
def waitingQueue : Queue := step (emptyQueue 0 none []) (.enqueueJob codingJob 1 0 0)

theorem waitingQueue_keyed : Keyed EvaluationJob.jobId waitingQueue.jobs :=
  keyed_step (q := emptyQueue 0 none []) List.nodup_nil _

/-- A worker with one GPU of this much memory, of which `float()` makes this capability. -/
def gpuWorker (memoryTotalMb : Nat) (computeCapability : Float64) : WorkerCapabilities :=
  ⟨[.cpu, .cuda], [⟨memoryTotalMb, none, some computeCapability, none, none, none_in_range⟩], []⟩

/-- The memory is beyond the columns, but the only job asks for no device. -/
theorem leaseJob_exact_sample :
    LeaseExact waitingQueue "a" 900 (some (gpuWorker 4294967296 (.finite 9)))
      (leaseJob "a" 900 (some (gpuWorker 4294967296 (.finite 9))) .scan waitingQueue).1
      (leaseJob "a" 900 (some (gpuWorker 4294967296 (.finite 9))) .scan waitingQueue).2 := by
  refine (leaseJob_exact_iff waitingQueue waitingQueue_keyed "a" 900 _ .scan).mpr (.inr ⟨?_, ?_, ?_⟩)
  · exact claimParameters_ok.mp (by decide +kernel)
  · exact gpuColumns_ok.mp (by decide +kernel)
  · exact .inr (by decide +kernel)

/-- The CPU job waits, a worker whose GPU reports its compute capability as "nan" may take it, and
    its call raises. -/
theorem leaseJob_exact_fails :
    (∃ j ∈ waitingQueue.jobs, ClaimableBy waitingQueue (some (gpuWorker 24564 .nan)) j) ∧
      ¬ LeaseExact waitingQueue "a" 900 (some (gpuWorker 24564 .nan))
        (leaseJob "a" 900 (some (gpuWorker 24564 .nan)) .scan waitingQueue).1
        (leaseJob "a" 900 (some (gpuWorker 24564 .nan)) .scan waitingQueue).2 := by
  have hclaim : waitingQueue.jobs.any (claimPredicate waitingQueue.now
      (Offer.ofCapabilities (some (gpuWorker 24564 .nan))) (cudaQuotaAvailable waitingQueue)) =
        true := by
    decide +kernel
  have hraise : (leaseJob "a" 900 (some (gpuWorker 24564 .nan)) .scan waitingQueue).1 =
      .error .dataError := by decide +kernel
  obtain ⟨j, hj, hpred⟩ := List.any_eq_true.mp hclaim
  refine ⟨⟨j, hj, claimPredicate_iff.mp hpred⟩, ?_⟩
  rw [hraise]
  exact not_leaseExact_error

end AEControl.Jobs
