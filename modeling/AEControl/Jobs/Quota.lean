/-
  The running quota of a tenant.

  `lease_job` counts the tenant's active leases before it claims a job; `renew_job_lease` does
  not.  A worker that renews after its lease ran out brings the job back among the active ones,
  past whatever was leased in between, so the quota is not an invariant of the queue.  It holds
  throughout a run exactly if no renewal of the run does that (`RenewWithinQuota`).

  Structure of the proof:
  1. the two predicates of the claim are bounds on `tenantQuotaUsage`
     (`runningQuotaFull_eq_false`, `cudaQuotaAvailable_eq_true`), so a selected row leaves room for
     itself (`selectClaim_quota`);
  2. an operation replaces one row, and the usage moves by what that row counted before and counts
     now (`usage_replaced`);
  3. **the crux**, `RowChange.quota_iff`, a case for each kind of change: a row that becomes active
     is claimed, and the claim has counted, or renewed, and nobody has.  Every other change can
     only lower the usage;
  4. `withinRunningQuota_step` adds the passing of time, which lowers it too, and
     `runningQuota_iff` follows the condition along the run.
-/
import AEControl.Jobs.Lifecycle

namespace AEControl.Jobs

open Runs Table

/-- `max_running_jobs` and `max_running_cuda_jobs` bound the active leases. -/
def WithinRunningQuota (q : Queue) : Prop :=
  ∀ quota ∈ q.quota,
    (∀ n ∈ quota.maxRunningJobs, (tenantQuotaUsage q).activeRunningJobs ≤ n) ∧
    (∀ m ∈ quota.maxRunningCudaJobs, (tenantQuotaUsage q).activeRunningCudaJobs ≤ m)

/-- A renewal that revives an expired lease finds the quota free, as a claim would have to. -/
def RenewWithinQuota (q : Queue) : Op → Prop
  | .renewJobLease jobId workerId leaseSeconds =>
    ∀ j ∈ q.jobs, j.jobId = jobId → leasedBy workerId j = true → expired q.now j = true →
      q.now ≤ leaseDeadline q.now leaseSeconds →
      representable (leaseDeadline q.now leaseSeconds) = true →
      runningQuotaFull q = false ∧
        (j.requiredAccelerator = .cuda → cudaQuotaAvailable q = true)
  | _ => True

/-! ## The quota predicates as bounds -/

theorem runningQuotaFull_eq_false {q : Queue} :
    runningQuotaFull q = false ↔ ∀ quota ∈ q.quota, ∀ n ∈ quota.maxRunningJobs,
      (tenantQuotaUsage q).activeRunningJobs < n := by
  simp only [runningQuotaFull, Option.any_eq_false, decide_eq_false_iff_not, not_le, Option.mem_def]

theorem cudaQuotaAvailable_eq_true {q : Queue} :
    cudaQuotaAvailable q = true ↔ ∀ quota ∈ q.quota, ∀ m ∈ quota.maxRunningCudaJobs,
      (tenantQuotaUsage q).activeRunningCudaJobs < m := by
  simp only [cudaQuotaAvailable, Option.all_eq_true, decide_eq_true_eq, Option.mem_def]

theorem activeRunningCuda_of_inactive {now : Timestamp} {j : EvaluationJob}
    (h : activeRunning now j = false) : activeRunningCuda now j = false := by
  simp [activeRunningCuda, h]

theorem claimable_inactive {now : Timestamp} {j : EvaluationJob} (h : RowInvariant j)
    (hc : claimable now j = true) : activeRunning now j = false := by
  rcases (claimable_cases hc).2 with hs | hs
  · exact activeRunning_of_status (by rw [hs]; decide)
  · rw [activeRunning_eq_not_expired h (expired_running hs), hs]
    rfl

/-- The job a claim selects is not among those the quota counts, and if it requires CUDA the
    CUDA quota is free. -/
theorem selectClaim_quota {o : Offer} {tie : UUID → Nat} {q : Queue} {j : EvaluationJob}
    (hrows : ∀ j ∈ q.jobs, RowInvariant j)
    (h : selectClaim o (cudaQuotaAvailable q) tie q = some j) :
    activeRunning q.now j = false ∧
      (j.requiredAccelerator = .cuda → cudaQuotaAvailable q = true) := by
  obtain ⟨hj, hp⟩ := selectClaim_some h
  refine ⟨claimable_inactive (hrows j hj) (claimPredicate_claimable hp), fun hcuda => ?_⟩
  exact (accelerator_of_admits (claimPredicate_admits hp)).2 hcuda

/-! ## Replacing a row -/

/-- Usage after a row is replaced, whatever quota is asked of it. -/
theorem usage_replaced {q : Queue} {jobs' : List EvaluationJob} {j j' : EvaluationJob}
    (h : Replaced q.jobs jobs' j j') :
    (tenantQuotaUsage { q with jobs := jobs' }).activeRunningJobs +
        (if activeRunning q.now j then 1 else 0) =
      (tenantQuotaUsage q).activeRunningJobs + (if activeRunning q.now j' then 1 else 0) ∧
    (tenantQuotaUsage { q with jobs := jobs' }).activeRunningCudaJobs +
        (if activeRunningCuda q.now j then 1 else 0) =
      (tenantQuotaUsage q).activeRunningCudaJobs +
        (if activeRunningCuda q.now j' then 1 else 0) :=
  ⟨h.countP_add _, h.countP_add _⟩

/-- Replacing a row by one that counts no more than it did keeps the quota. -/
theorem WithinRunningQuota.replace_le {q : Queue} {jobs' : List EvaluationJob}
    {j j' : EvaluationJob} (hq : WithinRunningQuota q) (h : Replaced q.jobs jobs' j j')
    (hspec : j'.toJobSpec = j.toJobSpec)
    (hle : activeRunning q.now j' = true → activeRunning q.now j = true) :
    WithinRunningQuota { q with jobs := jobs' } := by
  have hcuda : activeRunningCuda q.now j' = true → activeRunningCuda q.now j = true := by
    intro hj'
    obtain ⟨ha, hc⟩ := Bool.and_eq_true_iff.mp hj'
    exact Bool.and_eq_true_iff.mpr ⟨hle ha, by rw [← hspec]; exact hc⟩
  obtain ⟨hrun, hcud⟩ := usage_replaced h
  intro quota hquota
  obtain ⟨hN, hM⟩ := hq quota hquota
  constructor
  · intro n hn
    have := hN n hn
    split_ifs at hrun with h₁ h₂ h₃
    · omega
    · omega
    · exact absurd (hle h₃) h₁
    · omega
  · intro m hm
    have := hM m hm
    split_ifs at hcud with h₁ h₂ h₃
    · omega
    · omega
    · exact absurd (hcuda h₃) h₁
    · omega

/-- Replacing an inactive row by an active one keeps the quota exactly if the quota was free. -/
theorem withinRunningQuota_activate {q : Queue} {jobs' : List EvaluationJob}
    {j j' : EvaluationJob} (hq : WithinRunningQuota q) (h : Replaced q.jobs jobs' j j')
    (hspec : j'.toJobSpec = j.toJobSpec)
    (hj : activeRunning q.now j = false) (hj' : activeRunning q.now j' = true) :
    WithinRunningQuota { q with jobs := jobs' } ↔
      runningQuotaFull q = false ∧
        (j.requiredAccelerator = .cuda → cudaQuotaAvailable q = true) := by
  obtain ⟨hrun, hcud⟩ := usage_replaced h
  simp only [hj, hj', if_true, Bool.false_eq_true, if_false, Nat.add_zero] at hrun
  simp only [activeRunningCuda_of_inactive hj, Bool.false_eq_true, if_false, Nat.add_zero] at hcud
  have hcuda' : activeRunningCuda q.now j' = decide (j.requiredAccelerator = .cuda) := by
    unfold activeRunningCuda
    rw [hj', hspec]
    rfl
  rw [runningQuotaFull_eq_false, cudaQuotaAvailable_eq_true]
  unfold WithinRunningQuota
  rw [hrun, hcud, hcuda']
  constructor
  · intro hnext
    refine ⟨fun quota hquota n hn => (hnext quota hquota).1 n hn, ?_⟩
    intro hc quota hquota m hm
    have := (hnext quota hquota).2 m hm
    simp only [hc, decide_true, if_true] at this
    exact this
  · rintro ⟨hN, hM⟩ quota hquota
    refine ⟨fun n hn => hN quota hquota n hn, fun m hm => ?_⟩
    by_cases hc : j.requiredAccelerator = .cuda
    · have := hM hc quota hquota m hm
      simp only [hc, decide_true, if_true]
      omega
    · have := (hq quota hquota).2 m hm
      simp only [hc, decide_false, Bool.false_eq_true, if_false]
      omega

/-! ## One step -/

theorem RowChange.quota_iff {q : Queue} {op : Op} {j j' : EvaluationJob}
    {jobs' : List EvaluationJob} (hinv : Invariant q) (hq : WithinRunningQuota q)
    (hrep : Replaced q.jobs jobs' j j') (hch : RowChange q op j j') :
    WithinRunningQuota { q with jobs := jobs' } ↔ RenewWithinQuota q op := by
  have hrow := hinv.rows j hrep.mem_old
  have hspec := hch.spec_eq.2
  cases hch with
  | @lease workerId leaseSeconds capabilities plan _ hfree hclaim _ =>
    -- the claim has counted: the quota is free whatever deadline it sets
    obtain ⟨hidle, hcuda⟩ := selectClaim_quota hinv.rows (nextClaim_selects hclaim)
    refine iff_of_true ?_ trivial
    cases hact : activeRunning q.now (claimed q.now workerId leaseSeconds j) with
    | true => exact (withinRunningQuota_activate hq hrep hspec hidle hact).mpr ⟨hfree, hcuda⟩
    | false => exact hq.replace_le hrep hspec (fun h => by rw [hact] at h; cases h)
  | @renew workerId leaseSeconds _ hown hdue =>
    have hs := (leasedBy_running hown).1
    have hrenewed : activeRunning q.now (renewed q.now leaseSeconds j) =
        decide (q.now ≤ leaseDeadline q.now leaseSeconds) := by
      simp [activeRunning, renewed, hs]
    have hguard : RenewWithinQuota q (.renewJobLease j.jobId workerId leaseSeconds) ↔
        (expired q.now j = true → q.now ≤ leaseDeadline q.now leaseSeconds →
          runningQuotaFull q = false ∧
            (j.requiredAccelerator = .cuda → cudaQuotaAvailable q = true)) := by
      constructor
      · intro h hexp hlate
        exact h j hrep.mem_old rfl hown hexp hlate hdue
      · intro h x hx hid _ hexp hlate _
        obtain rfl := hinv.keyed.eq_of_key hx hrep.mem_old hid
        exact h hexp hlate
    rw [hguard]
    cases hexp : expired q.now j with
    | false =>
      have hact : activeRunning q.now j = true := by
        rw [activeRunning_eq_not_expired hrow hs, hexp]; rfl
      exact iff_of_true (hq.replace_le hrep hspec fun _ => hact) (fun h => by cases h)
    | true =>
      have hidle : activeRunning q.now j = false := by
        rw [activeRunning_eq_not_expired hrow hs, hexp]; rfl
      by_cases hlate : q.now ≤ leaseDeadline q.now leaseSeconds
      · rw [withinRunningQuota_activate hq hrep hspec hidle (by rw [hrenewed]; simpa using hlate)]
        exact ⟨fun h _ _ => h, fun h => h rfl hlate⟩
      · refine iff_of_true (hq.replace_le hrep hspec fun h => ?_) (fun _ h => absurd h hlate)
        rw [hrenewed] at h
        exact absurd (of_decide_eq_true h) hlate
  | complete hown _ =>
    refine iff_of_true (hq.replace_le hrep hspec fun h => ?_) trivial
    rw [activeRunning_of_status (by simp [completed])] at h
    cases h
  | fail hown =>
    refine iff_of_true (hq.replace_le hrep hspec fun h => ?_) trivial
    rw [activeRunning_of_status (by simp only [failedOnce]; split <;> decide)] at h
    cases h
  | cancel _ =>
    refine iff_of_true (hq.replace_le hrep hspec fun h => ?_) trivial
    rw [activeRunning_of_status (by simp [cancelled])] at h
    cases h

/-- A renewal that raised revived nothing. -/
theorem renewWithinQuota_of_error {q : Queue} (hk : Keyed EvaluationJob.jobId q.jobs) {op : Op}
    {e : StoreError} (h : (perform q op).1 = .error e) : RenewWithinQuota q op := by
  cases op with
  | renewJobLease jobId workerId leaseSeconds =>
    intro j hj hid hown _ _ hdue
    obtain ⟨x, hx⟩ := renewJobLease_ok hk hj hid hown hdue
    simp only [perform, hx] at h
    cases h
  | _ => trivial

/-- Time only takes leases out of the count. -/
theorem WithinRunningQuota.advance {q : Queue} (h : WithinRunningQuota q) (d : Nat) :
    WithinRunningQuota { q with now := q.now + d } := by
  have hactive : ∀ j : EvaluationJob, activeRunning (q.now + d) j = true →
      activeRunning q.now j = true := by
    intro j hj
    simp only [activeRunning, Bool.and_eq_true, Option.any_eq_true, decide_eq_true_eq] at hj ⊢
    obtain ⟨hs, t, ht, hle⟩ := hj
    exact ⟨hs, t, ht, le_trans (Int.le_add_of_nonneg_right (Int.natCast_nonneg d)) hle⟩
  have hcuda : ∀ j : EvaluationJob, activeRunningCuda (q.now + d) j = true →
      activeRunningCuda q.now j = true := by
    intro j hj
    obtain ⟨ha, hc⟩ := Bool.and_eq_true_iff.mp hj
    exact Bool.and_eq_true_iff.mpr ⟨hactive j ha, hc⟩
  intro quota hquota
  obtain ⟨hN, hM⟩ := h quota hquota
  exact ⟨fun n hn => (List.countP_mono_left fun j _ => hactive j).trans (hN n hn),
    fun m hm => (List.countP_mono_left fun j _ => hcuda j).trans (hM m hm)⟩

/-- **One step.**  From a state within the quota an operation stays within it exactly if it is
    not a renewal that outruns the quota. -/
theorem withinRunningQuota_step {q : Queue} (hinv : Invariant q) (hq : WithinRunningQuota q)
    (op : Op) : WithinRunningQuota (step q op) ↔ RenewWithinQuota q op := by
  have herror : ∀ e, (perform q op).1 = .error e → RenewWithinQuota q op :=
    fun e => renewWithinQuota_of_error hinv.keyed
  have heff := perform_effect hinv.keyed op
  generalize (perform q op).1 = r at herror heff
  generalize step q op = q' at heff
  cases heff with
  | raised e => exact iff_of_true hq (herror e rfl)
  | idle hop =>
    subst hop
    exact iff_of_true hq trivial
  | @enqueued _ _ _ j hop hfresh hnew =>
    subst hop
    refine iff_of_true (fun quota hquota => ?_) trivial
    have hidle : activeRunning q.now j = false :=
      activeRunning_of_status (by rw [hfresh.1]; decide)
    simpa [tenantQuotaUsage, List.countP_append, hidle, activeRunningCuda_of_inactive hidle]
      using hq quota hquota
  | changed hrep hch => exact hch.quota_iff hinv hq hrep
  | stored hop =>
    subst hop
    exact iff_of_true hq trivial
  | advanced hop =>
    subst hop
    exact iff_of_true (hq.advance _) trivial

/-- **Running quota.**  From an empty queue, the quota holds in every state of a run exactly if
    every renewal of the run that revives an expired lease finds the quota free. -/
theorem runningQuota_iff (now : Timestamp) (quota : TenantQuotaLimits) (runs : List UUID)
    (ops : List Op) :
    Throughout step WithinRunningQuota (emptyQueue now (some quota) runs) ops ↔
      Along step RenewWithinQuota (emptyQueue now (some quota) runs) ops := by
  refine throughout_iff_along step Invariant (fun q op h => invariant_step h op)
    (fun q op hinv hq => withinRunningQuota_step hinv hq op)
    (invariant_empty now (some quota) runs) ?_ ops
  intro _ _
  exact ⟨fun n _ => Nat.zero_le n, fun m _ => Nat.zero_le m⟩

/-! ## The run that breaks it -/

/-- One running job at a time, on a GPU or not. -/
def oneAtATime : TenantQuotaLimits := ⟨none, none, some 1, some 1, by decide⟩

/-- Worker `a` outlives its lease, worker `b` takes the freed place, `a`'s heartbeat comes. -/
def lateRenewal : List Op :=
  [.enqueueJob codingJob 1 0 0, .leaseJob "a" 60 none .scan, .advance 60000001,
    .enqueueJob { codingJob with priority := 1 } 2 60000001 60000001,
    .leaseJob "b" 60 none .scan, .renewJobLease 1 "a" 60]

/-- **Two jobs run under a quota of one**: the second was leased after the lease of the first had
    run out, and the late renewal revives the first. -/
theorem lateRenewal_breaks_quota :
    ¬ Throughout step WithinRunningQuota (emptyQueue 0 (some oneAtATime) []) lateRenewal := by
  intro h
  have hlast := throughout_iff_prefix.mp h lateRenewal [] (List.append_nil _).symm
  have hquota : (run step (emptyQueue 0 (some oneAtATime) []) lateRenewal).quota =
      some oneAtATime := by decide +kernel
  have hle := (hlast oneAtATime hquota).1 1 rfl
  have htwo : (tenantQuotaUsage (run step (emptyQueue 0 (some oneAtATime) [])
      lateRenewal)).activeRunningJobs = 2 := by decide +kernel
  omega

end AEControl.Jobs
