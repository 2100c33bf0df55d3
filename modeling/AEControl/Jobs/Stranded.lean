/-
  Stranded jobs: neither finished, nor running under a live lease, nor claimable.

  A claim spends an attempt when it is made, and the claim predicate wants one left.  So a job
  whose last attempt is leased has only its worker to finish it: once that lease has run out no
  claim takes the row again, and nothing moves it to `failed`.  No job is stranded throughout a
  run exactly if no lease on a last attempt runs out (`LastAttemptKept`).

  Structure of the proof:
  1. a claimable job is one that some worker is given, if it asks (`leaseJob_of_claimable`); so
     "claimable" is no empty promise;
  2. `accounted_iff`: a row is stranded exactly if it is running, expired and on its last attempt;
  3. no change of a row strands it (`RowChange.stranded_iff`), and the passing of time strands the
     rows whose last lease runs out in it (`noStranded_advance`);
  4. `noStranded_step` for one operation, `noStranded_iff` for runs.
-/
import AEControl.Jobs.Lifecycle

namespace AEControl.Jobs

open Runs Table

/-- Finished, running under an unexpired lease, or claimable. -/
def Accounted (now : Timestamp) (j : EvaluationJob) : Prop :=
  j.status.terminal = true ∨ activeRunning now j = true ∨ claimable now j = true

/-- Every job is accounted for. -/
def NoStranded (q : Queue) : Prop := ∀ j ∈ q.jobs, Accounted q.now j

/-- No lease on a last attempt runs out: not by the clock moving on, and not by a claim or a
    renewal that sets a deadline in the past. -/
def LastAttemptKept (q : Queue) : Op → Prop
  | .advance d => ∀ j ∈ q.jobs, j.maxAttempts ≤ j.attempts → activeRunning q.now j = true →
      activeRunning (q.now + d) j = true
  | .leaseJob workerId leaseSeconds capabilities plan =>
    leaseDeadline q.now leaseSeconds < q.now →
      representable (leaseDeadline q.now leaseSeconds) = true →
      runningQuotaFull q = false →
      ∀ j, nextClaim plan (Offer.ofCapabilities capabilities) workerId leaseSeconds q =
          .ok (some j) → j.attempts + 1 < j.maxAttempts
  | .renewJobLease jobId workerId leaseSeconds =>
    leaseDeadline q.now leaseSeconds < q.now →
      representable (leaseDeadline q.now leaseSeconds) = true →
      ∀ j ∈ q.jobs, j.jobId = jobId → leasedBy workerId j = true → j.attempts < j.maxAttempts
  | _ => True

/-! ## What claimable means for a worker -/

/-- A worker that meets the placement of a claimable job, while the quota is free, gets a job. -/
theorem leaseJob_of_claimable {q : Queue} (hk : Keyed EvaluationJob.jobId q.jobs)
    {j : EvaluationJob} (hj : j ∈ q.jobs) (hc : claimable q.now j = true) {workerId : String}
    {leaseSeconds : Int} {capabilities : Option WorkerCapabilities} (plan : ClaimPlan)
    (hfree : runningQuotaFull q = false)
    (hsend : claimParameters q.now (Offer.ofCapabilities capabilities) workerId leaseSeconds =
      .ok ())
    (hfit : gpuColumnsFit (Offer.ofCapabilities capabilities) = true)
    (hplace : placementAdmits (Offer.ofCapabilities capabilities) (cudaQuotaAvailable q) j = true)
    (hrep : representable (leaseDeadline q.now leaseSeconds) = true) :
    ∃ x, (leaseJob workerId leaseSeconds capabilities plan q).1 = .ok (some x) := by
  have hmem : j ∈ q.jobs.filter
      (claimPredicate q.now (Offer.ofCapabilities capabilities) (cudaQuotaAvailable q)) :=
    List.mem_filter.mpr ⟨hj, Bool.and_eq_true_iff.mpr ⟨hplace, hc⟩⟩
  have hrow : nextClaim plan (Offer.ofCapabilities capabilities) workerId leaseSeconds q =
      .ok (selectClaim (Offer.ofCapabilities capabilities) (cudaQuotaAvailable q) plan.tie q) :=
    claimStatement_ok.mpr ⟨hsend, by rw [hfit]; rfl, rfl⟩
  rcases leaseJob_cases hk workerId leaseSeconds capabilities plan with
    ⟨hfull, -⟩ | ⟨-, ⟨e, hbad, -⟩ | ⟨hnone, -⟩ | ⟨x, -, ⟨hbad, -⟩ | ⟨-, jobs', -, h⟩⟩⟩
  · rw [hfree] at hfull; cases hfull
  · rw [hrow] at hbad; cases hbad
  · have hnone := nextClaim_selects hnone
    rw [selectClaim, List.argmin_eq_none] at hnone
    rw [hnone] at hmem
    cases hmem
  · rw [hrep] at hbad; cases hbad
  · exact ⟨_, by rw [h]⟩

/-! ## Stranded rows -/

/-- A row is unaccounted for exactly if its last attempt is leased and the lease has expired. -/
theorem accounted_iff {now : Timestamp} {j : EvaluationJob} (h : RowInvariant j) :
    Accounted now j ↔ ¬ (expired now j = true ∧ j.maxAttempts ≤ j.attempts) := by
  unfold Accounted
  cases hs : j.status with
  | queued =>
    have hc : claimable now j = true := by
      simp [claimable, hs, (h.queued_budget hs).1]
    refine iff_of_true (Or.inr (Or.inr hc)) ?_
    rintro ⟨hexp, -⟩
    rw [expired_running hexp] at hs
    cases hs
  | running =>
    have hact : activeRunning now j = !expired now j := activeRunning_eq_not_expired h hs
    have hc : claimable now j = (decide (j.attempts < j.maxAttempts) && expired now j) := by
      simp [claimable, hs]
    rw [hact, hc]
    cases hexp : expired now j with
    | false => simp
    | true => simp [JobStatus.terminal]
  | completed | failed | cancelled =>
    refine iff_of_true (Or.inl rfl) ?_
    rintro ⟨hexp, -⟩
    rw [expired_running hexp] at hs
    cases hs

/-- Replacing a row keeps every job accounted for exactly if the new row is. -/
theorem noStranded_replace {q : Queue} {jobs' : List EvaluationJob} {j j' : EvaluationJob}
    (hq : NoStranded q) (hrep : Replaced q.jobs jobs' j j') :
    NoStranded { q with jobs := jobs' } ↔ Accounted q.now j' :=
  ⟨fun h => h j' hrep.mem_new, fun h => hrep.forall_mem hq h⟩

/-- A running row is stranded by a deadline in the past, if it has no attempt left. -/
theorem accounted_leased {now deadline : Timestamp} {j : EvaluationJob} (h : RowInvariant j)
    (hs : j.status = .running) (hd : j.leaseExpiresAt = some deadline) :
    Accounted now j ↔ (deadline < now → j.attempts < j.maxAttempts) := by
  rw [accounted_iff h]
  simp [expired, hs, hd]

/-! ## One step -/

theorem RowChange.stranded_iff {q : Queue} {op : Op} {j j' : EvaluationJob}
    {jobs' : List EvaluationJob} (hinv : Invariant q) (hq : NoStranded q)
    (hrep : Replaced q.jobs jobs' j j') (hch : RowChange q op j j') :
    NoStranded { q with jobs := jobs' } ↔ LastAttemptKept q op := by
  have hrow := (hinv.rows j hrep.mem_old).change hch
  rw [noStranded_replace hq hrep]
  -- only a lease and a renewal can be the last attempt
  cases hch with
  | lease hfree hclaim hdue =>
    rw [accounted_leased hrow rfl rfl]
    constructor
    · intro h hpast _ _ x hx
      obtain rfl := Option.some.inj (Except.ok.inj (hclaim.symm.trans hx))
      exact h hpast
    · intro h hpast
      exact h hpast hdue hfree j hclaim
  | renew hown hdue =>
    rw [accounted_leased hrow (leasedBy_running hown).1 rfl]
    constructor
    · intro h hpast _ x hx hid _
      obtain rfl := hinv.keyed.eq_of_key hx hrep.mem_old hid
      exact h hpast
    · intro h hpast
      exact h hpast hdue j hrep.mem_old rfl hown
  | complete _ _ => exact iff_of_true (Or.inl rfl) trivial
  | fail _ =>
    refine iff_of_true ((accounted_iff hrow).mpr fun ⟨hexp, _⟩ => ?_) trivial
    have := expired_running hexp
    simp only [failedOnce] at this
    split at this <;> cases this
  | cancel _ => exact iff_of_true (Or.inl rfl) trivial

/-- The clock strands exactly the last attempts whose lease it runs past. -/
theorem noStranded_advance {q : Queue} (hinv : Invariant q) (hq : NoStranded q) (d : Nat) :
    NoStranded { q with now := q.now + d } ↔ LastAttemptKept q (.advance d) := by
  have hd : q.now ≤ q.now + d := Int.le_add_of_nonneg_right (Int.natCast_nonneg d)
  refine forall₂_congr fun j hj => ?_
  have hrow := hinv.rows j hj
  show Accounted (q.now + d) j ↔ _
  rw [accounted_iff hrow]
  constructor
  · intro h hlast hact
    obtain ⟨hs, -⟩ : j.status = .running ∧ _ := by simpa [activeRunning] using hact
    rw [activeRunning_eq_not_expired hrow hs]
    cases hexp : expired (q.now + d) j with
    | false => rfl
    | true => exact absurd ⟨hexp, hlast⟩ h
  · rintro h ⟨hexp, hlast⟩
    have hs := expired_running hexp
    have hnot : expired q.now j = false := by
      by_contra hx
      exact (accounted_iff hrow).mp (hq j hj) ⟨by simpa using hx, hlast⟩
    have hact := h hlast (by rw [activeRunning_eq_not_expired hrow hs, hnot]; rfl)
    rw [activeRunning_eq_not_expired hrow hs, hexp] at hact
    cases hact

/-- An operation that raises, and a claim that finds nothing, touch no last attempt. -/
theorem lastAttemptKept_of_unchanged {q : Queue} (hk : Keyed EvaluationJob.jobId q.jobs) (op : Op)
    (hout : (∃ e, (perform q op).1 = .error e) ∨
      ∃ workerId leaseSeconds capabilities plan,
        op = .leaseJob workerId leaseSeconds capabilities plan ∧ (perform q op).1 = .ok none) :
    LastAttemptKept q op := by
  cases op with
  | leaseJob workerId leaseSeconds capabilities plan =>
    have hperform : (perform q (.leaseJob workerId leaseSeconds capabilities plan)).1 =
        (leaseJob workerId leaseSeconds capabilities plan q).1 := rfl
    rw [hperform] at hout
    intro _ hdue hfree j hclaim
    rcases leaseJob_cases hk workerId leaseSeconds capabilities plan with
      ⟨hfull, -⟩ | ⟨-, ⟨e, hbad, -⟩ | ⟨hnone, -⟩ | ⟨x, -, ⟨hbad, -⟩ | ⟨-, jobs', -, h⟩⟩⟩
    · rw [hfree] at hfull; cases hfull
    · rw [hclaim] at hbad; cases hbad
    · rw [hclaim] at hnone; cases hnone
    · rw [hdue] at hbad; cases hbad
    · rw [h] at hout
      rcases hout with ⟨e, he⟩ | ⟨_, _, _, _, _, hnone⟩
      · cases he
      · cases hnone
  | renewJobLease jobId workerId leaseSeconds =>
    intro _ hdue j hj hid hown
    obtain ⟨x, hx⟩ := renewJobLease_ok hk hj hid hown hdue
    rcases hout with ⟨e, he⟩ | ⟨_, _, _, _, h, -⟩
    · simp only [perform, hx] at he
      cases he
    · cases h
  | advance d =>
    rcases hout with ⟨e, he⟩ | ⟨_, _, _, _, h, -⟩
    · cases he
    · cases h
  | _ => trivial

/-- **One step.**  From a state without stranded jobs an operation strands none exactly if it
    lets no last attempt run out. -/
theorem noStranded_step {q : Queue} (hinv : Invariant q) (hq : NoStranded q) (op : Op) :
    NoStranded (step q op) ↔ LastAttemptKept q op := by
  have hkept := lastAttemptKept_of_unchanged hinv.keyed op
  have heff := perform_effect hinv.keyed op
  generalize (perform q op).1 = r at hkept heff
  generalize step q op = q' at heff
  cases heff with
  | raised e => exact iff_of_true hq (hkept (Or.inl ⟨e, rfl⟩))
  | idle hop => exact iff_of_true hq (hkept (Or.inr ⟨_, _, _, _, hop, rfl⟩))
  | @enqueued _ _ _ j hop hfresh hnew =>
    subst hop
    refine iff_of_true (fun x hx => ?_) trivial
    rcases List.mem_append.mp hx with hx | hx
    · exact hq x hx
    · obtain rfl := List.mem_singleton.mp hx
      refine (accounted_iff hfresh.rowInvariant).mpr fun ⟨hexp, _⟩ => ?_
      have hs := hfresh.1
      rw [expired_running hexp] at hs
      cases hs
  | changed hrep hch => exact hch.stranded_iff hinv hq hrep
  | stored hop =>
    subst hop
    exact iff_of_true hq trivial
  | @advanced d hop =>
    subst hop
    exact noStranded_advance hinv hq d

/-- **No stranded job.**  From an empty queue, every job is accounted for in every state of a run
    exactly if the run lets no last attempt run out. -/
theorem noStranded_iff (now : Timestamp) (quota : Option TenantQuotaLimits) (runs : List UUID)
    (ops : List Op) :
    Throughout step NoStranded (emptyQueue now quota runs) ops ↔
      Along step LastAttemptKept (emptyQueue now quota runs) ops :=
  throughout_iff_along step Invariant (fun _ op h => invariant_step h op)
    (fun _ op hinv hq => noStranded_step hinv hq op) (invariant_empty now quota runs)
    (fun _ hj => absurd hj List.not_mem_nil) ops

/-! ## The run that breaks it -/

/-- The worker dies on the only attempt. -/
def deadWorker : List Op :=
  [.enqueueJob { codingJob with maxAttempts := 1 } 1 0 0, .leaseJob "a" 60 none .scan,
    .advance 60000001]

/-- **The job stays in `running` for good**: its lease is over, no claim takes it without an attempt
    left, and nothing fails it. -/
theorem deadWorker_strands_job :
    ¬ Throughout step NoStranded (emptyQueue 0 none []) deadWorker := by
  intro h
  have hlast := throughout_iff_prefix.mp h deadWorker [] (List.append_nil _).symm
  have hlost : (run step (emptyQueue 0 none []) deadWorker).jobs.any (fun j =>
      j.status.terminal || activeRunning 60000001 j || claimable 60000001 j) = false := by
    decide +kernel
  have hnow : (run step (emptyQueue 0 none []) deadWorker).now = 60000001 := by decide +kernel
  have hone : (run step (emptyQueue 0 none []) deadWorker).jobs ≠ [] := by decide +kernel
  obtain ⟨j, hj⟩ := List.exists_mem_of_ne_nil _ hone
  have hbad := List.any_eq_false.mp hlost j hj
  rw [Bool.or_eq_true, Bool.or_eq_true, or_assoc] at hbad
  have := hlast j hj
  rw [hnow] at this
  exact hbad this

end AEControl.Jobs
