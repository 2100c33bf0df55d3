/-
  The GPU capacity forecast (`capacity.py`): how many rounds clear the queue, and which jobs run
  in the first one.

  A round runs one job per worker, so `w` rounds offer every worker `w` times; the jobs can be
  cleared in `w` rounds when `_maximum_matching` over these slots leaves none out
  (`maximumMatching_full`).

  Structure of the proof:
  1. **the crux**, `minimumClearanceWaves_least`.  More rounds never hurt and one per job is enough,
     which is what the bisection stands on: `BoundsInv` says that the upper bound clears
     the jobs and nothing below the lower one does, and `BoundsInv.body` that a turn of the loop
     keeps it;
  2. `queueDiagnostics_spec`: the queue the forecast works on is the stored queued jobs with the
     workers that `diagnosePlacement` finds for each;
  3. `forecastGpuCapacity_run`: for distinct jobs and a positive window the forecast is made, and
     `ForecastRun` names what it went through;
  4. the forecast works on the names of jobs and workers; `ForecastRun.rounds_iff` carries the
     result over to the jobs and workers themselves;
  5. `ForecastRun.exact`: every queued job is in exactly one of the three classes, counted by its
     field.
-/
import Mathlib.Data.String.Basic
import AEControl.Lib.Except
import AEControl.Jobs.Matching
import AEControl.Jobs.Queries

namespace AEControl.Jobs

open Matching

/-! ## The waves -/

section Waves

variable {J W : Type} [DecidableEq J] [DecidableEq W]

/-- `worker_slots`: every eligible worker once a wave. -/
def workerSlots (eligibleWorkers : J → List W) (waves : ℕ) (jobId : J) : List (W × ℕ) :=
  (eligibleWorkers jobId).flatMap fun workerId => (List.range waves).map fun wave =>
    (workerId, wave)

/-- The body of `while lower < upper`. -/
def wavesBody (jobIds : List J) (eligibleWorkers : J → List W) :
    ℕ × ℕ → Option (ℕ × ℕ)
  | (lower, upper) => do
    let waves := (lower + upper) / 2
    let matching ← maximumMatching jobIds (workerSlots eligibleWorkers waves)
    pure (if matching.items.length = jobIds.length then (lower, waves) else (waves + 1, upper))

/-- `_minimum_clearance_waves`; `none` if it raises or does not end. -/
def minimumClearanceWaves (jobIds : List J) (eligibleWorkers : J → List W) : Option ℕ :=
  if jobIds = [] then some 0
  else (While.loop (fun bounds => bounds.1 < bounds.2) (wavesBody jobIds eligibleWorkers)
    jobIds.length (1, jobIds.length)).map Prod.fst

end Waves

/-! ## The forecast -/

/-- `GpuDurationEstimate`, with the bounds of its fields. -/
structure GpuDurationEstimate where
  migProfile : Option MigProfile
  sampleCount : ℕ
  averageSeconds : ℚ
  p90Seconds : ℚ
  sample_count_ge : 1 ≤ sampleCount
  average_seconds_gt : 0 < averageSeconds
  p90_seconds_gt : 0 < p90Seconds

/-- The `state` of a `GpuQueueJobForecast`. -/
inductive QueueState where
  | firstWave
  | deferred
  | blocked
  deriving DecidableEq

/-- `GpuQueueJobForecast`. -/
structure GpuQueueJobForecast where
  jobId : UUID
  agentVersion : String
  priority : Int
  state : QueueState
  matchingWorkers : ℕ
  assignedWorkerId : Option String
  blockers : List String

/-- `estimate_confidence`. -/
inductive EstimateConfidence where
  | unavailable
  | low
  | high
  deriving DecidableEq

/-- `GpuCapacityForecast`. -/
structure GpuCapacityForecast where
  observedAt : Timestamp
  activeWorkerWindowSeconds : Int
  activeCudaWorkers : ℕ
  activeGpus : ℕ
  memoryTelemetryGpus : ℕ
  utilizationTelemetryGpus : ℕ
  totalGpuMemoryMb : ℕ
  availableGpuMemoryMb : ℕ
  averageGpuUtilizationPercent : Option Float64
  queuedCudaJobs : ℕ
  firstWaveJobs : ℕ
  deferredJobs : ℕ
  blockedJobs : ℕ
  minimumClearanceWaves : ℕ
  estimatedClearanceSeconds : Option ℚ
  estimateConfidence : EstimateConfidence
  durationEstimates : List GpuDurationEstimate
  jobs : List GpuQueueJobForecast

/-- `(-job.priority, job.created_at, str(job.job_id))`. -/
def queueKey (j : EvaluationJob) : ℤ ×ₗ ℤ ×ₗ String :=
  toLex (-j.priority, toLex (j.createdAt, j.jobId.str))

/-- `queued_jobs`. -/
def queuedJobs (jobs : List EvaluationJob) : List EvaluationJob :=
  (jobs.filter queuedCuda).insertionSort fun j j' => queueKey j ≤ queueKey j'

/-- `active_cuda_workers`. -/
def activeCudaRecords (workers : List WorkerRecord) (activeAfter : Timestamp) :
    List WorkerRecord :=
  (workers.filter fun worker =>
    activeAfter ≤ worker.lastSeenAt && worker.capabilities.accelerators.contains .cuda).insertionSort
      fun worker worker' => worker.workerId ≤ worker'.workerId

/-- `diagnostics`. -/
def queueDiagnostics (p : Printer) (queued : List EvaluationJob) (workers : List WorkerRecord)
    (observedAt : Timestamp) (activeWithinSeconds : Int) :
    Except StoreError (Dict UUID JobPlacementDiagnostic) :=
  Dict.ofPairs <$> queued.mapM fun job =>
    Prod.mk job.jobId <$> diagnosePlacement p job workers observedAt activeWithinSeconds

/-- `eligible_workers[job_id]`, for the job of a diagnostic. -/
def eligibleWorkers (diagnostics : Dict UUID JobPlacementDiagnostic) (jobId : UUID) :
    List String :=
  match diagnostics.get jobId with
  | none => []
  | some diagnostic =>
    (diagnostic.workers.filter fun item => item.active && item.eligible).map (·.workerId)

/-- `selected_estimates`, over the dictionary by profile. -/
def selectedEstimates (estimates : List GpuDurationEstimate) (compatible : List EvaluationJob) :
    List (Option GpuDurationEstimate) :=
  let estimatesByProfile := Dict.ofPairs (estimates.map fun item => (item.migProfile, item))
  compatible.map fun job => estimatesByProfile.get job.requiredMigProfile

/-- `has_complete_history`. -/
def hasCompleteHistory (selected : List (Option GpuDurationEstimate)) : Bool :=
  !selected.isEmpty && selected.all Option.isSome

/-- `estimated_clearance_seconds`. -/
def estimatedClearanceSeconds (selected : List (Option GpuDurationEstimate)) (waves : ℕ) :
    Option ℚ :=
  if hasCompleteHistory selected then
    ((selected.filterMap fun item => item.map (·.p90Seconds)).max?).map (· * waves)
  else none

/-- `estimate_confidence`. -/
def estimateConfidence (selected : List (Option GpuDurationEstimate)) : EstimateConfidence :=
  if hasCompleteHistory selected then
    if ((selected.filterMap fun item => item.map (·.sampleCount)).min?).any (10 ≤ ·) then .high
    else .low
  else .unavailable

/-- One entry of `job_forecasts`. -/
def jobForecast (diagnostics : Dict UUID JobPlacementDiagnostic) (firstWave : Dict UUID String)
    (job : EvaluationJob) : GpuQueueJobForecast :=
  let eligible := eligibleWorkers diagnostics job.jobId
  let assignedWorker := firstWave.get job.jobId
  let state : QueueState :=
    if eligible = [] then .blocked else if assignedWorker = none then .deferred else .firstWave
  { jobId := job.jobId
    agentVersion := job.agentVersion
    priority := job.priority
    state
    matchingWorkers := eligible.length
    assignedWorkerId := assignedWorker
    blockers := if state = .blocked then
        ((diagnostics.get job.jobId).map (·.blockers)).getD []
      else [] }

/-- `forecast_gpu_capacity`, observed at `observedAt`; `mean` is `sum(utilization) /
    len(utilization)` in floating point.  `.ok none` if a matching raises or does not end. -/
def forecastGpuCapacity (p : Printer) (mean : List Float64 → Float64) (jobs : List EvaluationJob)
    (workers : List WorkerRecord) (observedAt : Timestamp) (activeWithinSeconds : Int)
    (estimates : List GpuDurationEstimate) : Except StoreError (Option GpuCapacityForecast) :=
  if activeWithinSeconds ≤ 0 then .error (.valueError "active worker window must be positive")
  else if !representable (observedAt - activeWithinSeconds * 1000000) then .error .overflowError
  else do
    let activeAfter := observedAt - activeWithinSeconds * 1000000
    let active := activeCudaRecords workers activeAfter
    let queued := queuedJobs jobs
    let diagnostics ← queueDiagnostics p queued workers observedAt activeWithinSeconds
    let compatible := queued.filter fun job => eligibleWorkers diagnostics job.jobId ≠ []
    let compatibleIds := compatible.map (·.jobId)
    let selected := selectedEstimates estimates compatible
    let gpus := active.flatMap (·.capabilities.gpus)
    let utilization := gpus.filterMap (·.utilizationPercent)
    .ok do
      let firstWave ← maximumMatching compatibleIds (eligibleWorkers diagnostics)
      let waves ← minimumClearanceWaves compatibleIds (eligibleWorkers diagnostics)
      let jobForecasts := queued.map (jobForecast diagnostics firstWave)
      pure {
        observedAt
        activeWorkerWindowSeconds := activeWithinSeconds
        activeCudaWorkers := active.length
        activeGpus := gpus.length
        memoryTelemetryGpus := gpus.countP (·.memoryUsedMb.isSome)
        utilizationTelemetryGpus := utilization.length
        totalGpuMemoryMb := (gpus.map (·.memoryTotalMb)).sum
        availableGpuMemoryMb :=
          (gpus.filterMap fun gpu => gpu.memoryUsedMb.map (gpu.memoryTotalMb - ·)).sum
        averageGpuUtilizationPercent := if utilization = [] then none else some (mean utilization)
        queuedCudaJobs := queued.length
        firstWaveJobs := firstWave.items.length
        deferredJobs := jobForecasts.countP (·.state = .deferred)
        blockedJobs := jobForecasts.countP (·.state = .blocked)
        minimumClearanceWaves := waves
        estimatedClearanceSeconds := estimatedClearanceSeconds selected waves
        estimateConfidence := estimateConfidence selected
        durationEstimates := estimates
        jobs := jobForecasts }

/-! ## The bisection -/

section Bisection

variable {J W : Type} [DecidableEq J] [DecidableEq W]

omit [DecidableEq J] [DecidableEq W] in
theorem eligible_workerSlots {eligible : J → List W} {waves : ℕ} :
    Eligible (workerSlots eligible waves) = InRounds (Eligible eligible) waves := by
  funext j slot
  obtain ⟨worker, wave⟩ := slot
  unfold Eligible workerSlots InRounds
  rw [List.mem_flatMap]
  refine propext ⟨?_, ?_⟩
  · rintro ⟨x, hx, hslot⟩
    obtain ⟨i, hi, he⟩ := List.mem_map.mp hslot
    obtain ⟨rfl, rfl⟩ := Prod.mk.inj he
    exact ⟨hx, List.mem_range.mp hi⟩
  · rintro ⟨hworker, hwave⟩
    exact ⟨worker, hworker, List.mem_map.mpr ⟨wave, List.mem_range.mpr hwave, rfl⟩⟩

/-- The bounds of the bisection: the upper one is enough, nothing below the lower one is. -/
structure BoundsInv (eligible : J → List W) (jobIds : List J) (bounds : ℕ × ℕ) : Prop where
  le : bounds.1 ≤ bounds.2
  enough : Clearable (Eligible eligible) jobIds bounds.2
  short : ∀ w < bounds.1, ¬ Clearable (Eligible eligible) jobIds w

/-- One turn of the bisection. -/
theorem BoundsInv.body {eligible : J → List W} {jobIds : List J} (hnodup : jobIds.Nodup)
    {bounds : ℕ × ℕ} (h : BoundsInv eligible jobIds bounds)
    (hcond : decide (bounds.1 < bounds.2) = true) :
    ∃ bounds', wavesBody jobIds eligible bounds = some bounds' ∧
      BoundsInv eligible jobIds bounds' ∧ bounds'.2 - bounds'.1 < bounds.2 - bounds.1 := by
  obtain ⟨lower, upper⟩ := bounds
  have hlt : lower < upper := of_decide_eq_true hcond
  obtain ⟨m, hm, hfull⟩ :=
    maximumMatching_full hnodup (workerSlots eligible ((lower + upper) / 2))
  rw [eligible_workerSlots] at hfull
  have hbody : wavesBody jobIds eligible (lower, upper) =
      some (if m.items.length = jobIds.length then (lower, (lower + upper) / 2)
        else ((lower + upper) / 2 + 1, upper)) := by
    show Option.bind (maximumMatching _ _) _ = _
    rw [hm]
    rfl
  refine ⟨_, hbody, ?_⟩
  by_cases hlen : m.items.length = jobIds.length
  · rw [if_pos hlen]
    refine ⟨⟨?_, hfull.mp hlen, h.short⟩, ?_⟩
    · show lower ≤ (lower + upper) / 2
      omega
    · show (lower + upper) / 2 - lower < upper - lower
      omega
  · rw [if_neg hlen]
    refine ⟨⟨?_, h.enough, ?_⟩, ?_⟩
    · show (lower + upper) / 2 + 1 ≤ upper
      omega
    · -- what is not enough in the middle is not enough below it
      intro w hw hclear
      have hle : w ≤ (lower + upper) / 2 := by
        have : w < (lower + upper) / 2 + 1 := hw
        omega
      exact hlen (hfull.mpr (hclear.mono hle))
    · show upper - ((lower + upper) / 2 + 1) < upper - lower
      omega

/-- **Minimal waves.**  For distinct jobs that each have a worker, the bisection ends with the
    least number of waves that clears them. -/
theorem minimumClearanceWaves_least {jobIds : List J} (hnodup : jobIds.Nodup)
    {eligible : J → List W} (hworker : ∀ j ∈ jobIds, eligible j ≠ []) :
    ∃ w, minimumClearanceWaves jobIds eligible = some w ∧
      IsLeast {w | Clearable (Eligible eligible) jobIds w} w := by
  by_cases hempty : jobIds = []
  · refine ⟨0, by rw [minimumClearanceWaves, if_pos hempty], ?_⟩
    exact ⟨clearable_zero.mpr hempty, fun w _ => Nat.zero_le w⟩
  · have hsome : ∀ j ∈ jobIds, ∃ worker, Eligible eligible j worker := fun j hj =>
      List.exists_mem_of_ne_nil _ (hworker j hj)
    -- one wave is not too many for some jobs, and as many waves as jobs are enough
    have hstart : BoundsInv eligible jobIds (1, jobIds.length) := by
      refine ⟨List.length_pos_of_ne_nil hempty, clearable_length hnodup hsome, ?_⟩
      intro w hw hclear
      obtain rfl : w = 0 := by
        have : w < 1 := hw
        omega
      exact hempty (clearable_zero.mp hclear)
    obtain ⟨bounds, hloop, hinv, hdone⟩ :=
      While.loop_of_variant (BoundsInv eligible jobIds) (fun bounds => bounds.2 - bounds.1)
        (fun bounds hb hcond => hb.body hnodup hcond) hstart (Nat.sub_le _ _)
    have hle : ¬ bounds.1 < bounds.2 := of_decide_eq_false hdone
    have heq : bounds.1 = bounds.2 := by
      have := hinv.le
      omega
    refine ⟨bounds.1, by rw [minimumClearanceWaves, if_neg hempty, hloop]; rfl, ?_, ?_⟩
    · show Clearable (Eligible eligible) jobIds bounds.1
      rw [heq]
      exact hinv.enough
    · intro w hw
      by_contra hlt
      exact hinv.short w (Nat.lt_of_not_le hlt) hw

end Bisection

/-! ## What is asked of the forecast -/

/-- The worker has been seen lately and meets every requirement of the job. -/
def takes (activeAfter : Timestamp) (worker : WorkerRecord) (j : EvaluationJob) : Bool :=
  activeAfter ≤ worker.lastSeenAt &&
    worker.capabilities.accelerators.contains j.requiredAccelerator &&
    j.requiredLabels.all (fun label =>
      worker.capabilities.labels.lookup label.1 = some label.2) &&
    (unconstrained j || worker.capabilities.gpus.any (gpuMatches j))

/-- The queued CUDA jobs that some active worker can take. -/
def compatibleJobs (jobs : List EvaluationJob) (workers : List WorkerRecord)
    (activeAfter : Timestamp) : List EvaluationJob :=
  jobs.filter fun j => queuedCuda j && workers.any (takes activeAfter · j)

/-- A queued CUDA job, and an active worker that can take it. -/
def CanRun (jobs : List EvaluationJob) (workers : List WorkerRecord) (activeAfter : Timestamp)
    (j : EvaluationJob) (worker : WorkerRecord) : Prop :=
  (j ∈ jobs ∧ queuedCuda j = true) ∧ worker ∈ workers ∧ takes activeAfter worker j = true

/-- The waves and the classes of the forecast. -/
structure ForecastExact (jobs : List EvaluationJob) (workers : List WorkerRecord)
    (activeAfter : Timestamp) (f : GpuCapacityForecast) : Prop where
  /-- The fewest rounds that run every compatible job, one per worker per round. -/
  waves : IsLeast {w | Clearable (CanRun jobs workers activeAfter)
    (compatibleJobs jobs workers activeAfter) w} f.minimumClearanceWaves
  /-- Every queued CUDA job has one entry, and one state. -/
  entries : (f.jobs.map (·.jobId)).Perm ((jobs.filter queuedCuda).map (·.jobId))
  counts : f.firstWaveJobs = f.jobs.countP (·.state = .firstWave) ∧
    f.deferredJobs = f.jobs.countP (·.state = .deferred) ∧
    f.blockedJobs = f.jobs.countP (·.state = .blocked)
  sum : f.firstWaveJobs + f.deferredJobs + f.blockedJobs = f.queuedCudaJobs ∧
    f.queuedCudaJobs = jobs.countP queuedCuda
  /-- Blocked are the jobs that no active worker can take. -/
  blocked : ∀ entry ∈ f.jobs, ∀ j ∈ jobs, j.jobId = entry.jobId →
    (entry.state = .blocked ↔ ∀ worker ∈ workers, takes activeAfter worker j = false)

/-! ## The diagnostics of the queue -/

theorem queuedJobs_perm (jobs : List EvaluationJob) :
    (queuedJobs jobs).Perm (jobs.filter queuedCuda) := List.perm_insertionSort _ _

theorem mem_queuedJobs {jobs : List EvaluationJob} {j : EvaluationJob} :
    j ∈ queuedJobs jobs ↔ j ∈ jobs ∧ queuedCuda j = true := by
  rw [(queuedJobs_perm jobs).mem_iff, List.mem_filter]

/-- The diagnosis of a worker that has been seen lately, or not. -/
theorem diagnoseWorker_takes (p : Printer) (j : EvaluationJob) (worker : WorkerRecord)
    (activeAfter : Timestamp) :
    ((diagnoseWorker p j worker (activeAfter ≤ worker.lastSeenAt)).active &&
      (diagnoseWorker p j worker (activeAfter ≤ worker.lastSeenAt)).eligible) =
      takes activeAfter worker j := by
  show (decide (activeAfter ≤ worker.lastSeenAt) && _) = _
  by_cases hactive : activeAfter ≤ worker.lastSeenAt
  · have heligible : (diagnoseWorker p j worker true).eligible = true ↔ _ := eligible_iff
    rw [decide_eq_true hactive, Bool.true_and, Bool.eq_iff_iff, heligible]
    simp only [takes, hactive, decide_true, Bool.true_and, Bool.and_eq_true, Bool.or_eq_true,
      List.contains_iff_mem, List.all_eq_true, decide_eq_true_eq, and_assoc]
  · simp [takes, hactive]

/-- The diagnosis of a job says of every worker, by name, whether it can take it. -/
theorem diagnosePlacement_spec (p : Printer) (j : EvaluationJob) (workers : List WorkerRecord)
    (now : Timestamp) {activeWithinSeconds : Int} (hwindow : 0 < activeWithinSeconds)
    (hdate : representable (now - activeWithinSeconds * 1000000) = true) :
    ∃ diagnostic, diagnosePlacement p j workers now activeWithinSeconds = .ok diagnostic ∧
      (diagnostic.workers.filter fun item => item.active && item.eligible).map (·.workerId) =
        (workers.filter (takes (now - activeWithinSeconds * 1000000) · j)).map (·.workerId) := by
  refine ⟨_, by rw [diagnosePlacement, if_neg (not_le.mpr hwindow), hdate]; rfl, ?_⟩
  show ((workers.map _).filter _).map _ = _
  rw [List.filter_map, List.map_map]
  refine congrArg₂ List.map rfl (List.filter_congr fun worker _ => ?_)
  exact diagnoseWorker_takes p j worker _

/-- The diagnostics of distinct jobs: each is read back under its job's id. -/
theorem queueDiagnostics_spec (p : Printer) {queued : List EvaluationJob}
    (hids : (queued.map (·.jobId)).Nodup) (workers : List WorkerRecord) (now : Timestamp)
    {activeWithinSeconds : Int} (hwindow : 0 < activeWithinSeconds)
    (hdate : representable (now - activeWithinSeconds * 1000000) = true) :
    ∃ diagnostics, queueDiagnostics p queued workers now activeWithinSeconds = .ok diagnostics ∧
      (∀ j ∈ queued, eligibleWorkers diagnostics j.jobId =
        (workers.filter (takes (now - activeWithinSeconds * 1000000) · j)).map (·.workerId)) ∧
      ∀ jobId, eligibleWorkers diagnostics jobId ≠ [] → ∃ j ∈ queued, j.jobId = jobId := by
  choose diagnostic hdiagnostic heligible using fun j =>
    diagnosePlacement_spec p j workers now hwindow hdate
  -- distinct jobs: the dictionary holds one diagnosis for each
  have hpairs : ((queued.map fun j => (j.jobId, diagnostic j)).map Prod.fst).Nodup := by
    rw [List.map_map]
    exact hids
  have hitems := Dict.ofPairs_items hpairs
  refine ⟨Dict.ofPairs (queued.map fun j => (j.jobId, diagnostic j)), ?_, ?_, ?_⟩
  · have hmap : queued.mapM (fun job => Prod.mk job.jobId <$>
        diagnosePlacement p job workers now activeWithinSeconds) =
        .ok (queued.map fun j => (j.jobId, diagnostic j)) :=
      Raising.mapM_eq_map fun j _ => by rw [hdiagnostic j]; rfl
    rw [queueDiagnostics, hmap]
    rfl
  · intro j hj
    have hget : (Dict.ofPairs (queued.map fun j => (j.jobId, diagnostic j))).get j.jobId =
        some (diagnostic j) :=
      Dict.get_of_mem (by rw [hitems]; exact List.mem_map_of_mem hj)
    rw [eligibleWorkers, hget]
    exact heligible j
  · intro jobId hne
    unfold eligibleWorkers at hne
    split at hne
    · exact absurd rfl hne
    · rename_i diag hget
      have hmem := Dict.mem_of_get hget
      rw [hitems] at hmem
      obtain ⟨j, hj, he⟩ := List.mem_map.mp hmem
      exact ⟨j, hj, (Prod.mk.inj he).1⟩

/-! ## What the forecast went through -/

/-- `compatible_jobs`, in the order of the queue. -/
def queuedCompatible (jobs : List EvaluationJob) (workers : List WorkerRecord)
    (activeAfter : Timestamp) : List EvaluationJob :=
  (queuedJobs jobs).filter fun j => workers.any (takes activeAfter · j)

theorem queuedCompatible_perm (jobs : List EvaluationJob) (workers : List WorkerRecord)
    (activeAfter : Timestamp) :
    (queuedCompatible jobs workers activeAfter).Perm
      (compatibleJobs jobs workers activeAfter) := by
  have h := (queuedJobs_perm jobs).filter fun j => workers.any (takes activeAfter · j)
  rw [List.filter_filter] at h
  have hcomm : (jobs.filter fun j => workers.any (takes activeAfter · j) && queuedCuda j) =
      compatibleJobs jobs workers activeAfter :=
    List.filter_congr fun j _ => Bool.and_comm _ _
  rw [hcomm] at h
  exact h

/-- The parts of a forecast `f`: the matching of the first wave, and the dictionary of workers the
    matchings were made with. -/
structure ForecastRun (jobs : List EvaluationJob) (workers : List WorkerRecord)
    (activeAfter : Timestamp) (estimates : List GpuDurationEstimate)
    (diagnostics : Dict UUID JobPlacementDiagnostic) (firstWave : Dict UUID String)
    (f : GpuCapacityForecast) : Prop where
  eligible : ∀ j ∈ queuedJobs jobs, eligibleWorkers diagnostics j.jobId =
    (workers.filter (takes activeAfter · j)).map (·.workerId)
  known : ∀ jobId, eligibleWorkers diagnostics jobId ≠ [] →
    ∃ j ∈ queuedJobs jobs, j.jobId = jobId
  matched : maximumMatching ((queuedCompatible jobs workers activeAfter).map (·.jobId))
    (eligibleWorkers diagnostics) = some firstWave
  waves : IsLeast {w | Clearable (Eligible (eligibleWorkers diagnostics))
    ((queuedCompatible jobs workers activeAfter).map (·.jobId)) w} f.minimumClearanceWaves
  entries : f.jobs = (queuedJobs jobs).map (jobForecast diagnostics firstWave)
  firstWaveJobs : f.firstWaveJobs = firstWave.items.length
  deferredJobs : f.deferredJobs = f.jobs.countP (·.state = .deferred)
  blockedJobs : f.blockedJobs = f.jobs.countP (·.state = .blocked)
  queuedCudaJobs : f.queuedCudaJobs = (queuedJobs jobs).length
  estimate : f.estimatedClearanceSeconds = estimatedClearanceSeconds
    (selectedEstimates estimates (queuedCompatible jobs workers activeAfter))
    f.minimumClearanceWaves

theorem eligible_ne_nil {workers : List WorkerRecord} {activeAfter : Timestamp}
    {j : EvaluationJob} :
    (workers.filter (takes activeAfter · j)).map (·.workerId) ≠ [] ↔
      workers.any (takes activeAfter · j) = true := by
  rw [ne_eq, List.map_eq_nil_iff, List.filter_eq_nil_iff, List.any_eq_true]
  push Not
  exact Iff.rfl

theorem queued_ids_nodup {jobs : List EvaluationJob} (hjobs : (jobs.map (·.jobId)).Nodup) :
    ((queuedJobs jobs).map (·.jobId)).Nodup := by
  refine (((queuedJobs_perm jobs).map (·.jobId)).nodup_iff).mpr ?_
  exact hjobs.sublist (List.filter_sublist.map _)

/-- **The forecast is made**, for distinct jobs and a positive window that begins at a date. -/
theorem forecastGpuCapacity_run (p : Printer) (mean : List Float64 → Float64)
    {jobs : List EvaluationJob} (hjobs : (jobs.map (·.jobId)).Nodup)
    (workers : List WorkerRecord) (now : Timestamp) {window : Int} (hwindow : 0 < window)
    (hdate : representable (now - window * 1000000) = true)
    (estimates : List GpuDurationEstimate) :
    ∃ diagnostics firstWave f,
      forecastGpuCapacity p mean jobs workers now window estimates = .ok (some f) ∧
      ForecastRun jobs workers (now - window * 1000000) estimates diagnostics firstWave f := by
  have hids := queued_ids_nodup hjobs
  obtain ⟨diagnostics, hdiagnostics, heligible, hknown⟩ :=
    queueDiagnostics_spec p hids workers now hwindow hdate
  -- by the diagnostics a job is kept when some worker is eligible for it
  have hcompatible : ((queuedJobs jobs).filter fun job =>
      eligibleWorkers diagnostics job.jobId ≠ []) =
      queuedCompatible jobs workers (now - window * 1000000) := by
    refine List.filter_congr fun j hj => ?_
    rw [Bool.eq_iff_iff, decide_eq_true_eq, heligible j hj]
    exact eligible_ne_nil
  have hnodup : ((queuedCompatible jobs workers (now - window * 1000000)).map (·.jobId)).Nodup :=
    hids.sublist (List.filter_sublist.map _)
  have hworker : ∀ jobId ∈ (queuedCompatible jobs workers (now - window * 1000000)).map (·.jobId),
      eligibleWorkers diagnostics jobId ≠ [] := by
    intro jobId hjobId
    obtain ⟨j, hj, rfl⟩ := List.mem_map.mp hjobId
    obtain ⟨hqueued, hany⟩ := List.mem_filter.mp hj
    rw [heligible j hqueued]
    exact eligible_ne_nil.mpr hany
  -- both searches end: every job that is kept has a worker
  obtain ⟨o, hfirst, -⟩ := maximumMatching_spec hnodup (eligibleWorkers diagnostics)
  obtain ⟨w, hwaves, hleast⟩ := minimumClearanceWaves_least hnodup hworker
  refine ⟨diagnostics, o.jobToSlot, ?forecast, ?made, ?parts⟩
  case made =>
    rw [forecastGpuCapacity, if_neg (not_le.mpr hwindow), hdate]
    show Except.bind (queueDiagnostics _ _ _ _ _) _ = _
    rw [hdiagnostics]
    show Except.ok (Option.bind (maximumMatching _ _) _) = _
    rw [hcompatible, hfirst]
    show Except.ok (Option.bind (minimumClearanceWaves _ _) _) = _
    rw [hwaves]
    rfl
  case parts => exact ⟨heligible, hknown, hfirst, hleast, rfl, rfl, rfl, rfl, rfl, rfl⟩

/-! ## The rounds -/

section Run

variable {jobs : List EvaluationJob} {workers : List WorkerRecord} {activeAfter : Timestamp}
  {estimates : List GpuDurationEstimate} {diagnostics : Dict UUID JobPlacementDiagnostic}
  {firstWave : Dict UUID String} {f : GpuCapacityForecast}

/-- The eligible workers are the names of those that can run the job of that name. -/
theorem ForecastRun.eligible_named
    (h : ForecastRun jobs workers activeAfter estimates diagnostics firstWave f) :
    Eligible (eligibleWorkers diagnostics) =
      Named (·.jobId) (·.workerId) (CanRun jobs workers activeAfter) := by
  funext jobId workerId
  refine propext ⟨?_, ?_⟩
  · intro hmem
    have hmem : workerId ∈ eligibleWorkers diagnostics jobId := hmem
    obtain ⟨j, hj, rfl⟩ := h.known jobId (List.ne_nil_of_mem hmem)
    rw [h.eligible j hj] at hmem
    obtain ⟨worker, hworker, rfl⟩ := List.mem_map.mp hmem
    obtain ⟨hworker, htakes⟩ := List.mem_filter.mp hworker
    exact ⟨j, worker, rfl, rfl, mem_queuedJobs.mp hj, hworker, htakes⟩
  · rintro ⟨j, worker, rfl, rfl, hj, hworker, htakes⟩
    show worker.workerId ∈ eligibleWorkers diagnostics j.jobId
    rw [h.eligible j (mem_queuedJobs.mpr hj)]
    exact List.mem_map_of_mem (List.mem_filter.mpr ⟨hworker, htakes⟩)

/-- The rounds of the names are the rounds of the jobs and workers themselves. -/
theorem ForecastRun.rounds_iff
    (h : ForecastRun jobs workers activeAfter estimates diagnostics firstWave f)
    (hjobs : (jobs.map (·.jobId)).Nodup) (hworkers : (workers.map (·.workerId)).Nodup) (w : ℕ) :
    Clearable (Eligible (eligibleWorkers diagnostics))
        ((queuedCompatible jobs workers activeAfter).map (·.jobId)) w ↔
      Clearable (CanRun jobs workers activeAfter) (compatibleJobs jobs workers activeAfter) w := by
  have hperm := queuedCompatible_perm jobs workers activeAfter
  rw [h.eligible_named, clearable_named (A := (· ∈ jobs)) (B := (· ∈ workers))]
  · constructor
    · intro hclear
      exact Assignable.subset hclear fun j hj => hperm.mem_iff.mpr hj
    · intro hclear
      exact Assignable.subset hclear fun j hj => hperm.mem_iff.mp hj
  · intro j j' hj hj' he
    exact List.inj_on_of_nodup_map hjobs hj hj' he
  · intro worker worker' hworker hworker' he
    exact List.inj_on_of_nodup_map hworkers hworker hworker' he
  · intro j worker hcan
    exact ⟨hcan.1.1, hcan.2.1⟩
  · intro j hj
    exact (List.mem_filter.mp (hperm.mem_iff.mp hj)).1

theorem ForecastRun.waves_least
    (h : ForecastRun jobs workers activeAfter estimates diagnostics firstWave f)
    (hjobs : (jobs.map (·.jobId)).Nodup) (hworkers : (workers.map (·.workerId)).Nodup) :
    IsLeast {w | Clearable (CanRun jobs workers activeAfter)
      (compatibleJobs jobs workers activeAfter) w} f.minimumClearanceWaves := by
  have hset : {w | Clearable (CanRun jobs workers activeAfter)
      (compatibleJobs jobs workers activeAfter) w} =
      {w | Clearable (Eligible (eligibleWorkers diagnostics))
        ((queuedCompatible jobs workers activeAfter).map (·.jobId)) w} := by
    ext w
    exact (h.rounds_iff hjobs hworkers w).symm
  rw [hset]
  exact h.waves

/-! ## The classes -/

/-- Blocked: no worker is eligible. -/
theorem jobForecast_blocked {job : EvaluationJob} :
    (jobForecast diagnostics firstWave job).state = .blocked ↔
      eligibleWorkers diagnostics job.jobId = [] := by
  show (if _ then _ else if _ then _ else _ : QueueState) = _ ↔ _
  by_cases hnone : eligibleWorkers diagnostics job.jobId = []
  · simp [hnone]
  · rw [if_neg hnone]
    split_ifs <;> simp [hnone]

/-- In the first wave: matched.  A matched job has an eligible worker, its own. -/
theorem ForecastRun.firstWave_iff
    (h : ForecastRun jobs workers activeAfter estimates diagnostics firstWave f)
    (hjobs : (jobs.map (·.jobId)).Nodup) {job : EvaluationJob} :
    (jobForecast diagnostics firstWave job).state = .firstWave ↔
      job.jobId ∈ firstWave.keys := by
  have hnodup : ((queuedCompatible jobs workers activeAfter).map (·.jobId)).Nodup :=
    (queued_ids_nodup hjobs).sublist (List.filter_sublist.map _)
  obtain ⟨o, hm, hinv⟩ := maximumMatching_spec hnodup (eligibleWorkers diagnostics)
  obtain rfl : o.jobToSlot = firstWave := Option.some.inj (hm.symm.trans h.matched)
  show (if _ then _ else if _ then _ else _ : QueueState) = _ ↔ _
  cases hget : o.jobToSlot.get job.jobId with
  | none =>
    have hout := Dict.get_eq_none.mp hget
    rw [if_pos (rfl : (none : Option String) = none)]
    split_ifs <;> simp [hout]
  | some workerId =>
    have hmem := hinv.consistent.allowed _ _ hget
    rw [if_neg (List.ne_nil_of_mem hmem), if_neg (Option.some_ne_none _)]
    exact iff_of_true rfl (Dict.mem_keys_of_get hget)

/-- `first_wave_jobs`, the size of the matching, counts the entries of that state. -/
theorem ForecastRun.firstWave_count
    (h : ForecastRun jobs workers activeAfter estimates diagnostics firstWave f)
    (hjobs : (jobs.map (·.jobId)).Nodup) :
    f.firstWaveJobs = f.jobs.countP (·.state = .firstWave) := by
  have hids := queued_ids_nodup hjobs
  have hnodup : ((queuedCompatible jobs workers activeAfter).map (·.jobId)).Nodup :=
    hids.sublist (List.filter_sublist.map _)
  obtain ⟨o, hm, hinv⟩ := maximumMatching_spec hnodup (eligibleWorkers diagnostics)
  have ho : o.jobToSlot = firstWave := Option.some.inj (hm.symm.trans h.matched)
  -- the matched queued jobs, by id, are the keys of the matching
  have hperm : (((queuedJobs jobs).filter fun j => j.jobId ∈ firstWave.keys).map (·.jobId)).Perm
      firstWave.keys := by
    refine (List.perm_ext_iff_of_nodup (hids.sublist (List.filter_sublist.map _))
      firstWave.nodup).mpr fun jobId => ?_
    constructor
    · intro hmem
      obtain ⟨j, hj, rfl⟩ := List.mem_map.mp hmem
      exact of_decide_eq_true (List.mem_filter.mp hj).2
    · intro hmem
      have hcompatible := hinv.matched jobId (by rw [ho]; exact hmem)
      obtain ⟨j, hj, rfl⟩ := List.mem_map.mp hcompatible
      exact List.mem_map_of_mem
        (List.mem_filter.mpr ⟨(List.mem_filter.mp hj).1, decide_eq_true hmem⟩)
  have hcount : f.jobs.countP (·.state = .firstWave) =
      ((queuedJobs jobs).filter fun j => j.jobId ∈ firstWave.keys).length := by
    rw [h.entries, List.countP_map, List.countP_eq_length_filter]
    refine congrArg List.length (List.filter_congr fun j _ => ?_)
    exact decide_eq_decide.mpr (h.firstWave_iff hjobs)
  have hlength := hperm.length_eq
  rw [List.length_map] at hlength
  rw [h.firstWaveJobs, hcount, hlength]
  exact (List.length_map _).symm

/-- Every entry is in one of the three states. -/
theorem countP_states (entries : List GpuQueueJobForecast) :
    entries.countP (·.state = .firstWave) + entries.countP (·.state = .deferred) +
      entries.countP (·.state = .blocked) = entries.length := by
  induction entries with
  | nil => rfl
  | cons entry entries ih =>
    rw [List.countP_cons, List.countP_cons, List.countP_cons, List.length_cons]
    cases hstate : entry.state <;> simp <;> omega

/-- A forecast is exact. -/
theorem ForecastRun.exact
    (h : ForecastRun jobs workers activeAfter estimates diagnostics firstWave f)
    (hjobs : (jobs.map (·.jobId)).Nodup) (hworkers : (workers.map (·.workerId)).Nodup) :
    ForecastExact jobs workers activeAfter f where
  waves := h.waves_least hjobs hworkers
  entries := by
    rw [h.entries, List.map_map]
    exact (queuedJobs_perm jobs).map _
  counts := ⟨h.firstWave_count hjobs, h.deferredJobs, h.blockedJobs⟩
  sum := by
    have hstates := countP_states f.jobs
    have hlength : f.jobs.length = (queuedJobs jobs).length := by rw [h.entries, List.length_map]
    have hqueued : (queuedJobs jobs).length = jobs.countP queuedCuda := by
      rw [(queuedJobs_perm jobs).length_eq, List.countP_eq_length_filter]
    rw [h.firstWave_count hjobs, h.deferredJobs, h.blockedJobs, h.queuedCudaJobs]
    omega
  blocked := by
    intro entry hentry j hj hid
    rw [h.entries] at hentry
    obtain ⟨job, hjob, rfl⟩ := List.mem_map.mp hentry
    obtain rfl : j = job :=
      List.inj_on_of_nodup_map hjobs hj (mem_queuedJobs.mp hjob).1 hid
    rw [jobForecast_blocked, h.eligible j hjob, List.map_eq_nil_iff, List.filter_eq_nil_iff]
    exact forall₂_congr fun worker _ => by rw [Bool.not_eq_true]

end Run

/-- **Exact clearance waves.**  `_minimum_clearance_waves` ends with the fewest waves that give
    every job an eligible worker of its own in one of them; so the forecast's waves are the fewest
    rounds for the jobs some active worker can take, and its three classes partition the queue.  A
    window that begins before year 1 is refused. -/
theorem clearanceWaves_exact :
    (∀ (J W : Type) [DecidableEq J] [DecidableEq W] (jobIds : List J) (eligible : J → List W),
      jobIds.Nodup → (∀ j ∈ jobIds, eligible j ≠ []) →
      ∃ w, minimumClearanceWaves jobIds eligible = some w ∧
        Clearable (Eligible eligible) jobIds w ∧
        (∀ w' < w, ¬ Clearable (Eligible eligible) jobIds w') ∧ (w = 0 ↔ jobIds = [])) ∧
    ∀ (p : Printer) (mean : List Float64 → Float64) (jobs : List EvaluationJob)
      (workers : List WorkerRecord) (now : Timestamp) (window : Int)
      (estimates : List GpuDurationEstimate), (jobs.map (·.jobId)).Nodup →
      (workers.map (·.workerId)).Nodup → 0 < window →
      representable (now - window * 1000000) = true →
      ∃ f, forecastGpuCapacity p mean jobs workers now window estimates = .ok (some f) ∧
        ForecastExact jobs workers (now - window * 1000000) f := by
  constructor
  · intro J W _ _ jobIds eligible hnodup hworker
    obtain ⟨w, hw, hclear, hleast⟩ := minimumClearanceWaves_least hnodup hworker
    refine ⟨w, hw, hclear, ?_, ?_⟩
    · intro w' hlt hclear'
      exact absurd (hleast hclear') (Nat.not_le_of_lt hlt)
    · constructor
      · rintro rfl
        exact clearable_zero.mp hclear
      · rintro rfl
        exact Nat.le_zero.mp (hleast (clearable_zero.mpr rfl))
  · intro p mean jobs workers now window estimates hjobs hworkers hwindow hdate
    obtain ⟨_, _, f, hf, hrun⟩ :=
      forecastGpuCapacity_run p mean hjobs workers now hwindow hdate estimates
    exact ⟨f, hf, hrun.exact hjobs hworkers⟩

namespace Sample

theorem isMigProfile_large : isMigProfile "3g.40gb" = true := by decide

theorem isMigProfile_small : isMigProfile "1g.10gb" = true := by decide

def large : MigProfile := ⟨"3g.40gb", isMigProfile_large⟩

def small : MigProfile := ⟨"1g.10gb", isMigProfile_small⟩

/-- A queued CUDA job for a slice of a profile. -/
def migJob (jobId : UUID) (profile : MigProfile) : EvaluationJob :=
  { demandingJob with
    jobId := jobId
    requiredLabels := []
    requiredMigProfile := some profile
    minimumGpuMemoryMb := 0
    minimumGpuMemoryAvailableMb := 0
    minimumCudaComputeCapability := none
    maximumGpuUtilizationPercent := none
    compute_ge := none_at_least_one
    utilization_range := none_in_range
    gpu_needs_cuda := fun _ => rfl }

/-- A worker with a slice of each of the profiles. -/
def migWorker (workerId : String) (profiles : List MigProfile) : WorkerRecord :=
  ⟨workerId, ⟨[.cuda], profiles.map fun profile =>
    ⟨40960, none, none, none, some profile, none_in_range⟩, []⟩, 0, 0⟩

/-- Two jobs for large slices and one for a small one. -/
def migJobs : List EvaluationJob := [migJob 0 large, migJob 1 large, migJob 2 small]

/-- Only the first worker has a large slice; both have a small one. -/
def migWorkers : List WorkerRecord := [migWorker "a" [large, small], migWorker "b" [small]]

end Sample

/-- The two jobs for large slices take turns on the one worker that has one, and the third job does
    not lengthen that. -/
theorem clearanceWaves_exact_sample :
    (∃ w, minimumClearanceWaves [0, 1] (fun _ => ["a"]) = some w ∧
      Clearable (Eligible fun _ => ["a"]) [0, 1] w ∧
      (∀ w' < w, ¬ Clearable (Eligible fun _ => ["a"]) [0, 1] w') ∧
      (w = 0 ↔ ([0, 1] : List ℕ) = [])) ∧
    ∃ f, forecastGpuCapacity ⟨fun _ => "", fun _ => ""⟩ (fun _ => .finite 0)
        Sample.migJobs Sample.migWorkers 0 120 [] = .ok (some f) ∧
      ForecastExact Sample.migJobs Sample.migWorkers (0 - 120 * 1000000) f ∧
      f.minimumClearanceWaves = 2 ∧ f.firstWaveJobs = 2 ∧ f.deferredJobs = 1 := by
  refine ⟨clearanceWaves_exact.1 ℕ String [0, 1] _ (by decide) (by decide), ?_⟩
  obtain ⟨f, hf, hexact⟩ := clearanceWaves_exact.2 ⟨fun _ => "", fun _ => ""⟩ (fun _ => .finite 0)
    Sample.migJobs Sample.migWorkers 0 120 [] (by decide) (by decide) (by decide) (by decide)
  have hvalues : (forecastGpuCapacity ⟨fun _ => "", fun _ => ""⟩ (fun _ => .finite 0)
      Sample.migJobs Sample.migWorkers 0 120 []).toOption.join.map (fun f =>
        (f.minimumClearanceWaves, f.firstWaveJobs, f.deferredJobs)) = some (2, 2, 1) := by
    decide +kernel
  rw [hf] at hvalues
  simp only [Except.toOption, Option.join_some, Option.map_some, Option.some.injEq,
    Prod.mk.injEq] at hvalues
  exact ⟨f, hf, hexact, hvalues⟩

/-- One worker, two jobs: two waves. -/
example : minimumClearanceWaves [0, 1] (fun _ => ["a"]) = some 2 := by decide

end AEControl.Jobs
