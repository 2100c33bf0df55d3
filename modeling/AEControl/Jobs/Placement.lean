/-
  Placement diagnostics (`placement.py`): why a worker can or cannot take a job, told from the
  models in Python, next to the claim predicate of `lease_job`, which asks PostgreSQL.

  Both compare the same columns, but Python refuses a device when a comparison that must fail
  holds, PostgreSQL admits it when one that must hold does.  On NaN the two would part: Python's
  comparisons with it are false, and PostgreSQL's order puts it on top.  No bound of `EvaluationJob`
  or `GpuDevice` lets a NaN through, so on finite capabilities the diagnosis is the claim's.

  Structure of the proof of `diagnosis_agrees`:
  1. `eligible_iff` and `claimAdmits_iff`: what each side asks, in the same words but for the test
     of a device;
  2. `gpuMatches_eq_gpuAdmits`: the two tests are the same function, by `not_pyLt_eq_sqlLe` for a
     bound from below and `not_pyLt_eq_sqlLe_bound` for one from above;
  3. `reasons_eq_nil_iff`: a worker is eligible when no reason was found.
-/
import Mathlib.Data.List.Sort
import AEControl.Jobs.Store

namespace AEControl.Jobs

/-! ## Records -/

/-- `WorkerRecord`. -/
structure WorkerRecord where
  workerId : String
  capabilities : WorkerCapabilities
  registeredAt : Timestamp
  lastSeenAt : Timestamp

/-- `WorkerPlacementDiagnostic`. -/
structure WorkerPlacementDiagnostic where
  workerId : String
  active : Bool
  eligible : Bool
  lastSeenAt : Timestamp
  reasons : List String

/-- `JobPlacementDiagnostic`. -/
structure JobPlacementDiagnostic where
  jobId : UUID
  jobStatus : JobStatus
  observedAt : Timestamp
  activeWorkerWindowSeconds : Int
  schedulable : Bool
  activeWorkers : Nat
  matchingWorkers : Nat
  blockers : List String
  workers : List WorkerPlacementDiagnostic

/-- How Python prints into the reasons: `repr` of a text or of `None`, and the `g` format. -/
structure Printer where
  repr : Option String → String
  general : Float64 → String

/-! ## The device test -/

/-- `_gpu_matches`. -/
def gpuMatches (j : EvaluationJob) (gpu : GpuDevice) : Bool :=
  j.requiredMigProfile.all (fun profile => gpu.migProfile = some profile) &&
    !(gpu.memoryTotalMb < j.minimumGpuMemoryMb : Bool) &&
    j.minimumCudaComputeCapability.all (fun minimum =>
      gpu.computeCapability.any fun compute => !compute.pyLt minimum) &&
    (j.minimumGpuMemoryAvailableMb = 0 || gpu.memoryUsedMb.any (fun used =>
      !(gpu.memoryTotalMb - used < j.minimumGpuMemoryAvailableMb : Bool))) &&
    j.maximumGpuUtilizationPercent.all (fun maximum =>
      gpu.utilizationPercent.any fun utilization => !maximum.pyLt utilization)

/-- The job asks nothing of a device: the first test of `_gpu_reasons`. -/
def unconstrained (j : EvaluationJob) : Bool :=
  j.minimumGpuMemoryMb = 0 && j.minimumCudaComputeCapability = none &&
    j.minimumGpuMemoryAvailableMb = 0 && j.maximumGpuUtilizationPercent = none &&
    j.requiredMigProfile = none

/-! ## Reasons -/

/-- `max(values)` of Python floats: a later value wins only when it is greater. -/
def pyMax : List Float64 → Option Float64
  | [] => none
  | v :: values => some (values.foldl (fun best x => if best.pyLt x then x else best) v)

/-- `min(values)` of Python floats. -/
def pyMin : List Float64 → Option Float64
  | [] => none
  | v :: values => some (values.foldl (fun best x => if x.pyLt best then x else best) v)

/-- `job.minimum_gpu_memory_available_mb > 0 or job.maximum_gpu_utilization_percent is not None`. -/
def loadConstrained (j : EvaluationJob) : Bool :=
  0 < j.minimumGpuMemoryAvailableMb || j.maximumGpuUtilizationPercent.isSome

/-- The reason for too little memory on every device. -/
def memoryReasons (j : EvaluationJob) (gpus : List GpuDevice) : List String :=
  let maximum := (gpus.map (·.memoryTotalMb)).foldl max 0
  if maximum < j.minimumGpuMemoryMb then
    ["GPU memory requires >= " ++ toString j.minimumGpuMemoryMb ++ " MiB, maximum is " ++
      toString maximum ++ " MiB"]
  else []

/-- The reason for the compute capability. -/
def computeReasons (p : Printer) (j : EvaluationJob) (gpus : List GpuDevice) : List String :=
  match j.minimumCudaComputeCapability, pyMax (gpus.filterMap (·.computeCapability)) with
  | none, _ => []
  | some _, none => ["GPU compute capability telemetry is unavailable"]
  | some minimum, some maximum =>
    if maximum.pyLt minimum then
      ["CUDA compute capability requires >= " ++ p.general minimum ++ ", maximum is " ++
        p.general maximum]
    else []

/-- The reason for the free memory. -/
def availableReasons (j : EvaluationJob) (gpus : List GpuDevice) : List String :=
  let available := gpus.filterMap fun gpu => gpu.memoryUsedMb.map (gpu.memoryTotalMb - ·)
  if j.minimumGpuMemoryAvailableMb = 0 then []
  else if available = [] then ["GPU free-memory telemetry is unavailable"]
  else if available.foldl max 0 < j.minimumGpuMemoryAvailableMb then
    ["GPU free memory requires >= " ++ toString j.minimumGpuMemoryAvailableMb ++
      " MiB, maximum is " ++ toString (available.foldl max 0) ++ " MiB"]
  else []

/-- The reason for the utilization. -/
def utilizationReasons (p : Printer) (j : EvaluationJob) (gpus : List GpuDevice) : List String :=
  match j.maximumGpuUtilizationPercent, pyMin (gpus.filterMap (·.utilizationPercent)) with
  | none, _ => []
  | some _, none => ["GPU utilization telemetry is unavailable"]
  | some maximum, some minimum =>
    if maximum.pyLt minimum then
      ["GPU utilization requires <= " ++ p.general maximum ++ "%, minimum is " ++
        p.general minimum ++ "%"]
    else []

/-- The reason for the MIG profile. -/
def migReasons (p : Printer) (j : EvaluationJob) (gpus : List GpuDevice) : List String :=
  let profiles := ((gpus.filterMap (·.migProfile)).map (·.val)).dedup.insertionSort (· ≤ ·)
  match j.requiredMigProfile with
  | none => []
  | some required =>
    if profiles = [] then ["MIG profile telemetry is unavailable"]
    else if profiles.contains required.val then []
    else ["MIG profile requires " ++ p.repr (some required.val) ++ ", available: " ++
      ", ".intercalate profiles]

/-- The reason given when no other one is. -/
def fallbackReason (j : EvaluationJob) : String :=
  if loadConstrained j then "no single GPU satisfies all capacity, compute, and load requirements"
  else "no single GPU satisfies all memory and compute requirements"

/-- `_gpu_reasons`. -/
def gpuReasons (p : Printer) (j : EvaluationJob) (gpus : List GpuDevice) : List String :=
  if unconstrained j then []
  else if gpus = [] then ["no GPU telemetry is available"]
  else if gpus.any (gpuMatches j) then []
  else
    let reasons := memoryReasons j gpus ++ computeReasons p j gpus ++ availableReasons j gpus ++
      utilizationReasons p j gpus ++ migReasons p j gpus
    if reasons = [] then [fallbackReason j] else reasons

/-- `required_accelerator.value`. -/
def acceleratorValue : Accelerator → String
  | .cpu => "cpu"
  | .cuda => "cuda"

/-- The reasons for the required labels. -/
def labelReasons (p : Printer) (labels required : Labels) : List String :=
  required.filterMap fun (key, value) =>
    if labels.lookup key = some value then none
    else some ("label " ++ key ++ " requires " ++ p.repr (some value) ++ ", found " ++
      p.repr (labels.lookup key))

/-- `_diagnose_worker`. -/
def diagnoseWorker (p : Printer) (j : EvaluationJob) (worker : WorkerRecord) (active : Bool) :
    WorkerPlacementDiagnostic :=
  let capabilities := worker.capabilities
  let reasons :=
    (if active then [] else ["worker heartbeat is stale"]) ++
    (if capabilities.accelerators.contains j.requiredAccelerator then []
      else ["missing " ++ acceleratorValue j.requiredAccelerator ++ " accelerator"]) ++
    labelReasons p capabilities.labels j.requiredLabels ++
    gpuReasons p j capabilities.gpus
  ⟨worker.workerId, active, reasons.isEmpty, worker.lastSeenAt, reasons⟩

/-- `diagnose_placement`, observed at `now`. -/
def diagnosePlacement (p : Printer) (j : EvaluationJob) (workers : List WorkerRecord)
    (now : Timestamp) (activeWithinSeconds : Int) :
    Except StoreError JobPlacementDiagnostic :=
  if activeWithinSeconds ≤ 0 then .error (.valueError "active worker window must be positive")
  else if !representable (now - activeWithinSeconds * 1000000) then .error .overflowError
  else
    let activeAfter := now - activeWithinSeconds * 1000000
    let diagnostics := workers.map fun worker =>
      diagnoseWorker p j worker (activeAfter ≤ worker.lastSeenAt)
    let activeWorkers := diagnostics.countP (·.active)
    let matchingWorkers := diagnostics.countP (·.eligible)
    let blockers :=
      (if j.status = .queued then []
        else ["job status is " ++ j.status.value ++ ", not queued"]) ++
      (if workers = [] then ["no workers are registered"]
        else if activeWorkers = 0 then ["no workers have an active heartbeat"]
        else if matchingWorkers = 0 then
          ["no active worker satisfies the placement requirements"]
        else [])
    .ok ⟨j.jobId, j.status, now, activeWithinSeconds,
      j.status = .queued && 0 < matchingWorkers, activeWorkers, matchingWorkers, blockers,
      diagnostics⟩

/-! ## What is asked of the diagnosis -/

/-- The memory sizes of a device are within SQL's `INTEGER`. -/
def DeviceFits (gpu : GpuDevice) : Prop :=
  gpu.memoryTotalMb ≤ 2147483647 ∧ ∀ used ∈ gpu.memoryUsedMb, used ≤ 2147483647

instance (gpu : GpuDevice) : Decidable (DeviceFits gpu) := inferInstanceAs (Decidable (_ ∧ _))

/-- PostgreSQL can read the worker's devices, and the claim's `WHERE` clause admits the job with the
    tenant's quota free. -/
def ClaimAdmits (now : Timestamp) (worker : WorkerRecord) (j : EvaluationJob) : Prop :=
  gpuProfilesAreJson (Offer.ofCapabilities (some worker.capabilities)) = true ∧
    gpuColumnsFit (Offer.ofCapabilities (some worker.capabilities)) = true ∧
    claimPredicate now (Offer.ofCapabilities (some worker.capabilities)) true j = true

instance (now : Timestamp) (worker : WorkerRecord) (j : EvaluationJob) :
    Decidable (ClaimAdmits now worker j) := inferInstanceAs (Decidable (_ ∧ _ ∧ _))

/-- The diagnosis of an active worker says what the claim would do, and why not if it would not. -/
structure DiagnosisAgrees (p : Printer) (now : Timestamp) (j : EvaluationJob)
    (worker : WorkerRecord) : Prop where
  eligible : (diagnoseWorker p j worker true).eligible = true ↔ ClaimAdmits now worker j
  reasons : (diagnoseWorker p j worker true).reasons = [] ↔
    (diagnoseWorker p j worker true).eligible = true

/-- Every `compute_capability` of the worker is unparsable or a finite number. -/
def ComputeFinite (worker : WorkerRecord) : Prop :=
  ∀ gpu ∈ worker.capabilities.gpus, ∀ c ∈ gpu.computeCapability, c.isFinite = true

instance (worker : WorkerRecord) : Decidable (ComputeFinite worker) :=
  inferInstanceAs (Decidable (∀ gpu ∈ worker.capabilities.gpus, _))

/-! ## When there are no reasons -/

theorem gpuReasons_eq_nil {p : Printer} {j : EvaluationJob} {gpus : List GpuDevice} :
    gpuReasons p j gpus = [] ↔ unconstrained j = true ∨ gpus.any (gpuMatches j) = true := by
  unfold gpuReasons
  by_cases hfree : unconstrained j = true
  · simp [hfree]
  · rw [if_neg hfree]
    cases gpus with
    | nil => simp [hfree]
    | cons gpu gpus =>
      rw [if_neg (List.cons_ne_nil _ _)]
      by_cases hany : (gpu :: gpus).any (gpuMatches j) = true
      · rw [if_pos hany]
        exact ⟨fun _ => Or.inr hany, fun _ => rfl⟩
      · rw [if_neg hany]
        -- the fallback reason fills an empty list
        constructor
        · intro h
          dsimp only at h
          split at h
          · cases h
          · rename_i hreasons
            exact absurd h hreasons
        · rintro (h | h)
          · exact absurd h hfree
          · exact absurd h hany

theorem labelReasons_eq_nil {p : Printer} {labels required : Labels} :
    labelReasons p labels required = [] ↔
      ∀ label ∈ required, labels.lookup label.1 = some label.2 := by
  unfold labelReasons
  rw [List.filterMap_eq_nil_iff]
  refine forall₂_congr fun label _ => ?_
  by_cases h : labels.lookup label.1 = some label.2
  · simp [h]
  · simp [h]

/-- An active worker is eligible when it has the accelerator, the labels and, where the job
    constrains the device, one that matches. -/
theorem eligible_iff {p : Printer} {j : EvaluationJob} {worker : WorkerRecord} :
    (diagnoseWorker p j worker true).eligible = true ↔
      j.requiredAccelerator ∈ worker.capabilities.accelerators ∧
      (∀ label ∈ j.requiredLabels, worker.capabilities.labels.lookup label.1 = some label.2) ∧
      (unconstrained j = true ∨ worker.capabilities.gpus.any (gpuMatches j) = true) := by
  show List.isEmpty _ = true ↔ _
  rw [List.isEmpty_iff, List.append_eq_nil_iff, List.append_eq_nil_iff, List.append_eq_nil_iff,
    gpuReasons_eq_nil, labelReasons_eq_nil, and_assoc, and_assoc]
  by_cases hacc : j.requiredAccelerator ∈ worker.capabilities.accelerators
  · simp [hacc]
  · simp [hacc]

theorem reasons_eq_nil_iff {p : Printer} {j : EvaluationJob} {worker : WorkerRecord}
    {active : Bool} : (diagnoseWorker p j worker active).reasons = [] ↔
      (diagnoseWorker p j worker active).eligible = true := List.isEmpty_iff.symm

/-! ## The two device tests -/

/-- On a finite measurement, a threshold other than NaN is met in Python's sense exactly when it is
    met in PostgreSQL's. -/
theorem not_pyLt_eq_sqlLe {v minimum : Float64} (hv : v.isFinite = true)
    (hmin : minimum ≠ .nan) : (!v.pyLt minimum) = minimum.sqlLe v := by
  cases v with
  | finite q =>
    cases minimum with
    | finite m =>
      by_cases h : q < m
      · simp [Float64.pyLt, Float64.sqlLe, h]
      · simp [Float64.pyLt, Float64.sqlLe, not_lt.mp h]
    | posInf => rfl
    | negInf => rfl
    | nan => exact absurd rfl hmin
  | posInf => cases hv
  | negInf => cases hv
  | nan => cases hv

/-- A bound from above is met in the same cases, NaN included. -/
theorem not_pyLt_eq_sqlLe_bound {v maximum : Float64} (hv : v.isFinite = true) :
    (!maximum.pyLt v) = v.sqlLe maximum := by
  cases v with
  | finite q =>
    cases maximum with
    | finite m =>
      by_cases h : m < q
      · simp [Float64.pyLt, Float64.sqlLe, h]
      · simp [Float64.pyLt, Float64.sqlLe, not_lt.mp h]
    | posInf => rfl
    | negInf => rfl
    | nan => rfl
  | posInf => cases hv
  | negInf => cases hv
  | nan => cases hv

theorem not_lt_eq_le (m n : Nat) : (!(decide (m < n))) = decide (n ≤ m) := by
  by_cases h : m < n
  · simp [h]
  · simp [h, not_lt.mp h]

/-- A job asks for no compute capability that is not a number. -/
theorem minimum_ne_nan {j : EvaluationJob} {minimum : Float64}
    (h : minimum ∈ j.minimumCudaComputeCapability) : minimum ≠ .nan := by
  rintro rfl
  have hbound := j.compute_ge _ h
  rw [Float64.not_pyLe_nan] at hbound
  cases hbound

/-- On finite capabilities the two device tests are the same. -/
theorem gpuMatches_eq_gpuAdmits {j : EvaluationJob} {gpu : GpuDevice}
    (hcompute : ∀ c ∈ gpu.computeCapability, c.isFinite = true) :
    gpuMatches j gpu = gpuAdmits j gpu := by
  have hmemory : ∀ m n : Nat, (!(decide (m < n))) = decide (n ≤ m) := not_lt_eq_le
  have hcap : (j.minimumCudaComputeCapability.all fun minimum =>
      gpu.computeCapability.any fun compute => !compute.pyLt minimum) =
      j.minimumCudaComputeCapability.all fun minimum =>
        gpu.computeCapability.any (minimum.sqlLe ·) := by
    cases hm : j.minimumCudaComputeCapability with
    | none => rfl
    | some minimum =>
      cases hc : gpu.computeCapability with
      | none => rfl
      | some compute =>
        exact not_pyLt_eq_sqlLe (hcompute compute hc) (minimum_ne_nan hm)
  have huse : (j.maximumGpuUtilizationPercent.all fun maximum =>
      gpu.utilizationPercent.any fun utilization => !maximum.pyLt utilization) =
      j.maximumGpuUtilizationPercent.all fun maximum =>
        gpu.utilizationPercent.any (·.sqlLe maximum) := by
    cases hm : j.maximumGpuUtilizationPercent with
    | none => rfl
    | some maximum =>
      cases hu : gpu.utilizationPercent with
      | none => rfl
      | some utilization =>
        exact not_pyLt_eq_sqlLe_bound (Float64.isFinite_of_range (gpu.utilization_range _ hu))
  unfold gpuMatches gpuAdmits
  rw [hcap, huse, hmemory]
  simp only [hmemory]
  -- the same conjuncts; Python tests the profile first
  ac_rfl

/-! ## Agreement -/

theorem claimAdmits_iff {now : Timestamp} {j : EvaluationJob} {worker : WorkerRecord}
    (hstatus : j.status = .queued) (hattempts : j.attempts < j.maxAttempts)
    (hcompute : ComputeFinite worker)
    (hmemory : ∀ gpu ∈ worker.capabilities.gpus, DeviceFits gpu) :
    ClaimAdmits now worker j ↔
      j.requiredAccelerator ∈ worker.capabilities.accelerators ∧
      (∀ label ∈ j.requiredLabels, worker.capabilities.labels.lookup label.1 = some label.2) ∧
      (unconstrained j = true ∨ worker.capabilities.gpus.any (gpuAdmits j) = true) := by
  have hclaimable : claimable now j = true := by simp [claimable, hstatus, hattempts]
  have hlabels : worker.capabilities.labels.contain j.requiredLabels = true ↔
      ∀ label ∈ j.requiredLabels, worker.capabilities.labels.lookup label.1 = some label.2 := by
    simp [Labels.contain]
  have hjson : gpuProfilesAreJson (Offer.ofCapabilities (some worker.capabilities)) = true := by
    refine List.all_eq_true.mpr fun gpu hgpu => ?_
    rw [Option.all_eq_true]
    exact hcompute gpu hgpu
  have hfit : gpuColumnsFit (Offer.ofCapabilities (some worker.capabilities)) = true := by
    refine List.all_eq_true.mpr fun gpu hgpu => ?_
    rw [Bool.and_eq_true, decide_eq_true_eq, Option.all_eq_true]
    exact ⟨(hmemory gpu hgpu).1, fun used hused => decide_eq_true ((hmemory gpu hgpu).2 used hused)⟩
  unfold ClaimAdmits claimPredicate
  rw [hclaimable, Bool.and_true, ← hlabels, and_iff_right hjson, and_iff_right hfit]
  show ((_ && _ && _) && (_ || _)) = true ↔ _
  simp only [Bool.and_eq_true, Bool.or_eq_true, Offer.ofCapabilities, List.contains_iff_mem, or_true,
    and_true, and_assoc, unconstrained, deviceFree]

/-- **The diagnosis agrees with the claim.**  For a queued job with attempts left and a worker whose
    capabilities are numbers the statement can read, the worker is eligible exactly if the `WHERE`
    clause admits the job, and there are reasons exactly if it is not. -/
theorem diagnosis_agrees (p : Printer) (now : Timestamp) (j : EvaluationJob)
    (worker : WorkerRecord) (hstatus : j.status = .queued)
    (hattempts : j.attempts < j.maxAttempts) (hcompute : ComputeFinite worker)
    (hmemory : ∀ gpu ∈ worker.capabilities.gpus, DeviceFits gpu) :
    DiagnosisAgrees p now j worker := by
  refine ⟨?_, reasons_eq_nil_iff⟩
  have hdevices : worker.capabilities.gpus.any (gpuMatches j) =
      worker.capabilities.gpus.any (gpuAdmits j) := by
    rw [Bool.eq_iff_iff, List.any_eq_true, List.any_eq_true]
    exact exists_congr fun gpu => and_congr_right fun hgpu => by
      rw [gpuMatches_eq_gpuAdmits (hcompute gpu hgpu)]
  rw [eligible_iff, claimAdmits_iff hstatus hattempts hcompute hmemory, hdevices]

/-- A CUDA job that asks for memory, free memory, a capability and an idle device. -/
def demandingJob : EvaluationJob where
  suitePath := "suites/coding.yaml"
  agentVersion := "deterministic-v1"
  priority := 0
  maxAttempts := 3
  requiredAccelerator := .cuda
  requiredLabels := [("zone", "a")]
  minimumGpuMemoryMb := 16384
  minimumCudaComputeCapability := some (.finite 8)
  minimumGpuMemoryAvailableMb := 8192
  maximumGpuUtilizationPercent := some (.finite 50)
  requiredMigProfile := none
  traceparent := none
  requestId := none
  priority_range := by decide
  attempts_range := by decide
  compute_ge := by decide
  utilization_range := by decide
  gpu_needs_cuda := fun _ => rfl
  jobId := 0
  createdAt := 0
  updatedAt := 0

theorem half_busy : ∀ u ∈ some (Float64.finite 50),
    (Float64.finite 0).pyLe u = true ∧ u.pyLe (.finite 100) = true := by decide

/-- A worker with a device of which nothing is known but its memory, and one that just suffices. -/
def cudaWorker : WorkerRecord :=
  ⟨"worker", ⟨[.cpu, .cuda], [⟨24564, none, none, none, none, none_in_range⟩,
    ⟨16384, some 8192, some (.finite 8), some (.finite 50), none, half_busy⟩], [("zone", "a")]⟩, 0, 0⟩

theorem cudaWorker_finite : ComputeFinite cudaWorker := by decide

theorem cudaWorker_fits : ∀ gpu ∈ cudaWorker.capabilities.gpus, DeviceFits gpu := by decide

/-- Every bound of the job is met with equality by one device, and the claim admits it. -/
theorem diagnosis_agrees_sample :
    DiagnosisAgrees ⟨fun _ => "", fun _ => ""⟩ 0 demandingJob cudaWorker ∧
      ClaimAdmits 0 cudaWorker demandingJob :=
  ⟨diagnosis_agrees _ 0 _ _ rfl (by decide) cudaWorker_finite cudaWorker_fits, by decide⟩

end AEControl.Jobs
