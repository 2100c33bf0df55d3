/-
  The data model of the control plane (`models.py`, `tenants.py`), as far as the job queue reads
  it: identifiers and clocks, the exceptions store methods raise, floats as Python and PostgreSQL
  order them, worker capabilities, tenant quotas and the evaluation job.

  What pydantic validates is carried by the types: a `MigProfile`, a `Traceparent` and a `JobSpec`
  hold the proofs of their own field constraints, so a row read back from `evaluation_jobs`
  passes `EvaluationJob.model_validate` by being of its type.
-/
import Mathlib.Data.Rat.Defs
import Mathlib.Data.BitVec
import AEControl.Lib.Text

namespace AEControl

open Text

/-! ## Identifiers and clocks -/

/-- `uuid.UUID`: 128 bits. -/
abbrev UUID := BitVec 128

/-- `str(uuid)`: 32 hexadecimal digits grouped 8-4-4-4-12. -/
def UUID.str (u : UUID) : String :=
  let d := hexDigits 32 u.toNat
  String.ofList (d.take 8 ++ '-' :: ((d.drop 8).take 4 ++ '-' :: ((d.drop 12).take 4 ++
    '-' :: ((d.drop 16).take 4 ++ '-' :: d.drop 20))))

/-- An instant, in microseconds since the epoch (`TIMESTAMPTZ`, an aware `datetime`). -/
abbrev Timestamp := Int

/-- The instants a Python `datetime` can hold: years 1 to 9999. -/
def representable (t : Timestamp) : Bool :=
  -62135596800000000 ≤ t && t ≤ 253402300799999999

/-! ## Exceptions -/

/-- What a store method raises, with the text it raises where the code writes one. -/
inductive StoreError where
  | valueError (message : String)
  | runtimeError (message : String)
  | keyError (key : String)
  /-- pydantic's `ValidationError`, naming the constraint that failed. -/
  | validationError (field : String)
  /-- `TenantQuotaExceededError`. -/
  | tenantQuotaExceeded (quota : String) (limit observed : Nat)
  /-- psycopg's `UniqueViolation`. -/
  | uniqueViolation
  /-- psycopg's `ForeignKeyViolation`. -/
  | foreignKeyViolation
  /-- psycopg's `DataError`: a value PostgreSQL or the client library cannot hold. -/
  | dataError
  /-- `OverflowError`: an instant before year 1 or after year 9999. -/
  | overflowError
  deriving DecidableEq, Repr

/-! ## Texts -/

/-- A text PostgreSQL can hold, in a column or within JSON: one without NUL. -/
def isStorableText (s : String) : Bool := s.toList.all fun c => c.toNat ≠ 0

/-! ## Floats -/

/-- A Python float, equally a `DOUBLE PRECISION`: an exact value or one of the special ones. -/
inductive Float64 where
  | finite (value : ℚ)
  | posInf
  | negInf
  | nan
  deriving DecidableEq

namespace Float64

/-- Python's `x < y`: every comparison with NaN is false. -/
def pyLt : Float64 → Float64 → Bool
  | finite x, finite y => x < y
  | finite _, posInf => true
  | negInf, finite _ => true
  | negInf, posInf => true
  | _, _ => false

/-- Python's `x <= y`, as pydantic's `ge` and `le` ask it: a NaN is within no bounds. -/
def pyLe : Float64 → Float64 → Bool
  | nan, _ => false
  | _, nan => false
  | negInf, _ => true
  | _, posInf => true
  | finite x, finite y => x ≤ y
  | _, _ => false

/-- PostgreSQL's `x <= y` on `DOUBLE PRECISION`: a total order with NaN on top. -/
def sqlLe : Float64 → Float64 → Bool
  | _, nan => true
  | nan, _ => false
  | _, posInf => true
  | posInf, _ => false
  | negInf, _ => true
  | _, negInf => false
  | finite x, finite y => x ≤ y

/-- `math.isfinite`: what PostgreSQL accepts as a JSON number. -/
def isFinite : Float64 → Bool
  | finite _ => true
  | _ => false

/-- Python's `-x`. -/
def neg : Float64 → Float64
  | finite x => finite (-x)
  | posInf => negInf
  | negInf => posInf
  | nan => nan

/-- A natural number to 53 significant bits, ties to even. -/
def roundToDouble (n : Nat) : Nat :=
  let shift := n.log2 + 1 - 53
  let quotient := n / 2 ^ shift
  let remainder := n % 2 ^ shift
  let up := 2 ^ shift < 2 * remainder ∨ (2 ^ shift = 2 * remainder ∧ quotient % 2 = 1)
  (if up then quotient + 1 else quotient) * 2 ^ shift

/-- `float(n)` has no `OverflowError`: the rounded value is below `2 ** 1024`. -/
def fitsDouble (n : Int) : Bool := roundToDouble n.natAbs < 2 ^ 1024

/-- `float(n)` of a Python integer, which raises `OverflowError` beyond the largest double. -/
def ofInt (n : Int) : Except String Float64 :=
  if fitsDouble n then .ok (finite (n.sign * roundToDouble n.natAbs))
  else .error "int too large to convert to float"

@[simp] theorem pyLe_finite (p q : ℚ) : (finite p).pyLe (finite q) = decide (p ≤ q) := rfl

@[simp] theorem not_pyLe_nan (x : Float64) : x.pyLe nan = false := by cases x <;> rfl

@[simp] theorem not_nan_pyLe (x : Float64) : nan.pyLe x = false := by cases x <;> rfl

/-- Between two numbers there are numbers only. -/
theorem isFinite_of_range {p q : ℚ} {x : Float64}
    (h : (finite p).pyLe x = true ∧ x.pyLe (finite q) = true) : x.isFinite = true := by
  obtain ⟨hlow, hhigh⟩ := h
  cases x with
  | finite x => rfl
  | posInf => cases hhigh
  | negInf => cases hlow
  | nan => cases hlow

/-- What is at most `q` is below every bound `q` is below. -/
theorem pyLt_of_le {p q : ℚ} (hpq : p ≤ q) {bound : Float64}
    (h : (finite q).pyLt bound = true) : (finite p).pyLt bound = true := by
  cases bound with
  | finite b =>
    have hq : q < b := by simpa [pyLt] using h
    have hp : p < b := lt_of_le_of_lt hpq hq
    simpa [pyLt] using hp
  | posInf => rfl
  | negInf => cases h
  | nan => cases h

end Float64

/-! ## Enumerations -/

/-- `JobStatus`. -/
inductive JobStatus where
  | queued
  | running
  | completed
  | failed
  | cancelled
  deriving DecidableEq, Repr

namespace JobStatus

def value : JobStatus → String
  | queued => "queued"
  | running => "running"
  | completed => "completed"
  | failed => "failed"
  | cancelled => "cancelled"

/-- The final states of the job state machine. -/
def terminal : JobStatus → Bool
  | completed | failed | cancelled => true
  | queued | running => false

end JobStatus

/-- `Accelerator`. -/
inductive Accelerator where
  | cpu
  | cuda
  deriving DecidableEq, Repr

/-! ## MIG profiles and trace parents -/

/-- `[1-9][0-9]*` at the head of a text, and what follows it. -/
def takeNumber : List Char → Option (List Char)
  | c :: cs => if '1' ≤ c ∧ c ≤ '9' then some (cs.dropWhile Char.isDigit) else none
  | [] => none

/-- `[1-9][0-9]*g\.[1-9][0-9]*gb(?:\+me)?` up to the end of the text. -/
def isMigSlice (cs : List Char) : Bool :=
  match takeNumber cs with
  | some ('g' :: '.' :: memory) =>
    match takeNumber memory with
    | some ('g' :: 'b' :: suffix) => suffix = [] || suffix = ['+', 'm', 'e']
    | _ => false
  | _ => false

/-- `MIG_PROFILE_PATTERN`: an optional compute-instance part before the slice. -/
def isMigProfile (s : String) : Bool :=
  isMigSlice s.toList ||
    match takeNumber s.toList with
    | some ('c' :: '.' :: slice) => isMigSlice slice
    | _ => false

/-- A text that matches `MIG_PROFILE_PATTERN`. -/
abbrev MigProfile := { s : String // isMigProfile s = true }

/-- `normalize_mig_profile`. -/
def normalizeMigProfile (value : String) : Except StoreError MigProfile :=
  let profile := (strip value).toLower
  if h : isMigProfile profile = true then .ok ⟨profile, h⟩
  else .error (.validationError "required_mig_profile")

/-- A lower-case hexadecimal digit. -/
def isLowerHex (c : Char) : Bool := ('0' ≤ c && c ≤ '9') || ('a' ≤ c && c ≤ 'f')

/-- `^00-[0-9a-f]{32}-[0-9a-f]{16}-[0-9a-f]{2}$`. -/
def isTraceparent (s : String) : Bool :=
  let cs := s.toList
  let hexField := fun (start width : Nat) => ((cs.drop start).take width).all isLowerHex
  cs.length = 55 && cs.take 3 = ['0', '0', '-'] && hexField 3 32 && cs[35]? = some '-' &&
    hexField 36 16 && cs[52]? = some '-' && hexField 53 2

/-- A text that matches the `traceparent` pattern. -/
abbrev Traceparent := { s : String // isTraceparent s = true }

/-! ## Worker capabilities and tenant quotas -/

/-- `dict[str, str]`, in insertion order. -/
abbrev Labels := List (String × String)

/-- PostgreSQL's `labels @> required` on two string-valued JSON objects. -/
def Labels.contain (labels required : Labels) : Bool :=
  required.all fun (key, value) => labels.lookup key == some value

/-- `GpuDevice`, the part a lease sends to PostgreSQL.  `computeCapability` is what `float()` makes
    of the device's text, `none` where `float()` raises. -/
structure GpuDevice where
  memoryTotalMb : Nat
  memoryUsedMb : Option Nat
  computeCapability : Option Float64
  utilizationPercent : Option Float64
  migProfile : Option MigProfile
  utilization_range : ∀ u ∈ utilizationPercent,
    (Float64.finite 0).pyLe u = true ∧ u.pyLe (.finite 100) = true
  deriving DecidableEq

/-- Absent telemetry is within every range. -/
theorem none_in_range : ∀ u ∈ (none : Option Float64),
    (Float64.finite 0).pyLe u = true ∧ u.pyLe (.finite 100) = true :=
  fun _ h => absurd h (Option.not_mem_none _)

/-- `WorkerCapabilities`, the part a lease reads. -/
structure WorkerCapabilities where
  accelerators : List Accelerator
  gpus : List GpuDevice
  labels : Labels
  deriving DecidableEq

/-- `TenantQuotaLimits`: an omitted limit is unlimited. -/
structure TenantQuotaLimits where
  maxQueuedJobs : Option Nat
  maxJobsPerHour : Option Nat
  maxRunningJobs : Option Nat
  maxRunningCudaJobs : Option Nat
  /-- `cuda_limit_cannot_exceed_total`. -/
  cuda_le_total : ∀ n ∈ maxRunningJobs, ∀ m ∈ maxRunningCudaJobs, m ≤ n
  deriving DecidableEq

/-- Without a limit on the running jobs there is nothing to exceed. -/
theorem cuda_le_unlimited : ∀ n ∈ (none : Option Nat), ∀ m ∈ (none : Option Nat), m ≤ n :=
  fun _ h => absurd h (Option.not_mem_none _)

/-- `TenantQuotaUsage`. -/
structure TenantQuotaUsage where
  queuedJobs : Nat
  activeRunningJobs : Nat
  activeRunningCudaJobs : Nat
  jobsSubmittedLastHour : Nat
  measuredAt : Timestamp
  submissionWindowStartedAt : Timestamp
  deriving DecidableEq, Repr

/-! ## The evaluation job -/

/-- No capability asked for is at least 1. -/
theorem none_at_least_one : ∀ c ∈ (none : Option Float64), (Float64.finite 1).pyLe c = true :=
  fun _ h => absurd h (Option.not_mem_none _)

/-- The arguments of `enqueue_job`, unvalidated. -/
structure EnqueueRequest where
  suitePath : String
  agentVersion : String
  priority : Int := 0
  maxAttempts : Int := 3
  requiredAccelerator : Accelerator := .cpu
  requiredLabels : Labels := []
  minimumGpuMemoryMb : Int := 0
  minimumCudaComputeCapability : Option Float64 := none
  minimumGpuMemoryAvailableMb : Int := 0
  maximumGpuUtilizationPercent : Option Float64 := none
  requiredMigProfile : Option String := none
  traceparent : Option String := none
  requestId : Option String := none
  deriving DecidableEq

/-- The columns of an `EvaluationJob` that are set at admission and never updated, with the
    constraints `EvaluationJob` puts on them. -/
structure JobSpec where
  suitePath : String
  agentVersion : String
  priority : Int
  maxAttempts : Nat
  requiredAccelerator : Accelerator
  requiredLabels : Labels
  minimumGpuMemoryMb : Nat
  minimumCudaComputeCapability : Option Float64
  minimumGpuMemoryAvailableMb : Nat
  maximumGpuUtilizationPercent : Option Float64
  requiredMigProfile : Option MigProfile
  traceparent : Option Traceparent
  requestId : Option String
  priority_range : -100 ≤ priority ∧ priority ≤ 100
  attempts_range : 1 ≤ maxAttempts ∧ maxAttempts ≤ 10
  compute_ge : ∀ c ∈ minimumCudaComputeCapability, (Float64.finite 1).pyLe c = true
  utilization_range : ∀ u ∈ maximumGpuUtilizationPercent,
    (Float64.finite 0).pyLe u = true ∧ u.pyLe (.finite 100) = true
  /-- `gpu_constraints_require_cuda`. -/
  gpu_needs_cuda : (0 < minimumGpuMemoryMb ∨ minimumCudaComputeCapability ≠ none ∨
      0 < minimumGpuMemoryAvailableMb ∨ maximumGpuUtilizationPercent ≠ none ∨
      requiredMigProfile ≠ none) → requiredAccelerator = .cuda
  deriving DecidableEq

/-- A row of `evaluation_jobs`. -/
structure EvaluationJob extends JobSpec where
  jobId : UUID
  status : JobStatus := .queued
  attempts : Nat := 0
  createdAt : Timestamp
  updatedAt : Timestamp
  startedAt : Option Timestamp := none
  leaseOwner : Option String := none
  leaseExpiresAt : Option Timestamp := none
  runId : Option UUID := none
  error : Option String := none
  deriving DecidableEq

/-- The `EvaluationJob` constructor's checks of the caller's arguments. -/
def JobSpec.ofRequest (r : EnqueueRequest) (labels : Labels) : Except StoreError JobSpec := do
  let mig ← match r.requiredMigProfile with
    | none => .ok none
    | some value => some <$> normalizeMigProfile value
  let trace ← match r.traceparent with
    | none => .ok none
    | some value =>
      if h : isTraceparent value = true then .ok (some ⟨value, h⟩)
      else .error (.validationError "traceparent")
  if hp : -100 ≤ r.priority ∧ r.priority ≤ 100 then
    if ha : 1 ≤ r.maxAttempts.toNat ∧ r.maxAttempts.toNat ≤ 10 then
      if r.minimumGpuMemoryMb < 0 then .error (.validationError "minimum_gpu_memory_mb")
      else if r.minimumGpuMemoryAvailableMb < 0 then
        .error (.validationError "minimum_gpu_memory_available_mb")
      else if hc : ∀ c ∈ r.minimumCudaComputeCapability, (Float64.finite 1).pyLe c = true then
        if hu : ∀ u ∈ r.maximumGpuUtilizationPercent,
            (Float64.finite 0).pyLe u = true ∧ u.pyLe (.finite 100) = true then
          if hg : (0 < r.minimumGpuMemoryMb.toNat ∨ r.minimumCudaComputeCapability ≠ none ∨
              0 < r.minimumGpuMemoryAvailableMb.toNat ∨ r.maximumGpuUtilizationPercent ≠ none ∨
              mig ≠ none) → r.requiredAccelerator = .cuda then
            .ok ⟨r.suitePath, r.agentVersion, r.priority, r.maxAttempts.toNat,
              r.requiredAccelerator, labels, r.minimumGpuMemoryMb.toNat,
              r.minimumCudaComputeCapability, r.minimumGpuMemoryAvailableMb.toNat,
              r.maximumGpuUtilizationPercent, mig, trace, r.requestId, hp, ha, hc, hu, hg⟩
          else .error (.validationError "GPU resource constraints require the cuda accelerator")
        else .error (.validationError "maximum_gpu_utilization_percent")
      else .error (.validationError "minimum_cuda_compute_capability")
    else .error (.validationError "max_attempts")
  else .error (.validationError "priority")

end AEControl
