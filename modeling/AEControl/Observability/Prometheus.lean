/-
  `render_prometheus` (`observability.py`): the metrics endpoint's text.

  Most label values are fixed words or numbers and written as they are; the texts that come from
  workers and devices are escaped (`escapeLabel`, three replacements one after the other).  The text
  is read back by any reader of the format (`scrape_reads_back`).

  Structure of the proof:
  1. the three replacements are the escaping of the format, character by character
     (`escapeLabel_eq`), and what needs none is written as it is (`escape_clean`);
  2. `Entry.sound` is what a line has to meet: a name that is one, escaped or clean label values, a
     value that ends no line.  A sound entry is a valid line (`Entry.valid_line`) and is written as
     that line (`Entry.text_line`);
  3. numbers are written with digits, a sign and a point, infinite ones with letters
     (`isRest_fixed`); numbers of a fixed precision are rounded half to even (`fixed_close`);
  4. `sound_entries` goes through the sections one by one, and the reader of `Lib/Exposition` reads
     every valid line back.
-/
import AEControl.Evaluation.Gate
import AEControl.Guardrails.Efficacy
import AEControl.Hardware.Dcgm
import AEControl.Jobs.Capacity
import AEControl.Jobs.Demand
import AEControl.Lib.Decimal
import AEControl.Lib.Exposition
import AEControl.Lib.Rounding

namespace AEControl.Observability

open Exposition Decimal Rounding
open Evaluation (GateOutcome)
open Guardrails (GuardrailEfficacyReport)
open Hardware (TelemetrySource)
open Jobs (GpuCapacityForecast GpuDemandForecast EstimateConfidence DemandConfidence)

/-! ## What is observed -/

/-- `OperationalSnapshot`. -/
structure OperationalSnapshot where
  runsTotal : ℕ
  comparisonsTotal : ℕ
  guardrailEvidenceTotal : ℕ
  guardrailInterventionsTotal : ℕ
  jobCounts : Dict String ℤ
  gateCounts : Dict String ℤ
  workersRegistered : ℕ
  workersActive : ℕ
  expiredLeases : ℕ
  oldestQueuedSeconds : Float64
  averageCompletedJobSeconds : Float64

/-- `DatabasePoolSnapshot`. -/
structure DatabasePoolSnapshot where
  minimum : ℤ
  maximum : ℤ
  size : ℤ
  available : ℤ
  waiting : ℤ

/-- `WorkerRecord`, with the devices as they are observed. -/
structure WorkerRecord where
  workerId : String
  lastSeenAt : Timestamp
  gpus : List Hardware.GpuDevice

/-- What of the interpreter's floats is used: `x / y` of two integers, `x / 100`, and
    `datetime.timestamp`. -/
structure Floats where
  truediv : ℤ → ℤ → Float64
  percent : Float64 → Float64
  timestamp : Timestamp → Float64

/-! ## Numbers -/

/-- `q` with six digits behind the point; the sign is `q`'s own. -/
def fixedLiteral (q : ℚ) : Literal :=
  { (Numeric.mk (roundHalfEven (|q| * 10 ^ 6)) 6).literal with negative := q < 0 }

/-- `f"{x:.6f}"`. -/
def fixed : Float64 → String
  | .finite q => String.ofList (fixedLiteral q).text
  | .posInf => "inf"
  | .negInf => "-inf"
  | .nan => "nan"

/-- `str` of an integer. -/
def str (n : ℤ) : String := n.repr

/-! ## Lines -/

/-- `value.replace(old, new)`, for one character. -/
def replace (old : Char) (new : List Char) (value : List Char) : List Char :=
  value.flatMap fun c => if c = old then new else [c]

/-- `_escape_label`. -/
def escapeLabel (value : String) : String :=
  String.ofList (replace '"' ['\\', '"'] (replace '\n' ['\\', 'n'] (replace '\\' ['\\', '\\']
    value.toList)))

/-- A label value, as it is or through `_escape_label`. -/
inductive LabelValue where
  | plain (value : String)
  | escaped (value : String)

namespace LabelValue

def value : LabelValue → String
  | plain value => value
  | escaped value => value

/-- What stands between the quotes. -/
def text : LabelValue → String
  | plain value => value
  | escaped value => escapeLabel value

end LabelValue

/-- A line; every metric is a gauge. -/
inductive Entry where
  | help (name text : String)
  | kind (name : String)
  | series (name : String) (labels : List (String × LabelValue)) (value : String)

namespace Entry

def text : Entry → List Char
  | help name text => helpText name text
  | kind name => kindText name "gauge"
  | series name labels value =>
    sampleText name (labels.map fun label => (label.1, label.2.text)) value

/-- What the line says. -/
def line : Entry → Line
  | help name text => .help name text
  | kind name => .kind name "gauge"
  | series name labels value =>
    .sample ⟨name, labels.map fun label => (label.1, label.2.value), value⟩

end Entry

/-- The two lines above a metric. -/
def header (name text : String) : List Entry := [.help name text, .kind name]

/-- A sample without labels. -/
def bare (name value : String) : Entry := .series name [] value

/-! ## The sections -/

/-- `list(JobStatus)`. -/
def jobStatuses : List JobStatus := [.queued, .running, .completed, .failed, .cancelled]

/-- `list(GateOutcome)`. -/
def gateOutcomes : List GateOutcome := [.pass, .warn, .block, .inconclusive]

def outcomeValue : GateOutcome → String
  | .pass => "PASS"
  | .warn => "WARN"
  | .block => "BLOCK"
  | .inconclusive => "INCONCLUSIVE"

def sourceValue : TelemetrySource → String
  | .nvidiaSmi => "nvidia-smi"
  | .dcgmExporter => "dcgm-exporter"
  | .unavailable => "unavailable"

def estimateValue : EstimateConfidence → String
  | .unavailable => "unavailable"
  | .low => "low"
  | .high => "high"

def demandValue : DemandConfidence → String
  | .unavailable => "unavailable"
  | .low => "low"
  | .high => "high"

/-- One sample for each level, one for the level that is. -/
def levels (name confidence : String) : List Entry :=
  ["unavailable", "low", "high"].map fun level =>
    .series name [("level", .plain level)] (str (if confidence = level then 1 else 0))

def snapshotEntries (snapshot : OperationalSnapshot) : List Entry :=
  header "aecontrol_runs_total" "Persisted evaluation runs." ++
  [bare "aecontrol_runs_total" (str snapshot.runsTotal)] ++
  header "aecontrol_comparisons_total" "Persisted run comparisons." ++
  [bare "aecontrol_comparisons_total" (str snapshot.comparisonsTotal)] ++
  header "aecontrol_guardrail_evidence_total" "Persisted NeMo Guardrails checks." ++
  [bare "aecontrol_guardrail_evidence_total" (str snapshot.guardrailEvidenceTotal)] ++
  header "aecontrol_guardrail_interventions_total"
    "Guardrails checks that changed the submitted text." ++
  [bare "aecontrol_guardrail_interventions_total" (str snapshot.guardrailInterventionsTotal)] ++
  header "aecontrol_jobs" "Evaluation jobs by lifecycle state." ++
  jobStatuses.map fun status => .series "aecontrol_jobs" [("status", .plain status.value)]
    (str ((snapshot.jobCounts.get status.value).getD 0))

def poolEntries (pool : DatabasePoolSnapshot) : List Entry :=
  header "aecontrol_database_pool_connections" "Database connections by pool state." ++
  [.series "aecontrol_database_pool_connections" [("state", .plain "size")] (str pool.size),
    .series "aecontrol_database_pool_connections" [("state", .plain "available")]
      (str pool.available)] ++
  header "aecontrol_database_pool_limit" "Configured database connection pool bounds." ++
  [.series "aecontrol_database_pool_limit" [("bound", .plain "minimum")] (str pool.minimum),
    .series "aecontrol_database_pool_limit" [("bound", .plain "maximum")] (str pool.maximum)] ++
  header "aecontrol_database_pool_waiting_requests"
    "Requests waiting for a database connection." ++
  [bare "aecontrol_database_pool_waiting_requests" (str pool.waiting)]

/-- `_ratio`. -/
def ratio (F : Floats) (numerator denominator : ℤ) : Float64 :=
  if denominator = 0 then .finite 0 else F.truediv numerator denominator

def efficacyEntries (F : Floats) (report : GuardrailEfficacyReport) : List Entry :=
  let correct := (report.versions.map fun item => item.truePositives + item.trueNegatives).sum
  let falsePositives := (report.versions.map (·.falsePositives)).sum
  let trueNegatives := (report.versions.map (·.trueNegatives)).sum
  header "aecontrol_guardrail_labeled_checks"
    "Guardrails checks carrying expected-action labels in the reporting window." ++
  [bare "aecontrol_guardrail_labeled_checks" (str report.labeledChecks)] ++
  header "aecontrol_guardrail_label_coverage"
    "Ratio of checks carrying expected-action labels in the reporting window." ++
  [bare "aecontrol_guardrail_label_coverage"
    (fixed (ratio F report.labeledChecks report.totalChecks))] ++
  (if report.labeledChecks = 0 then []
   else
    header "aecontrol_guardrail_policy_accuracy"
      "Correct expected-action decisions among labeled checks." ++
    [bare "aecontrol_guardrail_policy_accuracy" (fixed (ratio F correct report.labeledChecks))]) ++
  (if falsePositives + trueNegatives = 0 then []
   else
    header "aecontrol_guardrail_false_positive_rate"
      "Unexpected interventions among expected pass-through checks." ++
    [bare "aecontrol_guardrail_false_positive_rate"
      (fixed (ratio F falsePositives (falsePositives + trueNegatives)))])

def capacityEntries (forecast : GpuCapacityForecast) : List Entry :=
  header "aecontrol_gpu_queue_jobs" "CUDA jobs by forecast state." ++
  [.series "aecontrol_gpu_queue_jobs" [("state", .plain "first_wave")]
      (str forecast.firstWaveJobs),
    .series "aecontrol_gpu_queue_jobs" [("state", .plain "deferred")] (str forecast.deferredJobs),
    .series "aecontrol_gpu_queue_jobs" [("state", .plain "blocked")] (str forecast.blockedJobs)] ++
  header "aecontrol_gpu_queue_clearance_waves"
    "Minimum scheduling waves for compatible queued CUDA jobs." ++
  [bare "aecontrol_gpu_queue_clearance_waves" (str forecast.minimumClearanceWaves)] ++
  header "aecontrol_gpu_active_workers" "Active CUDA worker scheduling slots." ++
  [bare "aecontrol_gpu_active_workers" (str forecast.activeCudaWorkers)] ++
  header "aecontrol_gpu_queue_estimated_clearance_seconds"
    "Historical p90 estimate for compatible CUDA queue clearance." ++
  header "aecontrol_gpu_queue_estimate_confidence"
    "Historical queue estimate confidence by fixed level." ++
  (forecast.estimatedClearanceSeconds.toList.map fun seconds =>
    bare "aecontrol_gpu_queue_estimated_clearance_seconds" (fixed (.finite seconds))) ++
  levels "aecontrol_gpu_queue_estimate_confidence" (estimateValue forecast.estimateConfidence) ++
  header "aecontrol_gpu_job_duration_seconds"
    "Historical completed CUDA attempt duration by request class." ++
  header "aecontrol_gpu_job_duration_samples"
    "Completed CUDA attempts in each duration estimate." ++
  forecast.durationEstimates.flatMap fun estimate =>
    let profile := LabelValue.escaped ((estimate.migProfile.map Subtype.val).getD "all")
    [.series "aecontrol_gpu_job_duration_seconds"
        [("mig_profile", profile), ("quantile", .plain "average")]
        (fixed (.finite estimate.averageSeconds)),
      .series "aecontrol_gpu_job_duration_seconds"
        [("mig_profile", profile), ("quantile", .plain "p90")]
        (fixed (.finite estimate.p90Seconds)),
      .series "aecontrol_gpu_job_duration_samples" [("mig_profile", profile)]
        (str estimate.sampleCount)]

def demandEntries (forecast : GpuDemandForecast) : List Entry :=
  header "aecontrol_gpu_demand_predicted_arrivals"
    "Seasonal CUDA arrivals predicted over the forecast horizon." ++
  [bare "aecontrol_gpu_demand_predicted_arrivals" (fixed forecast.predictedCudaArrivals)] ++
  header "aecontrol_gpu_demand_capacity_ratio"
    "Projected GPU seconds divided by active worker capacity." ++
  header "aecontrol_gpu_demand_confidence"
    "Seasonal demand forecast confidence by fixed level." ++
  (forecast.projectedCapacityRatio.toList.map fun x =>
    bare "aecontrol_gpu_demand_capacity_ratio" (fixed x)) ++
  levels "aecontrol_gpu_demand_confidence" (demandValue forecast.confidence)

def gateEntries (snapshot : OperationalSnapshot) : List Entry :=
  header "aecontrol_gate_decisions" "Persisted gate decisions by outcome." ++
  (gateOutcomes.map fun outcome =>
    .series "aecontrol_gate_decisions" [("outcome", .plain (outcomeValue outcome))]
      (str ((snapshot.gateCounts.get (outcomeValue outcome)).getD 0))) ++
  [bare "aecontrol_workers_registered" (str snapshot.workersRegistered),
    bare "aecontrol_workers_active" (str snapshot.workersActive),
    bare "aecontrol_expired_leases" (str snapshot.expiredLeases),
    bare "aecontrol_oldest_queued_seconds" (fixed snapshot.oldestQueuedSeconds),
    bare "aecontrol_average_completed_job_seconds" (fixed snapshot.averageCompletedJobSeconds)]

def gpuHeaders : List Entry :=
  header "aecontrol_gpu_memory_total_bytes" "GPU framebuffer memory capacity." ++
  header "aecontrol_gpu_memory_used_bytes" "GPU framebuffer memory in use." ++
  header "aecontrol_gpu_memory_available_bytes" "GPU framebuffer memory currently available." ++
  header "aecontrol_gpu_utilization_ratio" "GPU utilization from zero to one." ++
  header "aecontrol_gpu_temperature_celsius" "GPU temperature in degrees Celsius." ++
  header "aecontrol_gpu_power_draw_watts" "GPU board power draw in watts." ++
  header "aecontrol_gpu_telemetry_timestamp_seconds"
    "Unix time of the worker telemetry sample."

/-- The labels of a device. -/
def gpuLabels (workerId : String) (gpu : Hardware.GpuDevice) : List (String × LabelValue) :=
  [("worker", .escaped workerId), ("gpu", .plain (str gpu.index)), ("uuid", .escaped gpu.uuid),
    ("name", .escaped gpu.name),
    ("partition", .plain (if gpu.migProfile.isSome then "mig" else "full")),
    ("mig_profile", .escaped ((gpu.migProfile.map Subtype.val).getD "")),
    ("telemetry_source", .plain (sourceValue gpu.telemetrySource))]

/-- Binary megabytes as bytes. -/
def megabytes (n : ℤ) : String := str (n * 1024 ^ 2)

def gpuEntries (F : Floats) (worker : WorkerRecord) (gpu : Hardware.GpuDevice) : List Entry :=
  let sample := fun name value => Entry.series name (gpuLabels worker.workerId gpu) value
  [sample "aecontrol_gpu_telemetry_timestamp_seconds" (fixed (F.timestamp worker.lastSeenAt)),
    sample "aecontrol_gpu_memory_total_bytes" (megabytes gpu.memoryTotalMb)] ++
  (gpu.memoryUsedMb.toList.flatMap fun used =>
    [sample "aecontrol_gpu_memory_used_bytes" (megabytes used),
      sample "aecontrol_gpu_memory_available_bytes"
        (megabytes (max 0 ((gpu.memoryTotalMb : ℤ) - used)))]) ++
  (gpu.utilizationPercent.toList.map fun x =>
    sample "aecontrol_gpu_utilization_ratio" (fixed (F.percent x))) ++
  (gpu.temperatureCelsius.toList.map fun x =>
    sample "aecontrol_gpu_temperature_celsius" (fixed x)) ++
  gpu.powerDrawWatts.toList.map fun x => sample "aecontrol_gpu_power_draw_watts" (fixed x)

/-- The lines, in order. -/
def entries (F : Floats) (snapshot : OperationalSnapshot) (workers : List WorkerRecord)
    (gpuCapacity : Option GpuCapacityForecast)
    (guardrailEfficacy : Option GuardrailEfficacyReport)
    (databasePool : Option DatabasePoolSnapshot) (gpuDemand : Option GpuDemandForecast) :
    List Entry :=
  snapshotEntries snapshot ++ databasePool.toList.flatMap poolEntries ++
    guardrailEfficacy.toList.flatMap (efficacyEntries F) ++
    gpuCapacity.toList.flatMap capacityEntries ++ gpuDemand.toList.flatMap demandEntries ++
    gateEntries snapshot ++ gpuHeaders ++
    workers.flatMap fun worker => worker.gpus.flatMap (gpuEntries F worker)

/-- `render_prometheus`. -/
def renderPrometheus (F : Floats) (snapshot : OperationalSnapshot) (workers : List WorkerRecord)
    (gpuCapacity : Option GpuCapacityForecast)
    (guardrailEfficacy : Option GuardrailEfficacyReport)
    (databasePool : Option DatabasePoolSnapshot) (gpuDemand : Option GpuDemandForecast) : String :=
  unlines ((entries F snapshot workers gpuCapacity guardrailEfficacy databasePool gpuDemand).map
    Entry.text)

/-! ## Escaping -/

/-- **The three replacements are the escaping of the format**, character by character: no
    replacement touches what an earlier one has put there. -/
theorem escapeLabel_eq (value : String) : escapeLabel value = escape value := by
  unfold escapeLabel escape replace
  rw [List.flatMap_assoc, List.flatMap_assoc]
  refine congrArg String.ofList (List.flatMap_congr fun c _ => ?_)
  by_cases hbackslash : c = '\\'
  · subst hbackslash
    decide
  by_cases hline : c = '\n'
  · subst hline
    decide
  by_cases hquote : c = '"'
  · subst hquote
    decide
  simp [escapeChar, hbackslash, hline, hquote]

/-- A text without a quote, a backslash or an end of line is its own escape. -/
def isClean (value : String) : Bool :=
  value.toList.all fun c => c ≠ '\\' && c ≠ '\n' && c ≠ '"'

/-- A text without the three characters is escaped as itself. -/
theorem escape_clean {value : String} (h : isClean value = true) : escape value = value := by
  have hchars : value.toList.flatMap escapeChar = value.toList.flatMap fun c => [c] := by
    refine List.flatMap_congr fun c hc => ?_
    have hclean := List.all_eq_true.mp h c hc
    simp only [ne_eq, Bool.and_eq_true, decide_eq_true_eq] at hclean
    simp [escapeChar, hclean]
  rw [escape, hchars, List.flatMap_singleton', String.ofList_toList]

/-! ## Every line is sound -/

/-- The value is written so that it is read back. -/
def LabelValue.sound : LabelValue → Bool
  | plain value => isClean value
  | escaped _ => true

/-- So is the line. -/
def Entry.sound : Entry → Bool
  | help name text => isName name && isRest text
  | kind name => isName name
  | series name labels value =>
    isName name && labels.all (fun label => isName label.1 && label.2.sound) && isRest value

/-- A sound label value is written as the format asks, escaped by the code or plain. -/
theorem LabelValue.text_eq {v : LabelValue} (h : v.sound = true) : v.text = escape v.value := by
  cases v with
  | plain value => exact (escape_clean h).symm
  | escaped value => exact escapeLabel_eq value

/-- A sound entry is a line that the format has. -/
theorem Entry.valid_line {e : Entry} (h : e.sound = true) : e.line.valid = true := by
  cases e with
  | help name text => exact h
  | kind name => exact Bool.and_eq_true_iff.mpr ⟨h, by decide⟩
  | series name labels value =>
    simp only [Entry.sound, Bool.and_eq_true, List.all_eq_true] at h
    simp only [Entry.line, Line.valid, Bool.and_eq_true, List.all_map, List.all_eq_true]
    exact ⟨⟨h.1.1, fun label hlabel => (h.1.2 label hlabel).1⟩, h.2⟩

/-- A sound entry is written as that line. -/
theorem Entry.text_line {e : Entry} (h : e.sound = true) : e.text = e.line.text := by
  cases e with
  | help name text => rfl
  | kind name => rfl
  | series name labels value =>
    simp only [Entry.sound, Bool.and_eq_true, List.all_eq_true] at h
    have hlabels : labels.map (fun label => (label.1, label.2.text)) =
        (labels.map fun label => (label.1, label.2.value)).map
          fun label => (label.1, escape label.2) := by
      rw [List.map_map]
      refine List.map_congr_left fun label hlabel => ?_
      exact congrArg (Prod.mk label.1) (LabelValue.text_eq (h.1.2 label hlabel).2)
    show sampleText name _ value = sampleText name _ value
    rw [hlabels]

/-! ## Numbers are written plainly -/

/-- What a decimal without an exponent is written with. -/
def isNumberChar (c : Char) : Bool := c.isDigit || c = '-' || c = '.'

/-- A literal without an exponent is written with digits, a sign and a point. -/
theorem isNumberChar_text {l : Literal} (hvalid : l.Valid) (hexponent : l.exponent = none)
    {c : Char} (hc : c ∈ l.text) : isNumberChar c = true := by
  unfold Literal.text at hc
  rw [hexponent, List.append_nil] at hc
  unfold isNumberChar
  rcases List.mem_append.mp hc with hc | hc
  · split_ifs at hc
    · simp [List.mem_singleton.mp hc]
    · cases hc
  rcases List.mem_append.mp hc with hc | hc
  · simp [hvalid.integer_digits c hc]
  split_ifs at hc
  · cases hc
  rcases List.mem_cons.mp hc with rfl | hc
  · decide
  · simp [hvalid.fraction_digits c hc]

/-- A character of a number is none of the others. -/
theorem ne_of_isNumberChar {c d : Char} (hc : isNumberChar c = true)
    (hd : isNumberChar d = false) : c ≠ d := by
  rintro rfl
  rw [hc] at hd
  cases hd

/-- A number ends no line. -/
theorem isRest_of_number {text : String} (h : ∀ c ∈ text.toList, isNumberChar c = true) :
    isRest text = true :=
  List.all_eq_true.mpr fun c hc => decide_eq_true (ne_of_isNumberChar (h c hc) (by decide))

/-- A number needs no escaping. -/
theorem isClean_of_number {text : String} (h : ∀ c ∈ text.toList, isNumberChar c = true) :
    isClean text = true := by
  refine List.all_eq_true.mpr fun c hc => ?_
  have hbackslash : c ≠ '\\' := ne_of_isNumberChar (h c hc) (by decide)
  have hline : c ≠ '\n' := ne_of_isNumberChar (h c hc) (by decide)
  have hquote : c ≠ '"' := ne_of_isNumberChar (h c hc) (by decide)
  simp [hbackslash, hline, hquote]

/-- An integer is written with digits and a sign. -/
theorem isNumberChar_str (n : ℤ) : ∀ c ∈ (str n).toList, isNumberChar c = true := by
  intro c hc
  rw [str, repr_eq_text] at hc
  exact isNumberChar_text (Numeric.literal_valid _) rfl hc

/-- An integer may be the value of a sample. -/
theorem isRest_str (n : ℤ) : isRest (str n) = true := isRest_of_number (isNumberChar_str n)

/-- An integer may be the value of a label. -/
theorem isClean_str (n : ℤ) : isClean (str n) = true := isClean_of_number (isNumberChar_str n)

/-- A rounded number is a decimal numeral: six digits behind the point. -/
theorem fixedLiteral_valid (q : ℚ) : (fixedLiteral q).Valid :=
  ⟨(Numeric.literal_valid _).integer_ne, (Numeric.literal_valid _).integer_digits,
    (Numeric.literal_valid _).fraction_digits⟩

/-- A rounded number may be the value of a sample, an infinite one too. -/
theorem isRest_fixed (x : Float64) : isRest (fixed x) = true := by
  cases x with
  | finite q =>
    refine isRest_of_number fun c hc => ?_
    rw [fixed, String.toList_ofList] at hc
    exact isNumberChar_text (fixedLiteral_valid q) rfl hc
  | _ => decide

/-- **The printed number is within half a unit of its last digit.** -/
theorem fixed_close (q : ℚ) :
    |(Decimal.read (fixedLiteral q).text).numeric.value - q| ≤ 1 / 2 / 10 ^ 6 := by
  let n := Numeric.mk (roundHalfEven (|q| * 10 ^ 6)) 6
  have hnonneg : 0 ≤ roundHalfEven (|q| * 10 ^ 6) := le_roundHalfEven (by positivity)
  have hclose := roundHalfEven_close (|q| * 10 ^ 6)
  have hnumeric : (fixedLiteral q).numeric =
      ⟨if q < 0 then -roundHalfEven (|q| * 10 ^ 6) else roundHalfEven (|q| * 10 ^ 6), 6⟩ := by
    have h := Numeric.numeric_literal n
    have hcoefficient := congrArg Numeric.coefficient h
    have hscale := congrArg Numeric.scale h
    have hnegative : n.literal.negative = false := decide_eq_false (not_lt.mpr hnonneg)
    unfold Literal.numeric at hcoefficient hscale
    simp only [hnegative, Bool.false_eq_true, if_false] at hcoefficient
    unfold Literal.numeric fixedLiteral
    ext
    · simp only [decide_eq_true_eq]
      rw [hcoefficient]
    · exact hscale
  rw [Decimal.read_text (fixedLiteral_valid q), hnumeric]
  unfold Numeric.value
  have hscaled : ∀ x : ℚ, |x - q * 10 ^ 6| ≤ 1 / 2 → |x / 10 ^ 6 - q| ≤ 1 / 2 / 10 ^ 6 := by
    intro x hx
    have hpow : (0 : ℚ) < 10 ^ 6 := by positivity
    have hdiv : x / 10 ^ 6 - q = (x - q * 10 ^ 6) / 10 ^ 6 := by
      rw [sub_div, mul_div_cancel_right₀ _ hpow.ne']
    rw [hdiv, abs_div, abs_of_pos hpow]
    exact div_le_div_of_nonneg_right hx hpow.le
  split_ifs with hneg
  · rw [abs_of_neg hneg] at hclose ⊢
    refine hscaled _ ?_
    rw [← abs_neg]
    push_cast
    rw [show -(-(roundHalfEven (-q * 10 ^ 6) : ℚ) - q * 10 ^ 6) =
      roundHalfEven (-q * 10 ^ 6) - -q * 10 ^ 6 by ring]
    exact hclose
  · rw [abs_of_nonneg (not_lt.mp hneg)] at hclose ⊢
    exact hscaled _ hclose

/-! ## The sections are sound -/

/-- The entries of the jobs are sound: their words are fixed, their numbers are numbers. -/
theorem sound_snapshotEntries (snapshot : OperationalSnapshot) :
    (snapshotEntries snapshot).all Entry.sound = true := by
  simp only [snapshotEntries, header, bare, jobStatuses, List.map_cons, List.map_nil,
    List.all_append, List.all_cons, List.all_nil, Entry.sound, LabelValue.sound, isRest_str,
    Bool.and_true, JobStatus.value]
  decide

/-- The entries of the database pool are sound. -/
theorem sound_poolEntries (pool : DatabasePoolSnapshot) :
    (poolEntries pool).all Entry.sound = true := by
  simp only [poolEntries, header, bare, List.all_append, List.all_cons, List.all_nil, Entry.sound,
    LabelValue.sound, isRest_str, Bool.and_true]
  decide

/-- The entries of the guardrails are sound, with or without labelled checks. -/
theorem sound_efficacyEntries (F : Floats) (report : GuardrailEfficacyReport) :
    (efficacyEntries F report).all Entry.sound = true := by
  have hif : ∀ (c : Prop) [Decidable c] (es : List Entry), es.all Entry.sound = true →
      (if c then [] else es).all Entry.sound = true := by
    intro c _ es hes
    split_ifs
    · rfl
    · exact hes
  unfold efficacyEntries
  dsimp only
  rw [List.all_append, List.all_append, Bool.and_eq_true, Bool.and_eq_true]
  refine ⟨⟨?_, hif _ _ ?_⟩, hif _ _ ?_⟩
  all_goals
    simp only [header, bare, List.all_append, List.all_cons, List.all_nil, Entry.sound, isRest_str,
      isRest_fixed, Bool.and_true]
    decide

/-- The entries of a confidence are sound: one for each of its levels. -/
theorem sound_levels {name : String} (hname : isName name = true) (confidence : String) :
    (levels name confidence).all Entry.sound = true := by
  simp only [levels, List.map_cons, List.map_nil, List.all_cons, List.all_nil, Entry.sound,
    LabelValue.sound, isRest_str, hname, Bool.and_true, Bool.true_and]
  decide

/-- The entries of the capacity forecast are sound, those of its profiles too. -/
theorem sound_capacityEntries (forecast : GpuCapacityForecast) :
    (capacityEntries forecast).all Entry.sound = true := by
  have hlevels : ∀ confidence,
      (levels "aecontrol_gpu_queue_estimate_confidence" confidence).all Entry.sound = true :=
    sound_levels (by decide)
  unfold capacityEntries
  rw [List.all_append, Bool.and_eq_true]
  constructor
  · simp only [header, bare, List.all_append, List.all_cons, List.all_nil, List.all_map,
      Function.comp_def, Entry.sound, LabelValue.sound, isRest_str, isRest_fixed, hlevels,
      Bool.and_true]
    rcases forecast.estimatedClearanceSeconds with _ | seconds
    · decide
    · simp only [Option.toList_some, List.all_cons, List.all_nil]
      decide
  · rw [List.all_flatMap]
    refine List.all_eq_true.mpr fun estimate _ => ?_
    simp only [List.all_cons, List.all_nil, Entry.sound, LabelValue.sound, isRest_str,
      isRest_fixed, Bool.and_true]
    decide

/-- The entries of the demand forecast are sound. -/
theorem sound_demandEntries (forecast : GpuDemandForecast) :
    (demandEntries forecast).all Entry.sound = true := by
  have hlevels : ∀ confidence,
      (levels "aecontrol_gpu_demand_confidence" confidence).all Entry.sound = true :=
    sound_levels (by decide)
  simp only [demandEntries, header, bare, List.all_append, List.all_cons, List.all_nil,
    List.all_map, Function.comp_def, Entry.sound, isRest_fixed, hlevels, Bool.and_true]
  rcases forecast.projectedCapacityRatio with _ | x
  · decide
  · simp only [Option.toList_some, List.all_cons, List.all_nil]
    decide

/-- The entries of the gates are sound. -/
theorem sound_gateEntries (snapshot : OperationalSnapshot) :
    (gateEntries snapshot).all Entry.sound = true := by
  simp only [gateEntries, header, bare, gateOutcomes, outcomeValue, List.map_cons, List.map_nil,
    List.all_append, List.all_cons, List.all_nil, Entry.sound, LabelValue.sound, isRest_str,
    isRest_fixed, Bool.and_true]
  decide

/-- The headers of the devices are sound. -/
theorem sound_gpuHeaders : gpuHeaders.all Entry.sound = true := by decide

/-- A sample of a device is sound, whatever the texts of the worker and the device are. -/
theorem sound_gpuSample {name value : String} (hname : isName name = true)
    (hvalue : isRest value = true) (workerId : String) (gpu : Hardware.GpuDevice) :
    (Entry.series name (gpuLabels workerId gpu) value).sound = true := by
  have hpartition : ∀ b : Bool, isClean (if b = true then "mig" else "full") = true := by decide
  have hsource : isClean (sourceValue gpu.telemetrySource) = true := by
    cases gpu.telemetrySource <;> decide
  simp only [Entry.sound, gpuLabels, List.all_cons, List.all_nil, LabelValue.sound, hname, hvalue,
    hpartition, hsource, isClean_str, Bool.and_true, Bool.true_and]
  decide

/-- The entries of a device are sound: they are all samples of it. -/
theorem sound_gpuEntries (F : Floats) (worker : WorkerRecord) (gpu : Hardware.GpuDevice) :
    (gpuEntries F worker gpu).all Entry.sound = true := by
  have hall : ∀ e ∈ gpuEntries F worker gpu, ∃ name value,
      e = .series name (gpuLabels worker.workerId gpu) value ∧ isName name = true ∧
        isRest value = true := by
    intro e he
    simp only [gpuEntries, List.mem_append, List.mem_cons, List.not_mem_nil, or_false,
      List.mem_map, List.mem_flatMap] at he
    rcases he with ((((rfl | rfl) | ⟨used, -, rfl | rfl⟩) | ⟨x, -, rfl⟩) | ⟨x, -, rfl⟩) |
      ⟨x, -, rfl⟩
    · exact ⟨_, _, rfl, by decide, isRest_fixed _⟩
    · exact ⟨_, _, rfl, by decide, isRest_str _⟩
    · exact ⟨_, _, rfl, by decide, isRest_str _⟩
    · exact ⟨_, _, rfl, by decide, isRest_str _⟩
    · exact ⟨_, _, rfl, by decide, isRest_fixed _⟩
    · exact ⟨_, _, rfl, by decide, isRest_fixed _⟩
    · exact ⟨_, _, rfl, by decide, isRest_fixed _⟩
  refine List.all_eq_true.mpr fun e he => ?_
  obtain ⟨name, value, rfl, hname, hvalue⟩ := hall e he
  exact sound_gpuSample hname hvalue _ _

section Render

variable (F : Floats) (snapshot : OperationalSnapshot) (workers : List WorkerRecord)
  (gpuCapacity : Option GpuCapacityForecast) (guardrailEfficacy : Option GuardrailEfficacyReport)
  (databasePool : Option DatabasePoolSnapshot) (gpuDemand : Option GpuDemandForecast)

/-- **Every line is sound**, whatever is observed. -/
theorem sound_entries :
    ∀ e ∈ entries F snapshot workers gpuCapacity guardrailEfficacy databasePool gpuDemand,
      e.sound = true := by
  refine List.all_eq_true.mp ?_
  have hoption : ∀ {α : Type} (f : α → List Entry) (o : Option α),
      (∀ a, (f a).all Entry.sound = true) → (o.toList.flatMap f).all Entry.sound = true := by
    intro α f o hf
    cases o with
    | none => rfl
    | some a => simp [hf a]
  simp only [entries, List.all_append, Bool.and_eq_true]
  refine ⟨⟨⟨⟨⟨⟨⟨sound_snapshotEntries snapshot, hoption _ _ sound_poolEntries⟩,
    hoption _ _ (sound_efficacyEntries F)⟩, hoption _ _ sound_capacityEntries⟩,
    hoption _ _ sound_demandEntries⟩, sound_gateEntries snapshot⟩, sound_gpuHeaders⟩, ?_⟩
  rw [List.all_flatMap]
  refine List.all_eq_true.mpr fun worker _ => ?_
  rw [List.all_flatMap]
  exact List.all_eq_true.mpr fun gpu _ => sound_gpuEntries F worker gpu

/-- **The scrape is read back**: a reader of the format finds exactly the help texts, types and
    samples of the observed state, each label with the text the worker or device has, whatever
    characters it is made of; and a number printed with six digits is within half a unit of the
    last. -/
theorem scrape_reads_back :
    Exposition.read
        (renderPrometheus F snapshot workers gpuCapacity guardrailEfficacy databasePool
          gpuDemand) =
      some ((entries F snapshot workers gpuCapacity guardrailEfficacy databasePool
        gpuDemand).map Entry.line) ∧
    ∀ q : ℚ, |(Decimal.read (fixed (.finite q)).toList).numeric.value - q| ≤ 1 / 2 / 10 ^ 6 := by
  have hsound := sound_entries F snapshot workers gpuCapacity guardrailEfficacy databasePool
    gpuDemand
  refine ⟨?_, fun q => ?_⟩
  · have htexts : (entries F snapshot workers gpuCapacity guardrailEfficacy databasePool
        gpuDemand).map Entry.text = ((entries F snapshot workers gpuCapacity guardrailEfficacy
          databasePool gpuDemand).map Entry.line).map Line.text := by
      rw [List.map_map]
      exact List.map_congr_left fun e he => Entry.text_line (hsound e he)
    unfold renderPrometheus
    rw [htexts]
    refine read_render fun line hline => ?_
    obtain ⟨e, he, rfl⟩ := List.mem_map.mp hline
    exact Entry.valid_line (hsound e he)
  · rw [fixed, String.toList_ofList]
    exact fixed_close q

end Render

end AEControl.Observability
