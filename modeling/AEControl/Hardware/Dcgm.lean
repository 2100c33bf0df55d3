/-
  `dcgm.py`: which sample of a DCGM exporter a device's live telemetry is taken from.

  `matchSample` asks for a single sample by UUID and profile, and for a MIG device without one for a
  single sample by profile and pod.  Each question is put for one device at a time, so the pod's
  only sample of a profile can answer for two devices (`Shares`): `attribution_iff` says that this
  is all that can go wrong with the devices `enrich_gpus_from_dcgm` returns.

  Structure of the proof:
  1. `enrichGpusFromDcgm_eq_map`: each device is enriched by itself, with the samples the scrape
     was parsed into;
  2. `matchSample_some`: the two stages, as an equivalence; `matchSample_perm` and
     `matchSample_none` follow from the count of the candidates alone;
  3. `shares_of_matched`, the crux: by the stage each of two devices was matched in.
-/
import Mathlib.Data.List.Perm.Basic
import AEControl.Models
import AEControl.Lib.Dict
import AEControl.Lib.Except
import AEControl.Lib.Rounding

namespace AEControl.Hardware

open Text Rounding

/-! ## Data -/

/-- `telemetry_source`. -/
inductive TelemetrySource where
  | nvidiaSmi
  | dcgmExporter
  | unavailable
  deriving DecidableEq

/-- `GpuDevice`, with what a worker detects of it. -/
structure GpuDevice extends AEControl.GpuDevice where
  index : ℕ
  uuid : String
  name : String
  temperatureCelsius : Option Float64
  powerDrawWatts : Option Float64
  telemetrySource : TelemetrySource
  power_ge : ∀ watts ∈ powerDrawWatts, (Float64.finite 0).pyLe watts = true
  deriving DecidableEq

/-- `_DcgmSample`; its values are finite. -/
structure DcgmSample where
  uuid : String
  migProfile : Option MigProfile
  gpuInstanceId : Option String
  podName : Option String
  values : List (String × ℚ)
  deriving DecidableEq

/-- `DcgmExporterError`, by its message. -/
abbrev DcgmExporterError := String

/-- What of the interpreter is used: `str.lower` and `str.casefold`. -/
structure Python where
  lower : String → String
  casefold : String → String

variable (P : Python)

/-! ## Parsing -/

/-- `DCGM_METRICS`. -/
def dcgmMetrics : List String :=
  ["DCGM_FI_DEV_FB_USED", "DCGM_FI_DEV_FB_FREE", "DCGM_FI_DEV_GPU_UTIL",
    "DCGM_FI_PROF_GR_ENGINE_ACTIVE", "DCGM_FI_DEV_GPU_TEMP", "DCGM_FI_DEV_POWER_USAGE"]

/-- A sample of a metric family, as the Prometheus parser gives it. -/
structure Metric where
  name : String
  labels : List (String × String)
  value : Float64

/-- What the parser gives of an exposition: metrics, and whether it raises `ValueError` after
    them. -/
structure Exposition where
  metrics : List Metric
  raises : Bool

def invalidExposition : DcgmExporterError := "invalid Prometheus exposition from DCGM Exporter"

/-- A text that is not empty. -/
def nonEmpty (text : Option String) : Option String := text.filter (· ≠ "")

/-- The key of `samples`. -/
abbrev SampleKey := String × Option MigProfile × Option String × Option String

/-- `sample.values` with the value of one metric more. -/
def DcgmSample.add (sample : DcgmSample) (name : String) (value : Float64) :
    Except DcgmExporterError DcgmSample :=
  match value with
  | .finite x =>
    match sample.values.lookup name with
    | some previous =>
      if previous ≠ x then .error ("conflicting " ++ name ++ " values for one DCGM entity")
      else .ok sample
    | none => .ok { sample with values := sample.values ++ [(name, x)] }
  | _ => .ok sample

/-- `normalize_mig_profile` of the label `gpu_i_profile`. -/
def profileOf (labels : Dict String String) : Except DcgmExporterError (Option MigProfile) :=
  match nonEmpty (labels.get "gpu_i_profile") with
  | none => .ok none
  | some value =>
    match normalizeMigProfile value with
    | .ok profile => .ok (some profile)
    | .error _ => .error invalidExposition

/-- One recognized metric. -/
def addMetric (samples : Dict SampleKey DcgmSample) (metric : Metric) :
    Except DcgmExporterError (Dict SampleKey DcgmSample) :=
  let labels := Dict.ofPairs (metric.labels.map fun label => (P.lower label.1, label.2))
  let uuid := strip ((labels.get "uuid").getD "")
  if uuid = "" then .ok samples
  else do
    let profile ← profileOf labels
    let instanceId := labels.get "gpu_i_id"
    let podName := (nonEmpty (labels.get "pod")).orElse fun _ => labels.get "pod_name"
    let key := (uuid, profile, instanceId, podName)
    let sample ← ((samples.get key).getD ⟨uuid, profile, instanceId, podName, []⟩).add metric.name
      metric.value
    return samples.set key sample

/-- `parse_dcgm_metrics`. -/
def parseDcgmMetrics (exposition : Exposition) : Except DcgmExporterError (List DcgmSample) := do
  let recognized := exposition.metrics.filter fun metric => dcgmMetrics.contains metric.name
  let samples ← recognized.foldlM (addMetric P) Dict.empty
  if exposition.raises then .error invalidExposition
  else if recognized = [] then
    .error "DCGM Exporter response contains no supported metrics"
  else return samples.items.map Prod.snd

/-! ## Matching -/

/-- `profile_matches`. -/
def profileMatches (gpu : GpuDevice) (samples : List DcgmSample) : List DcgmSample :=
  samples.filter fun sample =>
    sample.migProfile = gpu.migProfile && P.casefold sample.uuid = P.casefold gpu.uuid

/-- `pod_matches`. -/
def podMatches (gpu : GpuDevice) (samples : List DcgmSample) (podName : String) : List DcgmSample :=
  samples.filter fun sample =>
    sample.migProfile = gpu.migProfile && sample.podName = some podName

/-- `matches[0] if len(matches) == 1 else None`. -/
def single {α : Type*} : List α → Option α
  | [a] => some a
  | _ => none

/-- `_match_sample`. -/
def matchSample (gpu : GpuDevice) (samples : List DcgmSample) (podName : Option String) :
    Option DcgmSample :=
  match single (profileMatches P gpu samples) with
  | some sample => some sample
  | none =>
    match gpu.migProfile, podName with
    | some _, some podName => single (podMatches gpu samples podName)
    | _, _ => none

/-! ## Enrichment -/

/-- `round(x)` of a number that is not negative. -/
def roundNat (x : ℚ) : ℕ := (roundHalfEven x).toNat

/-- `x * 100` of a float that is not negative. -/
def timesHundred (x : ℚ) : ℚ := nearestDouble (x * 100)

example : timesHundred (1 / 2) = 50 := by decide +kernel

/-- `_valid_range`. -/
def validRange (value : Option ℚ) (minimum maximum : ℚ) : Option ℚ :=
  value.filter fun x => minimum ≤ x ∧ x ≤ maximum

/-- A value that is valid is in its range. -/
theorem validRange_mem {value : Option ℚ} {minimum maximum x : ℚ}
    (h : x ∈ validRange value minimum maximum) : minimum ≤ x ∧ x ≤ maximum :=
  of_decide_eq_true (Option.mem_filter_iff.mp h).2

/-- `_valid_memory`, up to `float(2**53)`. -/
def validMemory (value : Option ℚ) : Option ℚ := validRange value 0 9007199254740992

/-- `_without_live_telemetry`. -/
def withoutLiveTelemetry (gpu : GpuDevice) : GpuDevice :=
  { gpu with
    memoryUsedMb := none
    utilizationPercent := none
    temperatureCelsius := none
    powerDrawWatts := none
    telemetrySource := .unavailable
    utilization_range := none_in_range
    power_ge := fun _ h => absurd h (Option.not_mem_none _) }

/-- `utilization` of a sample's values. -/
def utilizationOf (value : String → Option ℚ) : Option ℚ :=
  (validRange (value "DCGM_FI_DEV_GPU_UTIL") 0 100).orElse fun _ =>
    (validRange (value "DCGM_FI_PROF_GR_ENGINE_ACTIVE") 0 1).map timesHundred

/-- A percentage whichever metric it comes from, as `GpuDevice` wants it. -/
theorem utilizationOf_range (value : String → Option ℚ) :
    ∀ u ∈ (utilizationOf value).map Float64.finite,
      (Float64.finite 0).pyLe u = true ∧ u.pyLe (.finite 100) = true := by
  intro u hu
  obtain ⟨x, hx, rfl⟩ := Option.mem_map.mp hu
  have hrange : 0 ≤ x ∧ x ≤ 100 := by
    unfold utilizationOf at hx
    cases hdirect : validRange (value "DCGM_FI_DEV_GPU_UTIL") 0 100 with
    | some y =>
      rw [hdirect] at hx
      obtain rfl := Option.some.inj hx
      exact validRange_mem hdirect
    | none =>
      rw [hdirect] at hx
      obtain ⟨y, hy, rfl⟩ := Option.mem_map.mp hx
      obtain ⟨hlow, hhigh⟩ := validRange_mem hy
      have hscaled : 0 ≤ y * 100 := by linarith
      exact ⟨nearestDouble_nonneg hscaled,
        nearestDouble_le (n := 100) (by norm_num) hscaled (by push_cast; linarith)⟩
  exact ⟨decide_eq_true hrange.1, decide_eq_true hrange.2⟩

/-- A value that is valid is not negative as a float. -/
theorem validRange_ge (value : Option ℚ) (maximum : ℚ) :
    ∀ w ∈ (validRange value 0 maximum).map Float64.finite, (Float64.finite 0).pyLe w = true := by
  intro w hw
  obtain ⟨x, hx, rfl⟩ := Option.mem_map.mp hw
  exact decide_eq_true (validRange_mem hx).1

/-- The device with the values of its sample. -/
def withSample (gpu : GpuDevice) (sample : DcgmSample) : GpuDevice :=
  let value := fun name => sample.values.lookup name
  let memoryUsed := ((validMemory (value "DCGM_FI_DEV_FB_USED")).map roundNat).orElse fun _ =>
    (validMemory (value "DCGM_FI_DEV_FB_FREE")).map fun free => gpu.memoryTotalMb - roundNat free
  { gpu with
    memoryUsedMb := memoryUsed
    utilizationPercent := (utilizationOf value).map .finite
    temperatureCelsius := (validRange (value "DCGM_FI_DEV_GPU_TEMP") (-100) 300).map .finite
    powerDrawWatts := (validRange (value "DCGM_FI_DEV_POWER_USAGE") 0 100000).map .finite
    telemetrySource := .dcgmExporter
    utilization_range := utilizationOf_range value
    power_ge := validRange_ge _ _ }

/-- The device after its sample was looked for. -/
def enriched (samples : List DcgmSample) (podName : Option String) (gpu : GpuDevice) : GpuDevice :=
  match matchSample P gpu samples podName with
  | some sample => withSample gpu sample
  | none => withoutLiveTelemetry gpu

/-- `DcgmExporterConfiguration`, what is used of it besides the endpoint. -/
structure DcgmExporterConfiguration where
  enabled : Bool
  podName : Option String

/-- `enrich_gpus_from_dcgm`, of what the scrape gives. -/
def enrichGpusFromDcgm (gpus : List GpuDevice) (configuration : DcgmExporterConfiguration)
    (scrape : Except DcgmExporterError Exposition) : List GpuDevice :=
  if !configuration.enabled then gpus
  else
    match scrape.bind (parseDcgmMetrics P) with
    | .error _ => gpus.map withoutLiveTelemetry
    | .ok samples => gpus.map (enriched P samples configuration.podName)

/-- The samples of a scrape; one that fails has none. -/
def scraped (scrape : Except DcgmExporterError Exposition) : List DcgmSample :=
  match scrape.bind (parseDcgmMetrics P) with
  | .error _ => []
  | .ok samples => samples

/-- Without a sample the telemetry is cleared. -/
theorem enriched_nil (podName : Option String) (gpu : GpuDevice) :
    enriched P [] podName gpu = withoutLiveTelemetry gpu := by
  have hnone : matchSample P gpu [] podName = none := by
    unfold matchSample
    cases gpu.migProfile <;> cases podName <;> rfl
  unfold enriched
  rw [hnone]

/-- Each device is enriched by itself, whatever becomes of the scrape: a failure is an exposition
    without samples. -/
theorem enrichGpusFromDcgm_eq_map {configuration : DcgmExporterConfiguration}
    (henabled : configuration.enabled = true) (gpus : List GpuDevice)
    (scrape : Except DcgmExporterError Exposition) :
    enrichGpusFromDcgm P gpus configuration scrape =
      gpus.map (enriched P (scraped P scrape) configuration.podName) := by
  unfold enrichGpusFromDcgm scraped
  simp only [henabled, Bool.not_true, Bool.false_eq_true, if_false]
  cases scrape.bind (parseDcgmMetrics P) with
  | error e => exact List.map_congr_left fun gpu _ => (enriched_nil P configuration.podName gpu).symm
  | ok samples => rfl

/-! ## Attribution -/

section Attribution

variable (P : Python) (samples : List DcgmSample) (podName : Option String)

/-- No single candidate is left for the device, by its UUID or by the pod. -/
def NoCandidate (gpu : GpuDevice) : Prop :=
  (profileMatches P gpu samples).length ≠ 1 ∧
    (gpu.migProfile = none ∨ ∀ name, podName = some name →
      (podMatches gpu samples name).length ≠ 1)

/-- The live telemetry of a device is absent. -/
def Cleared (gpu : GpuDevice) : Prop :=
  gpu.memoryUsedMb = none ∧ gpu.utilizationPercent = none ∧ gpu.temperatureCelsius = none ∧
    gpu.powerDrawWatts = none

/-- What is asked of `enrich_gpus_from_dcgm`: of the devices it returns, and of the sample that
    `_match_sample` attributes to each. -/
structure Attribution (configuration : DcgmExporterConfiguration)
    (scrape : Except DcgmExporterError Exposition) (gpus : List GpuDevice) : Prop where
  /-- A device is returned with the values of the sample attributed to it. -/
  taken : List.Forall₂ (fun gpu returned => ∀ sample,
      matchSample P gpu (scraped P scrape) configuration.podName = some sample →
        returned = withSample gpu sample)
    gpus (enrichGpusFromDcgm P gpus configuration scrape)
  /-- No sample is attributed to two devices. -/
  oneDevice : gpus.Pairwise fun gpu gpu' => ∀ sample,
    matchSample P gpu (scraped P scrape) configuration.podName = some sample →
      matchSample P gpu' (scraped P scrape) configuration.podName ≠ some sample
  /-- With the samples and the devices in another order, each device has the sample it had and is
      returned as it was. -/
  order : ∀ scrape' (gpus' : List GpuDevice), (scraped P scrape').Perm (scraped P scrape) → gpus'.Perm gpus →
    (∀ gpu, matchSample P gpu (scraped P scrape') configuration.podName =
      matchSample P gpu (scraped P scrape) configuration.podName) ∧
    (gpus'.zip (enrichGpusFromDcgm P gpus' configuration scrape')).Perm
      (gpus.zip (enrichGpusFromDcgm P gpus configuration scrape))
  /-- A device without a candidate is returned without live telemetry. -/
  cleared : List.Forall₂ (fun gpu returned =>
      NoCandidate P (scraped P scrape) configuration.podName gpu → Cleared returned)
    gpus (enrichGpusFromDcgm P gpus configuration scrape)

/-- A MIG device without a single sample by its UUID is left with the pod's only sample of the
    profile, which the other device has by its UUID or is left with as well. -/
def Shares (gpu gpu' : GpuDevice) : Prop :=
  gpu.migProfile ≠ none ∧ gpu'.migProfile = gpu.migProfile ∧
    (profileMatches P gpu samples).length ≠ 1 ∧
    ∃ name ∈ podName, (podMatches gpu samples name).length = 1 ∧
      ((profileMatches P gpu' samples).length ≠ 1 ∨
        profileMatches P gpu' samples = podMatches gpu samples name)

instance (gpu gpu' : GpuDevice) : Decidable (Shares P samples podName gpu gpu') :=
  inferInstanceAs (Decidable (_ ∧ _ ∧ _ ∧ _))

variable {P samples podName}

/-- A single element is the only one. -/
theorem single_eq_some {α : Type*} {l : List α} {a : α} : single l = some a ↔ l = [a] := by
  match l with
  | [] => simp [single]
  | [b] => simp [single]
  | b :: c :: l => simp [single]

/-- None or several elements are no single one. -/
theorem single_eq_none {α : Type*} {l : List α} : single l = none ↔ l.length ≠ 1 := by
  match l with
  | [] => simp [single]
  | [b] => simp [single]
  | b :: c :: l => simp [single]

/-- A single item is the same in any order. -/
theorem single_perm {α : Type*} {l m : List α} (h : l.Perm m) : single l = single m := by
  cases hm : single m with
  | some a =>
    rw [single_eq_some] at hm ⊢
    exact List.perm_singleton.mp (hm ▸ h)
  | none =>
    rw [single_eq_none] at hm ⊢
    rwa [h.length_eq]

/-- **The two stages**: by UUID, or by the pod for a MIG device without a single sample by UUID. -/
theorem matchSample_some {gpu : GpuDevice} {sample : DcgmSample} :
    matchSample P gpu samples podName = some sample ↔ profileMatches P gpu samples = [sample] ∨
      ((profileMatches P gpu samples).length ≠ 1 ∧ gpu.migProfile ≠ none ∧
        ∃ name, podName = some name ∧ podMatches gpu samples name = [sample]) := by
  unfold matchSample
  cases hidentity : single (profileMatches P gpu samples) with
  | some found =>
    rw [single_eq_some] at hidentity
    simp [hidentity]
  | none =>
    have hlength := single_eq_none.mp hidentity
    have hne : profileMatches P gpu samples ≠ [sample] := fun h => hlength (by rw [h]; rfl)
    cases hprofile : gpu.migProfile with
    | none => simp [hne]
    | some profile =>
      cases podName with
      | none => simp [hne]
      | some name => simp [hne, hlength, single_eq_some]

/-- Without a candidate no sample is matched. -/
theorem matchSample_none {gpu : GpuDevice} (h : NoCandidate P samples podName gpu) :
    matchSample P gpu samples podName = none := by
  obtain ⟨hidentity, hpod⟩ := h
  refine Option.eq_none_iff_forall_ne_some.mpr fun sample hsome => ?_
  rcases matchSample_some.mp hsome with hsingle | ⟨-, hmig, name, hname, hsingle⟩
  · exact hidentity (by rw [hsingle]; rfl)
  · exact hpod.elim hmig fun hall => hall name hname (by rw [hsingle]; rfl)

/-- **The order of the samples does not matter.** -/
theorem matchSample_perm {samples' : List DcgmSample} (h : samples'.Perm samples)
    (gpu : GpuDevice) :
    matchSample P gpu samples' podName = matchSample P gpu samples podName := by
  have hidentity : single (profileMatches P gpu samples') = single (profileMatches P gpu samples) :=
    single_perm (h.filter _)
  have hpod : ∀ name, single (podMatches gpu samples' name) = single (podMatches gpu samples name) :=
    fun name => single_perm (h.filter _)
  unfold matchSample
  rw [hidentity]
  simp only [hpod]

/-- A sample that is matched by identity has the device's UUID. -/
theorem casefold_of_profileMatches {gpu : GpuDevice} {sample : DcgmSample}
    (h : profileMatches P gpu samples = [sample]) :
    sample.migProfile = gpu.migProfile ∧ P.casefold sample.uuid = P.casefold gpu.uuid := by
  have hmem : sample ∈ profileMatches P gpu samples := by rw [h]; exact List.mem_cons_self
  simpa using (List.mem_filter.mp hmem).2

/-- A sample that is matched by its pod has the device's profile. -/
theorem profile_of_podMatches {gpu : GpuDevice} {sample : DcgmSample} {name : String}
    (h : podMatches gpu samples name = [sample]) : sample.migProfile = gpu.migProfile := by
  have hmem : sample ∈ podMatches gpu samples name := by rw [h]; exact List.mem_cons_self
  have hfilter := (List.mem_filter.mp hmem).2
  simp only [Bool.and_eq_true, decide_eq_true_eq] at hfilter
  exact hfilter.1

theorem length_of_single {l : List DcgmSample} {sample : DcgmSample} (h : l = [sample]) :
    l.length = 1 := by
  rw [h]
  rfl

/-- **A sample of two devices** was found by the pod for one of them. -/
theorem shares_of_matched {gpu gpu' : GpuDevice} {sample : DcgmSample}
    (hdistinct : P.casefold gpu.uuid ≠ P.casefold gpu'.uuid)
    (h : matchSample P gpu samples podName = some sample)
    (h' : matchSample P gpu' samples podName = some sample) :
    Shares P samples podName gpu gpu' ∨ Shares P samples podName gpu' gpu := by
  rcases matchSample_some.mp h with hsingle | ⟨hnone, hmig, name, hname, hpod⟩ <;>
    rcases matchSample_some.mp h' with hsingle' | ⟨hnone', hmig', name', hname', hpod'⟩
  · -- by UUID for both
    have huuid := (casefold_of_profileMatches hsingle).2
    exact absurd (huuid.symm.trans (casefold_of_profileMatches hsingle').2) hdistinct
  · have hprofile := (casefold_of_profileMatches hsingle).1.symm.trans (profile_of_podMatches hpod')
    exact .inr ⟨hmig', hprofile, hnone', name', hname', length_of_single hpod',
      .inr (hsingle.trans hpod'.symm)⟩
  · have hprofile := (casefold_of_profileMatches hsingle').1.symm.trans (profile_of_podMatches hpod)
    exact .inl ⟨hmig, hprofile, hnone, name, hname, length_of_single hpod,
      .inr (hsingle'.trans hpod.symm)⟩
  · have hprofile := (profile_of_podMatches hpod').symm.trans (profile_of_podMatches hpod)
    exact .inl ⟨hmig, hprofile, hnone, name, hname, length_of_single hpod, .inl hnone'⟩

/-- Devices that share are matched with one sample. -/
theorem matched_of_shares {gpu gpu' : GpuDevice} (h : Shares P samples podName gpu gpu') :
    ∃ sample, matchSample P gpu samples podName = some sample ∧
      matchSample P gpu' samples podName = some sample := by
  obtain ⟨hmig, hprofile, hnone, name, hname, hlength, hother⟩ := h
  obtain ⟨sample, hpod⟩ := List.length_eq_one_iff.mp hlength
  refine ⟨sample, matchSample_some.mpr (.inr ⟨hnone, hmig, name, hname, hpod⟩),
    matchSample_some.mpr ?_⟩
  rcases hother with hnone' | hsingle
  · have hsame : podMatches gpu' samples name = podMatches gpu samples name := by
      unfold podMatches
      rw [hprofile]
    exact .inr ⟨hnone', hprofile ▸ hmig, name, hname, hsame.trans hpod⟩
  · exact .inl (hsingle.trans hpod)

/-- A device enriched without a candidate has lost its live telemetry. -/
theorem cleared_enriched {gpu : GpuDevice} (h : NoCandidate P samples podName gpu) :
    Cleared (enriched P samples podName gpu) := by
  unfold enriched
  rw [matchSample_none h]
  exact ⟨rfl, rfl, rfl, rfl⟩

/-- The order of the samples does not matter. -/
theorem enriched_perm {samples' : List DcgmSample} (h : samples'.Perm samples) :
    enriched P samples' podName = enriched P samples podName := by
  funext gpu
  unfold enriched
  rw [matchSample_perm h]

/-- A list beside its image is the list of pairs. -/
theorem zip_map_self {α β : Type*} (f : α → β) (l : List α) :
    l.zip (l.map f) = l.map fun a => (a, f a) := by
  simpa using List.zip_map' (l := l) (f := id) (g := f)

/-- **DCGM attribution is unambiguous** exactly if no device that has no single sample by its UUID
    is left with a sample that another device has or is left with. -/
theorem attribution_iff {gpus : List GpuDevice} {configuration : DcgmExporterConfiguration}
    {scrape : Except DcgmExporterError Exposition} (henabled : configuration.enabled = true)
    (hdistinct : (gpus.map fun gpu => P.casefold gpu.uuid).Nodup) :
    Attribution P configuration scrape gpus ↔ gpus.Pairwise fun gpu gpu' =>
      ¬ Shares P (scraped P scrape) configuration.podName gpu gpu' ∧
        ¬ Shares P (scraped P scrape) configuration.podName gpu' gpu := by
  have hpairs : gpus.Pairwise fun gpu gpu' => P.casefold gpu.uuid ≠ P.casefold gpu'.uuid :=
    List.pairwise_map.mp hdistinct
  constructor
  · intro h
    refine h.oneDevice.imp fun {gpu gpu'} hone => ⟨fun hshares => ?_, fun hshares => ?_⟩
    · obtain ⟨sample, hsample, hsample'⟩ := matched_of_shares hshares
      exact hone sample hsample hsample'
    · obtain ⟨sample, hsample', hsample⟩ := matched_of_shares hshares
      exact hone sample hsample hsample'
  · intro h
    have hmap := fun gpus scrape => enrichGpusFromDcgm_eq_map P henabled gpus scrape
    constructor
    · -- what is returned for a device is the device enriched
      rw [hmap, List.forall₂_map_right_iff, List.forall₂_same]
      intro gpu _ sample hsample
      unfold enriched
      rw [hsample]
    · refine (hpairs.and h).imp fun {gpu gpu'} hpair sample hsample hsample' => ?_
      exact (shares_of_matched hpair.1 hsample hsample').elim hpair.2.1 hpair.2.2
    · intro scrape' gpus' hsamples hgpus
      refine ⟨matchSample_perm hsamples, ?_⟩
      rw [hmap, hmap, enriched_perm hsamples, zip_map_self, zip_map_self]
      exact hgpus.map _
    · rw [hmap, List.forall₂_map_right_iff, List.forall₂_same]
      intro gpu _ hnone
      exact cleared_enriched hnone

end Attribution

namespace Sample

def lowercase (text : String) : String := String.ofList (text.toList.map Char.toLower)

def python : Python := ⟨lowercase, lowercase⟩

/-- The profile of the two slices. -/
theorem isMigProfile_slice : isMigProfile "3g.40gb" = true := by decide

def slice : MigProfile := ⟨"3g.40gb", isMigProfile_slice⟩

/-- A device as `nvidia-smi` lists it, without telemetry. -/
def device (uuid : String) (migProfile : Option MigProfile) : GpuDevice where
  memoryTotalMb := 81920
  memoryUsedMb := none
  computeCapability := some (.finite 9)
  utilizationPercent := none
  migProfile := migProfile
  utilization_range := none_in_range
  index := 0
  uuid := uuid
  name := "NVIDIA H100 80GB HBM3"
  temperatureCelsius := none
  powerDrawWatts := none
  telemetrySource := .nvidiaSmi
  power_ge := fun _ h => absurd h (Option.not_mem_none _)

def configuration : DcgmExporterConfiguration := ⟨true, some "worker-pod"⟩

def framebufferUsed (labels : List (String × String)) (value : ℚ) : Metric :=
  ⟨"DCGM_FI_DEV_FB_USED", labels, .finite value⟩

/-- The sample of the parent GPU, labelled with the pod, that stands for a MIG device. -/
def parentMetric : Metric :=
  framebufferUsed [("UUID", "GPU-parent"), ("GPU_I_PROFILE", "3G.40GB"), ("GPU_I_ID", "7"),
    ("pod", "worker-pod")] 32768

/-- Besides it, a full device, half busy, and a MIG device by their own UUIDs. -/
def exposition : Exposition where
  metrics := [framebufferUsed [("UUID", "gpu-0")] 1024,
    ⟨"DCGM_FI_DEV_GPU_UTIL", [("UUID", "gpu-0")], .finite 50⟩,
    framebufferUsed [("UUID", "MIG-a"), ("GPU_I_PROFILE", "3g.40gb"), ("GPU_I_ID", "1")] 2048,
    parentMetric]
  raises := false

/-- What the exposition is parsed into. -/
def samples : List DcgmSample :=
  [⟨"gpu-0", none, none, none,
      [("DCGM_FI_DEV_FB_USED", 1024), ("DCGM_FI_DEV_GPU_UTIL", 50)]⟩,
    ⟨"MIG-a", slice, some "1", none, [("DCGM_FI_DEV_FB_USED", 2048)]⟩,
    ⟨"GPU-parent", slice, some "7", some "worker-pod", [("DCGM_FI_DEV_FB_USED", 32768)]⟩]

/-- The exposition is parsed to the samples above. -/
theorem scraped_exposition : scraped python (.ok exposition) = samples := by decide +kernel

/-- The full device, two MIG devices of one profile, and a device the exporter does not know. -/
def gpus : List GpuDevice :=
  [device "GPU-0" none, device "MIG-a" slice, device "MIG-b" slice, device "GPU-1" none]

/-- The devices have distinct UUIDs. -/
theorem distinct_uuids : (gpus.map fun gpu => python.casefold gpu.uuid).Nodup := by
  decide +kernel

end Sample

/-- The full device and the first MIG device have their own samples, the second MIG device the
    pod's, and the unknown device loses its telemetry. -/
theorem attribution_iff_sample :
    Attribution Sample.python Sample.configuration (.ok Sample.exposition) Sample.gpus ∧
      (enrichGpusFromDcgm Sample.python Sample.gpus Sample.configuration
        (.ok Sample.exposition)).map (fun gpu => (gpu.memoryUsedMb, gpu.utilizationPercent)) =
        [(some 1024, some (.finite 50)), (some 2048, none), (some 32768, none), (none, none)] := by
  refine ⟨(attribution_iff rfl Sample.distinct_uuids).mpr ?_, ?_⟩
  · rw [Sample.scraped_exposition]
    decide +kernel
  · rw [enrichGpusFromDcgm_eq_map Sample.python rfl, Sample.scraped_exposition]
    decide +kernel

/-- **The pod's only sample of a profile is given to both of its devices**, whose UUIDs differ: the
    sample is asked to be the only one, and the device is not. -/
theorem attribution_fails_two_devices :
    ¬ Attribution Sample.python Sample.configuration (.ok ⟨[Sample.parentMetric], false⟩)
      [Sample.device "MIG-b" Sample.slice, Sample.device "MIG-c" Sample.slice] := by
  intro h
  have hshares : Shares Sample.python (scraped Sample.python (.ok ⟨[Sample.parentMetric], false⟩))
      (some "worker-pod") (Sample.device "MIG-b" Sample.slice)
      (Sample.device "MIG-c" Sample.slice) := by decide +kernel
  obtain ⟨sample, hsample, hsample'⟩ := matched_of_shares hshares
  have hone := (List.pairwise_cons.mp h.oneDevice).1 _ List.mem_cons_self
  exact hone sample hsample hsample'

end AEControl.Hardware
