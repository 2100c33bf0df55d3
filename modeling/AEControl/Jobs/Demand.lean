/-
  The GPU demand forecast (`demand.py`): how many CUDA jobs arrive in each hour of the week.

  Two loops fill two counters keyed by weekday and hour, one with the hours of the observed window
  and one with the arrivals in them; the forecast divides the second by the first.

  Structure of the proof:
  1. an instant lies in a cell of the hourly grid (`Lib.Grid`), and its slot is the cell modulo 168
     (`weekSlot_eq`, `weekSlot_eq_iff`);
  2. the window is made of whole hours, from the first one in the history to that of the
     observation (`demandWindow_ok`);
  3. **the crux**, `countOccurrences_ok` with its counterpart `countArrivals_ok`: after the loops a
     counter reads exactly the hours of the window, or the arrivals in them, that lie whole weeks
     away.  The first goes by the loop's invariant (`OccurrenceInv.body`), the second by induction
     on the buckets (`foldlM_countBucket`);
  4. `forecastHour_ok` reads the two counters for one hour, and `forecastGpuDemand_counts` for all.

  Float arithmetic is Python's and comes in as `FloatOps`; nothing below depends on how it rounds.
-/
import Mathlib.Tactic.Ring
import AEControl.Lib.Dict
import AEControl.Lib.Except
import AEControl.Lib.Grid
import AEControl.Lib.While
import AEControl.Jobs.Queries

namespace AEControl.Jobs

open Grid

/-! ## Instants -/

/-- A `tzinfo` with the offset it has at the wall clock it is attached to; `ident` is what `is`
    compares. -/
structure TzInfo where
  ident : ℕ
  utcoffset : Timestamp

/-- A `datetime`: its wall clock, in microseconds since 1970-01-01, and its time zone. -/
structure DateTime where
  wall : Timestamp
  tzinfo : Option TzInfo

/-- What `forecast_gpu_demand` and the query before it raise. -/
inductive DemandError where
  | valueError (message : String)
  | overflowError
  /-- psycopg's `DataError`: a timestamp no `datetime` can hold. -/
  | dataError
  /-- pydantic's `ValidationError`, naming the field. -/
  | validationError (field : String)
  deriving DecidableEq

namespace DateTime

/-- `x > y` of two aware values: the wall clocks if they share the `tzinfo`, else the instants. -/
def after (x y : DateTime) (xTz yTz : TzInfo) : Bool :=
  if xTz.ident = yTz.ident then y.wall < x.wall
  else y.wall - yTz.utcoffset < x.wall - xTz.utcoffset

end DateTime

/-- Arithmetic on a `datetime` raises where the result is none. -/
def plus (t delta : Timestamp) : Except DemandError Timestamp :=
  if representable (t + delta) then .ok (t + delta) else .error .overflowError

/-- `value.astimezone(UTC)`. -/
def astimezone (value : DateTime) (tz : TzInfo) : Except DemandError Timestamp :=
  plus value.wall (-tz.utcoffset)

/-- `_floor_hour`, of a UTC value. -/
def floorHour (value : Timestamp) : Timestamp := value / hour * hour

/-- `_ceil_hour`, of a UTC value. -/
def ceilHour (value : Timestamp) : Except DemandError Timestamp :=
  if value = floorHour value then .ok (floorHour value) else plus (floorHour value) hour

/-- `value.weekday()`: the epoch was a Thursday. -/
def weekday (value : Timestamp) : ℤ := (value / (24 * hour) + 3) % 7

/-- `value.hour`. -/
def hourOfDay (value : Timestamp) : ℤ := value / hour % 24

/-- `(value.weekday(), value.hour)`. -/
def weekSlot (value : Timestamp) : ℤ × ℤ := (weekday value, hourOfDay value)

/-! ## The forecast -/

/-- The fields of a `GpuDurationEstimate` the forecast reads. -/
structure DurationEstimate where
  averageSeconds : Float64
  sampleCount : ℕ

/-- The arguments of `forecast_gpu_demand`. -/
structure DemandInputs where
  hourlyArrivals : List (DateTime × ℤ)
  historyStart : DateTime
  observedAt : DateTime
  currentQueuedCudaJobs : ℤ
  currentRunningCudaJobs : ℤ
  activeCudaWorkers : ℤ
  durationEstimate : Option DurationEstimate
  lookbackDays : ℤ := 56
  horizonHours : ℤ := 24

/-- `confidence`. -/
inductive DemandConfidence where
  | unavailable
  | low
  | high
  deriving DecidableEq

/-- `saturation`. -/
inductive Saturation where
  | unavailable
  | withinCapacity
  | atRisk
  | overCapacity
  deriving DecidableEq

/-- `GpuDemandHour`. -/
structure GpuDemandHour where
  hourStart : Timestamp
  historicalOccurrences : ℤ
  historicalArrivals : ℤ
  predictedArrivals : Float64
  occurrences_ge : 0 ≤ historicalOccurrences
  arrivals_ge : 0 ≤ historicalArrivals
  predicted_ge : (Float64.finite 0).pyLe predictedArrivals = true

/-- `GpuDemandForecast`; the bounds of its fields are checked by `forecastGpuDemand`. -/
structure GpuDemandForecast where
  observedAt : Timestamp
  historyStart : Timestamp
  lookbackDays : ℤ
  horizonHours : ℤ
  historicalCudaJobs : ℤ
  observedHistoryHours : ℤ
  currentQueuedCudaJobs : ℤ
  currentRunningCudaJobs : ℤ
  predictedCudaArrivals : Float64
  averageCudaDurationSeconds : Option Float64
  projectedGpuSeconds : Option Float64
  availableGpuSeconds : Float64
  projectedCapacityRatio : Option Float64
  activeCudaWorkers : ℤ
  confidence : DemandConfidence
  saturation : Saturation
  hours : List GpuDemandHour

/-- Python's float arithmetic, as far as the forecast uses it. -/
structure FloatOps where
  /-- `x / y` of two integers. -/
  truediv : ℤ → ℤ → Except DemandError Float64
  sum : List Float64 → Float64
  add : Float64 → Float64 → Float64
  mul : Float64 → Float64 → Float64
  div : Float64 → Float64 → Float64

/-- `float(n)`. -/
def toFloat (n : ℤ) : Except DemandError Float64 :=
  match Float64.ofInt n with
  | .ok x => .ok x
  | .error _ => .error .overflowError

/-- The checks at the head of `forecast_gpu_demand`; the time zones they leave. -/
def checkDemandInputs (i : DemandInputs) : Except DemandError (TzInfo × TzInfo) :=
  match i.historyStart.tzinfo, i.observedAt.tzinfo with
  | some startTz, some observedTz =>
    if i.historyStart.after i.observedAt startTz observedTz then
      .error (.valueError "GPU demand history cannot start after the observation time")
    else if i.lookbackDays ≤ 0 ∨ i.horizonHours ≤ 0 then
      .error (.valueError "GPU demand lookback and horizon must be positive")
    else if i.currentQueuedCudaJobs < 0 ∨ i.currentRunningCudaJobs < 0 ∨
        i.activeCudaWorkers < 0 then
      .error (.valueError "GPU demand queue and worker counts cannot be negative")
    else .ok (startTz, observedTz)
  | _, _ => .error (.valueError "GPU demand timestamps must be timezone-aware")

/-- The observed window: `observed`, `earliest`, `first_hour` and `observed_hour`. -/
structure DemandWindow where
  observed : Timestamp
  earliest : Timestamp
  firstHour : Timestamp
  observedHour : Timestamp

/-- The window of a request whose instants have the time zones `startTz` and `observedTz`. -/
def demandWindow (i : DemandInputs) (startTz observedTz : TzInfo) :
    Except DemandError DemandWindow := do
  let observed ← astimezone i.observedAt observedTz
  let start ← astimezone i.historyStart startTz
  let lookback ← plus observed (-(i.lookbackDays * 86400000000))
  let earliest := max start lookback
  let firstHour ← ceilHour earliest
  .ok ⟨observed, earliest, firstHour, floorHour observed⟩

/-- The state of the first loop: `cursor` and `occurrence_counts`. -/
abbrev OccurrenceState := Timestamp × Dict (ℤ × ℤ) ℤ

/-- The body of `while cursor < observed_hour`; `none` if `cursor` overflows. -/
def occurrenceBody : OccurrenceState → Option OccurrenceState
  | (cursor, counts) => (plus cursor hour).toOption.map fun next =>
      (next, counts.bump (weekSlot cursor) 1)

/-- The first loop, at most `fuel` turns. -/
def occurrenceLoop (w : DemandWindow) (fuel : ℕ) : Option OccurrenceState :=
  While.loop (fun s : OccurrenceState => s.1 < w.observedHour) occurrenceBody fuel
    (w.firstHour, Dict.empty)

/-- `occurrence_counts`, with a turn for every hour of the window. -/
def countOccurrences (w : DemandWindow) : Except DemandError (Dict (ℤ × ℤ) ℤ) :=
  match occurrenceLoop w ((w.observedHour - w.firstHour) / hour).toNat with
  | some s => .ok s.2
  | none => .error .overflowError

/-- One turn of `for hour_start, count in hourly_arrivals`. -/
def countBucket (w : DemandWindow) (tally : Dict (ℤ × ℤ) ℤ × ℤ) (bucket : DateTime × ℤ) :
    Except DemandError (Dict (ℤ × ℤ) ℤ × ℤ) :=
  match bucket.1.tzinfo with
  | none => .error (.valueError "GPU arrival buckets must be timezone-aware")
  | some tz =>
    if bucket.2 < 0 then .error (.valueError "GPU arrival counts cannot be negative")
    else do
      let utc ← astimezone bucket.1 tz
      let start := floorHour utc
      if w.firstHour ≤ start ∧ start < w.observedHour then
        .ok (tally.1.bump (weekSlot start) bucket.2, tally.2 + bucket.2)
      else .ok tally

/-- `arrivals_by_slot` and `historical_cuda_jobs`. -/
def countArrivals (w : DemandWindow) (arrivals : List (DateTime × ℤ)) :
    Except DemandError (Dict (ℤ × ℤ) ℤ × ℤ) :=
  arrivals.foldlM (countBucket w) (Dict.empty, 0)

/-- `arrivals / occurrences if occurrences else 0.0`. -/
def predictArrivals (ops : FloatOps) (arrivals occurrences : ℤ) : Except DemandError Float64 :=
  if occurrences ≠ 0 then ops.truediv arrivals occurrences else .ok (.finite 0)

/-- One turn of `for offset in range(1, horizon_hours + 1)`.  Reading a `defaultdict` adds the key
    with a zero, which no later read tells from its absence. -/
def forecastHour (ops : FloatOps) (w : DemandWindow) (occurrenceCounts : Dict (ℤ × ℤ) ℤ)
    (arrivalsBySlot : Dict (ℤ × ℤ) ℤ) (offset : ℕ) : Except DemandError GpuDemandHour := do
  let hourStart ← plus w.observedHour ((offset + 1 : ℤ) * hour)
  let key := weekSlot hourStart
  let occurrences := occurrenceCounts.count key
  let arrivals := arrivalsBySlot.count key
  let predicted ← predictArrivals ops arrivals occurrences
  if ho : 0 ≤ occurrences then
    if ha : 0 ≤ arrivals then
      if hp : (Float64.finite 0).pyLe predicted = true then
        .ok ⟨hourStart, occurrences, arrivals, predicted, ho, ha, hp⟩
      else .error (.validationError "predicted_arrivals")
    else .error (.validationError "historical_arrivals")
  else .error (.validationError "historical_occurrences")

/-- `confidence`. -/
def demandConfidence (historicalCudaJobs observedHistoryHours : ℤ)
    (estimate : Option DurationEstimate) : DemandConfidence :=
  match estimate with
  | some estimate =>
    if 0 < historicalCudaJobs ∧ 0 < observedHistoryHours then
      if 28 * 24 ≤ observedHistoryHours ∧ 20 ≤ historicalCudaJobs ∧ 10 ≤ estimate.sampleCount then
        .high
      else .low
    else .unavailable
  | none => .unavailable

/-- The double nearest to `0.8`. -/
def atRiskRatio : Float64 := .finite (3602879701896397 / 4503599627370496)

/-- `saturation`; a NaN is neither above one nor at least `0.8`. -/
def demandSaturation (capacityRatio : Option Float64) (confidence : DemandConfidence) :
    Saturation :=
  match capacityRatio with
  | none => .unavailable
  | some ratio =>
    if confidence = .unavailable then .unavailable
    else if (Float64.finite 1).pyLt ratio then .overCapacity
    else if atRiskRatio.pyLt ratio ∨ ratio = atRiskRatio then .atRisk
    else .withinCapacity

/-- `projected_gpu_seconds / available_gpu_seconds`, where there is any capacity. -/
def capacityRatio (ops : FloatOps) (projected : Option Float64) (available : Float64) :
    Option Float64 :=
  if (Float64.finite 0).pyLt available then projected.map (ops.div · available) else none

/-- A `Field(ge=0)`. -/
def checkGe (field : String) (x : Float64) : Except DemandError Unit :=
  if (Float64.finite 0).pyLe x then .ok () else .error (.validationError field)

/-- A `Field(gt=0)`. -/
def checkGt (field : String) (x : Float64) : Except DemandError Unit :=
  if (Float64.finite 0).pyLt x then .ok () else .error (.validationError field)

/-- What follows the two counting loops. -/
def finishForecast (ops : FloatOps) (i : DemandInputs) (w : DemandWindow)
    (occurrenceCounts arrivalsBySlot : Dict (ℤ × ℤ) ℤ) (historicalCudaJobs : ℤ) :
    Except DemandError GpuDemandForecast := do
  let hours ← (List.range i.horizonHours.toNat).mapM
    (forecastHour ops w occurrenceCounts arrivalsBySlot)
  let observedHistoryHours := max 0 ((w.observedHour - w.firstHour) / hour)
  let predicted := ops.sum (hours.map (·.predictedArrivals))
  let average := i.durationEstimate.map (·.averageSeconds)
  let projected ← average.mapM fun average => do
    let current ← toFloat (i.currentQueuedCudaJobs + i.currentRunningCudaJobs)
    .ok (ops.mul (ops.add current predicted) average)
  let available ← toFloat (i.activeCudaWorkers * i.horizonHours * 3600)
  let ratio := capacityRatio ops projected available
  let confidence := demandConfidence historicalCudaJobs observedHistoryHours i.durationEstimate
  if historicalCudaJobs < 0 then .error (.validationError "historical_cuda_jobs") else do
    checkGe "predicted_cuda_arrivals" predicted
    let _ ← average.mapM (checkGt "average_cuda_duration_seconds")
    let _ ← projected.mapM (checkGe "projected_gpu_seconds")
    checkGe "available_gpu_seconds" available
    let _ ← ratio.mapM (checkGe "projected_capacity_ratio")
    .ok {
      observedAt := w.observed
      historyStart := w.earliest
      lookbackDays := i.lookbackDays
      horizonHours := i.horizonHours
      historicalCudaJobs := historicalCudaJobs
      observedHistoryHours := observedHistoryHours
      currentQueuedCudaJobs := i.currentQueuedCudaJobs
      currentRunningCudaJobs := i.currentRunningCudaJobs
      predictedCudaArrivals := predicted
      averageCudaDurationSeconds := average
      projectedGpuSeconds := projected
      availableGpuSeconds := available
      projectedCapacityRatio := ratio
      activeCudaWorkers := i.activeCudaWorkers
      confidence := confidence
      saturation := demandSaturation ratio confidence
      hours := hours }

/-- `forecast_gpu_demand`. -/
def forecastGpuDemand (ops : FloatOps) (i : DemandInputs) :
    Except DemandError GpuDemandForecast := do
  let (startTz, observedTz) ← checkDemandInputs i
  let w ← demandWindow i startTz observedTz
  let occurrenceCounts ← countOccurrences w
  let (arrivalsBySlot, historicalCudaJobs) ← countArrivals w i.hourlyArrivals
  finishForecast ops i w occurrenceCounts arrivalsBySlot historicalCudaJobs

/-! ## Hours and slots -/

/-- An hour has a positive length. -/
theorem hour_pos : 0 < hour := by decide

/-- `weekSlot` reads the number of the hour only. -/
theorem weekSlot_eq (t : Timestamp) :
    weekSlot t = ((cell hour t / 24 + 3) % 7, cell hour t % 24) := by
  have hday : t / (24 * hour) = t / hour / 24 := by
    rw [mul_comm, Int.ediv_ediv_of_nonneg (le_of_lt hour_pos)]
  rw [weekSlot, weekday, hourOfDay, hday, cell]

/-- Two instants share a slot if their hours are whole weeks apart. -/
theorem weekSlot_eq_iff {t u : Timestamp} :
    weekSlot t = weekSlot u ↔ cell hour t ≡ cell hour u [ZMOD 168] := by
  rw [weekSlot_eq, weekSlot_eq, Prod.mk.injEq, Int.ModEq]
  omega

/-- The 168 slots of the week. -/
def weekSlots : Finset (ℤ × ℤ) := cells 0 7 ×ˢ cells 0 24

/-- A time's hour of the week is one of the 168. -/
theorem weekSlot_mem (t : Timestamp) : weekSlot t ∈ weekSlots := by
  rw [weekSlot_eq, weekSlots, Finset.mem_product, mem_cells, mem_cells]
  dsimp only
  omega

/-- The slots are those of the first 168 hours, each once. -/
theorem sum_weekSlots (f : ℤ × ℤ → ℤ) :
    ∑ slot ∈ weekSlots, f slot = ∑ n ∈ cells 0 168, f (weekSlot (n * hour)) := by
  have hinj : Set.InjOn (fun n : ℤ => weekSlot (n * hour)) (cells 0 168) := by
    intro m hm n hn h
    have hmod := weekSlot_eq_iff.mp h
    rw [cell_mul hour_pos, cell_mul hour_pos, Int.ModEq] at hmod
    rw [Finset.mem_coe, mem_cells] at hm hn
    omega
  have himage : (cells 0 168).image (fun n => weekSlot (n * hour)) = weekSlots := by
    refine Finset.eq_of_subset_of_card_le ?_ ?_
    · exact Finset.image_subset_iff.mpr fun n _ => weekSlot_mem _
    · rw [Finset.card_image_of_injOn hinj, weekSlots, Finset.card_product]
      rw [card_cells, card_cells, card_cells]
      decide
  rw [← himage, Finset.sum_image hinj]

/-- `_floor_hour` is the start of the hour's cell. -/
theorem floorHour_eq (t : Timestamp) : floorHour t = cell hour t * hour := rfl

/-- A sum that does not overflow is the exact sum. -/
theorem plus_ok {t delta u : Timestamp} (h : plus t delta = .ok u) :
    u = t + delta ∧ representable u = true := by
  unfold plus at h
  split at h
  case isTrue hr =>
    cases h
    exact ⟨rfl, hr⟩
  case isFalse => cases h

/-- A sum within the range of `datetime` does not overflow. -/
theorem plus_of_representable {t delta : Timestamp} (h : representable (t + delta) = true) :
    plus t delta = .ok (t + delta) := if_pos h

/-- `_ceil_hour` is the first whole hour from a time on. -/
theorem ceilHour_ok {t u : Timestamp} (h : ceilHour t = .ok u) : u = Grid.ceil hour t * hour := by
  rw [ceil_eq hour_pos]
  unfold ceilHour at h
  rw [floorHour_eq] at h
  split at h
  case isTrue ht =>
    cases h
    rw [if_pos ht]
  case isFalse ht =>
    rw [if_neg ht, (plus_ok h).1, add_mul, one_mul]

/-! ## The window -/

/-- The instant of an aware value. -/
def DateTime.instant (d : DateTime) : Timestamp := d.wall - (d.tzinfo.map (·.utcoffset)).getD 0

/-- The first whole hour of the observed window. -/
def firstWholeHour (i : DemandInputs) : ℤ :=
  Grid.ceil hour
    (max i.historyStart.instant (i.observedAt.instant - i.lookbackDays * 86400000000))

/-- The hour of the observation. -/
def hourOfObservation (i : DemandInputs) : ℤ := cell hour i.observedAt.instant

/-- A conversion keeps the instant. -/
theorem astimezone_ok {d : DateTime} {tz : TzInfo} {u : Timestamp} (htz : d.tzinfo = some tz)
    (h : astimezone d tz = .ok u) : u = d.instant ∧ representable u = true := by
  obtain ⟨hu, hr⟩ := plus_ok h
  refine ⟨?_, hr⟩
  rw [hu, DateTime.instant, htz]
  rfl

/-- The range of `datetime` in UTC. -/
theorem representable_iff {t : ℤ} :
    representable t = true ↔ -62135596800000000 ≤ t ∧ t ≤ 253402300799999999 := by
  rw [representable, Bool.and_eq_true, decide_eq_true_iff, decide_eq_true_iff]

/-- What `demandWindow` computes from requests that pass the checks. -/
structure WindowOf (i : DemandInputs) (w : DemandWindow) : Prop where
  observed_eq : w.observed = i.observedAt.instant
  observed_representable : representable w.observed = true
  firstHour_ge : -62135596800000000 ≤ w.firstHour
  firstHour_eq : w.firstHour = firstWholeHour i * hour
  observedHour_eq : w.observedHour = hourOfObservation i * hour

/-- Inputs that pass are aware and positive. -/
theorem checkDemandInputs_ok {i : DemandInputs} {startTz observedTz : TzInfo}
    (h : checkDemandInputs i = .ok (startTz, observedTz)) :
    i.historyStart.tzinfo = some startTz ∧ i.observedAt.tzinfo = some observedTz ∧
      0 < i.lookbackDays ∧ 0 < i.horizonHours := by
  unfold checkDemandInputs at h
  split at h
  case h_1 s o hs ho =>
    split at h
    case isTrue => cases h
    case isFalse =>
      split at h
      case isTrue => cases h
      case isFalse hpos =>
        split at h
        case isTrue => cases h
        case isFalse =>
          cases h
          exact ⟨hs, ho, by omega, by omega⟩
  case h_2 => cases h

/-- The window is made of whole hours: from the first one in the history to the one of the
    observation. -/
theorem demandWindow_ok {i : DemandInputs} {startTz observedTz : TzInfo} {w : DemandWindow}
    (hcheck : checkDemandInputs i = .ok (startTz, observedTz))
    (h : demandWindow i startTz observedTz = .ok w) : WindowOf i w := by
  obtain ⟨hs, ho, -, -⟩ := checkDemandInputs_ok hcheck
  obtain ⟨observed, hobs, h⟩ := Raising.bind_ok h
  obtain ⟨start, hstart, h⟩ := Raising.bind_ok h
  obtain ⟨lookback, hlook, h⟩ := Raising.bind_ok h
  obtain ⟨firstHour, hfirst, h⟩ := Raising.bind_ok h
  cases h
  obtain ⟨hobsEq, hobsRep⟩ := astimezone_ok ho hobs
  obtain ⟨hstartEq, hstartRep⟩ := astimezone_ok hs hstart
  refine ⟨hobsEq, hobsRep, ?_, ?_, ?_⟩
  · have hlow := (representable_iff.mp hstartRep).1
    have hceil := (ceil_le_iff hour_pos).mp (le_refl (Grid.ceil hour (max start lookback)))
    show _ ≤ firstHour
    rw [ceilHour_ok hfirst]
    exact le_trans hlow (le_trans (le_max_left _ _) hceil)
  · show firstHour = _
    rw [ceilHour_ok hfirst, firstWholeHour, hstartEq, (plus_ok hlook).1, hobsEq]
    rfl
  · show floorHour observed = _
    rw [floorHour_eq, hobsEq]
    rfl

/-- The hour after one before the observation is representable. -/
theorem WindowOf.next_representable {i : DemandInputs} {w : DemandWindow} (hw : WindowOf i w)
    {c : ℤ} (hfirst : firstWholeHour i ≤ c) (hlt : c < hourOfObservation i) :
    representable ((c + 1) * hour) = true := by
  have hobs := (representable_iff.mp hw.observed_representable).2
  have hcell := cell_mul_le hour_pos w.observed
  have hlow := Int.mul_le_mul_of_nonneg_right (show firstWholeHour i ≤ c + 1 by omega)
    (le_of_lt hour_pos)
  have hhigh := Int.mul_le_mul_of_nonneg_right (Int.add_one_le_of_lt hlt) (le_of_lt hour_pos)
  rw [← hw.firstHour_eq] at hlow
  rw [hourOfObservation, ← hw.observed_eq] at hhigh
  exact representable_iff.mpr
    ⟨le_trans hw.firstHour_ge hlow, le_trans hhigh (le_trans hcell hobs)⟩

/-! ## The first loop -/

/-- After some turns: the cursor stands at hour `c`, and the hours before it are counted. -/
structure OccurrenceInv (first observed : ℤ) (s : OccurrenceState) (c : ℤ) : Prop where
  cursor_eq : s.1 = c * hour
  first_le : first ≤ c
  le_observed : c ≤ observed ∨ c = first
  count_eq : ∀ t, s.2.count (weekSlot t) = (inSlot 168 first c (cell hour t)).card

/-- One turn counts one more hour. -/
theorem OccurrenceInv.body {first observed c : ℤ} {s : OccurrenceState}
    (h : OccurrenceInv first observed s c) (hlt : c < observed)
    (hrep : representable ((c + 1) * hour) = true) :
    ∃ s', occurrenceBody s = some s' ∧ OccurrenceInv first observed s' (c + 1) := by
  obtain ⟨cursor, counts⟩ := s
  obtain rfl : cursor = c * hour := h.cursor_eq
  have hnext : c * hour + hour = (c + 1) * hour := by rw [add_mul, one_mul]
  have hplus : plus (c * hour) hour = .ok ((c + 1) * hour) := by
    rw [← hnext]
    exact plus_of_representable (by rw [hnext]; exact hrep)
  refine ⟨((c + 1) * hour, counts.bump (weekSlot (c * hour)) 1), ?_, rfl, ?_, ?_, ?_⟩
  · rw [occurrenceBody, hplus]
    rfl
  · exact le_trans h.first_le (by omega)
  · exact Or.inl (by omega)
  · intro t
    rw [card_inSlot_succ h.first_le, Dict.count_bump, h.count_eq t]
    congr 1
    refine if_congr ?_ rfl rfl
    rw [weekSlot_eq_iff, cell_mul hour_pos]
    exact Int.modEq_comm

/-- **The loop ends, having counted every hour of the window once.** -/
theorem occurrenceLoop_spec {i : DemandInputs} {w : DemandWindow} (hw : WindowOf i w) {fuel : ℕ}
    (hfuel : (hourOfObservation i - firstWholeHour i).toNat ≤ fuel) :
    ∃ s, occurrenceLoop w fuel = some s ∧ ∀ t, s.2.count (weekSlot t) =
      (inSlot 168 (firstWholeHour i) (hourOfObservation i) (cell hour t)).card := by
  -- the loop goes on while an hour is left before that of the observation
  have hcursor : ∀ {s : OccurrenceState} {c},
      OccurrenceInv (firstWholeHour i) (hourOfObservation i) s c →
      (s.1 < w.observedHour ↔ c < hourOfObservation i) := by
    intro s c h
    rw [h.cursor_eq, hw.observedHour_eq, mul_lt_mul_iff_left₀ hour_pos]
  have hinit : OccurrenceInv (firstWholeHour i) (hourOfObservation i)
      (w.firstHour, Dict.empty) (firstWholeHour i) := by
    refine ⟨hw.firstHour_eq, le_refl _, Or.inr rfl, fun t => ?_⟩
    rw [inSlot, cells_eq_empty (lt_irrefl _)]
    rfl
  have hstep : ∀ s : OccurrenceState,
      (∃ c, OccurrenceInv (firstWholeHour i) (hourOfObservation i) s c) →
      decide (s.1 < w.observedHour) = true → ∃ s', occurrenceBody s = some s' ∧
        (∃ c, OccurrenceInv (firstWholeHour i) (hourOfObservation i) s' c) ∧
        (hourOfObservation i - cell hour s'.1).toNat <
          (hourOfObservation i - cell hour s.1).toNat := by
    rintro s ⟨c, hc⟩ hlt
    have hlt : c < hourOfObservation i := (hcursor hc).mp (of_decide_eq_true hlt)
    obtain ⟨s', hs', hc'⟩ := hc.body hlt (hw.next_representable hc.first_le hlt)
    refine ⟨s', hs', ⟨c + 1, hc'⟩, ?_⟩
    rw [hc.cursor_eq, hc'.cursor_eq, cell_mul hour_pos, cell_mul hour_pos]
    omega
  have hturns : (hourOfObservation i - cell hour w.firstHour).toNat ≤ fuel := by
    rw [hw.firstHour_eq, cell_mul hour_pos]
    exact hfuel
  obtain ⟨s, hs, ⟨c, hc⟩, hdone⟩ := While.loop_of_variant
    (fun s : OccurrenceState => ∃ c,
      OccurrenceInv (firstWholeHour i) (hourOfObservation i) s c)
    (fun s => (hourOfObservation i - cell hour s.1).toNat) hstep ⟨firstWholeHour i, hinit⟩ hturns
  refine ⟨s, hs, fun t => ?_⟩
  -- it ends at that hour, or had none to count
  have hge : ¬ c < hourOfObservation i := fun h => of_decide_eq_false hdone ((hcursor hc).mpr h)
  rw [hc.count_eq]
  rcases hc.le_observed with hle | rfl
  · rw [show c = hourOfObservation i by omega]
  · rw [inSlot, inSlot, cells_eq_empty (by omega), cells_eq_empty (by omega)]

/-- The loop ends, and with more turns it ends the same. -/
theorem occurrenceLoop_ends {i : DemandInputs} {w : DemandWindow} (hw : WindowOf i w) :
    ∃ turns s, ∀ fuel, turns ≤ fuel → occurrenceLoop w fuel = some s := by
  obtain ⟨s, hs, -⟩ := occurrenceLoop_spec hw (le_refl _)
  exact ⟨_, s, fun fuel hfuel => While.loop_mono hfuel hs⟩

/-- The window's hours in number. -/
theorem WindowOf.turns_eq {i : DemandInputs} {w : DemandWindow} (hw : WindowOf i w) :
    (w.observedHour - w.firstHour) / hour = hourOfObservation i - firstWholeHour i := by
  rw [hw.observedHour_eq, hw.firstHour_eq, ← sub_mul]
  exact Int.mul_ediv_cancel _ (ne_of_gt hour_pos)

/-- **The first loop counts the hours of each slot**: the whole hours of the window that fall on it.
    -/
theorem countOccurrences_ok {i : DemandInputs} {w : DemandWindow} (hw : WindowOf i w)
    {occurrenceCounts : Dict (ℤ × ℤ) ℤ} (h : countOccurrences w = .ok occurrenceCounts)
    (t : Timestamp) : occurrenceCounts.count (weekSlot t) =
      (inSlot 168 (firstWholeHour i) (hourOfObservation i) (cell hour t)).card := by
  obtain ⟨s, hs, hcount⟩ := occurrenceLoop_spec hw (le_refl _)
  rw [countOccurrences, hw.turns_eq, hs] at h
  cases h
  exact hcount t

/-! ## The second loop -/

/-- A bucket the forecast accepts: aware, not negative, with a representable UTC value. -/
structure AcceptedBucket (b : DateTime × ℤ) : Prop where
  aware : b.1.tzinfo.isSome = true
  count_ge : 0 ≤ b.2
  utc_representable : representable b.1.instant = true

/-- The UTC hour of each bucket, and its count. -/
def bucketHours (arrivals : List (DateTime × ℤ)) : List (ℤ × ℤ) :=
  arrivals.map fun b => (cell hour b.1.instant, b.2)

/-- The tally after one more bucket. -/
def tallied (first observed : ℤ) (tally : Dict (ℤ × ℤ) ℤ × ℤ) (b : DateTime × ℤ) :
    Dict (ℤ × ℤ) ℤ × ℤ :=
  if first ≤ cell hour b.1.instant ∧ cell hour b.1.instant < observed then
    (tally.1.bump (weekSlot b.1.instant) b.2, tally.2 + b.2)
  else tally

/-- `countBucket` accepts a bucket and tallies it in its UTC hour, or raises. -/
theorem countBucket_iff {i : DemandInputs} {w : DemandWindow} (hw : WindowOf i w)
    {tally tally' : Dict (ℤ × ℤ) ℤ × ℤ} {b : DateTime × ℤ} :
    countBucket w tally b = .ok tally' ↔
      AcceptedBucket b ∧ tally' = tallied (firstWholeHour i) (hourOfObservation i) tally b := by
  obtain ⟨⟨wall, tzinfo⟩, n⟩ := b
  cases tzinfo with
  | none =>
    constructor
    · intro h
      cases h
    · rintro ⟨⟨haware, -, -⟩, -⟩
      cases haware
  | some tz =>
    set d : DateTime := ⟨wall, some tz⟩ with hd
    have hinstant : d.instant = wall + -tz.utcoffset := rfl
    have hslot : weekSlot (floorHour d.instant) = weekSlot d.instant := by
      rw [weekSlot_eq_iff, floorHour_eq, cell_mul hour_pos]
    have hmem : (w.firstHour ≤ floorHour d.instant ∧ floorHour d.instant < w.observedHour) ↔
        firstWholeHour i ≤ cell hour d.instant ∧ cell hour d.instant < hourOfObservation i := by
      rw [hw.firstHour_eq, hw.observedHour_eq, floorHour_eq, mul_le_mul_iff_left₀ hour_pos,
        mul_lt_mul_iff_left₀ hour_pos]
    show (if n < 0 then _ else (astimezone d tz).bind _) = _ ↔ _
    -- a negative count is refused
    by_cases hn : n < 0
    · rw [if_pos hn]
      constructor
      · intro h
        cases h
      · rintro ⟨⟨-, hge, -⟩, -⟩
        exact absurd hn (not_lt.mpr hge)
    · rw [if_neg hn]
      -- an instant is converted if a `datetime` can hold it
      by_cases hrep : representable d.instant = true
      · have hutc : astimezone d tz = .ok d.instant := plus_of_representable hrep
        rw [hutc]
        show (if _ then _ else _) = Except.ok tally' ↔ _
        rw [if_congr hmem rfl rfl, tallied, hslot]
        rw [← apply_ite Except.ok]
        constructor
        · intro h
          exact ⟨⟨rfl, not_lt.mp hn, hrep⟩, (Except.ok.inj h).symm⟩
        · rintro ⟨-, rfl⟩
          rfl
      · have hutc : astimezone d tz = .error .overflowError := if_neg hrep
        rw [hutc]
        constructor
        · intro h
          cases h
        · rintro ⟨⟨-, -, hr⟩, -⟩
          exact absurd hr hrep

/-- What `bucketHours` holds for the slot of an instant. -/
def slotArrivals (i : DemandInputs) (arrivals : List (DateTime × ℤ)) (n : ℤ) : ℤ :=
  sumInSlot 168 (firstWholeHour i) (hourOfObservation i) n (bucketHours arrivals)

/-- The arrivals of the whole window. -/
def windowArrivals (i : DemandInputs) (arrivals : List (DateTime × ℤ)) : ℤ :=
  (((bucketHours arrivals).filter fun x =>
    firstWholeHour i ≤ x.1 ∧ x.1 < hourOfObservation i).map Prod.snd).sum

/-- A bucket counts if its hour is in the window. -/
theorem windowArrivals_cons (i : DemandInputs) (b : DateTime × ℤ)
    (arrivals : List (DateTime × ℤ)) : windowArrivals i (b :: arrivals) =
      (if firstWholeHour i ≤ cell hour b.1.instant ∧
        cell hour b.1.instant < hourOfObservation i then b.2 else 0) +
          windowArrivals i arrivals := by
  unfold windowArrivals
  rw [bucketHours, List.map_cons]
  split
  case isTrue h =>
    rw [List.filter_cons_of_pos (by simpa using h), List.map_cons, List.sum_cons]
    rfl
  case isFalse h =>
    rw [List.filter_cons_of_neg (by simpa using h), zero_add]
    rfl

/-- A tally holds the arrivals of `arrivals` on top of those of `before`. -/
structure TallyOf (i : DemandInputs) (arrivals : List (DateTime × ℤ))
    (before after : Dict (ℤ × ℤ) ℤ × ℤ) : Prop where
  count_eq : ∀ t, after.1.count (weekSlot t) =
    before.1.count (weekSlot t) + slotArrivals i arrivals (cell hour t)
  total_eq : after.2 = before.2 + windowArrivals i arrivals

/-- One bucket. -/
theorem TallyOf.cons {i : DemandInputs} {arrivals : List (DateTime × ℤ)} {b : DateTime × ℤ}
    {before after : Dict (ℤ × ℤ) ℤ × ℤ}
    (h : TallyOf i arrivals (tallied (firstWholeHour i) (hourOfObservation i) before b) after) :
    TallyOf i (b :: arrivals) before after := by
  have hslots : ∀ n, slotArrivals i (b :: arrivals) n =
      (if cell hour b.1.instant ∈ inSlot 168 (firstWholeHour i) (hourOfObservation i) n then b.2
        else 0) + slotArrivals i arrivals n := fun n => sumInSlot_cons _ _ _ _ _ _
  by_cases hmem : firstWholeHour i ≤ cell hour b.1.instant ∧
      cell hour b.1.instant < hourOfObservation i
  · rw [tallied, if_pos hmem] at h
    refine ⟨fun t => ?_, ?_⟩
    · have hiff : weekSlot t = weekSlot b.1.instant ↔ cell hour b.1.instant ∈
          inSlot 168 (firstWholeHour i) (hourOfObservation i) (cell hour t) := by
        rw [mem_inSlot, weekSlot_eq_iff]
        exact ⟨fun he => ⟨hmem, he.symm⟩, fun he => he.2.symm⟩
      rw [h.count_eq, Dict.count_bump, if_congr hiff rfl rfl, hslots, add_assoc]
    · rw [h.total_eq, windowArrivals_cons, if_pos hmem, add_assoc]
  · rw [tallied, if_neg hmem] at h
    refine ⟨fun t => ?_, ?_⟩
    · rw [h.count_eq, hslots, if_neg fun he => hmem (mem_inSlot.mp he).1, zero_add]
    · rw [h.total_eq, windowArrivals_cons, if_neg hmem, zero_add]

/-- **The second loop tallies the buckets**: by induction on them, each adds to its slot and to the
    total. -/
theorem foldlM_countBucket {i : DemandInputs} {w : DemandWindow} (hw : WindowOf i w)
    {arrivals : List (DateTime × ℤ)} {before after : Dict (ℤ × ℤ) ℤ × ℤ}
    (h : arrivals.foldlM (countBucket w) before = .ok after) :
    (∀ b ∈ arrivals, AcceptedBucket b) ∧ TallyOf i arrivals before after := by
  induction arrivals generalizing before with
  | nil =>
    cases h
    exact ⟨by simp, fun t => (add_zero _).symm, (add_zero _).symm⟩
  | cons b arrivals ih =>
    rw [List.foldlM_cons] at h
    obtain ⟨next, hnext, h⟩ := Raising.bind_ok h
    obtain ⟨hb, rfl⟩ := (countBucket_iff hw).mp hnext
    obtain ⟨hall, htally⟩ := ih h
    exact ⟨List.forall_mem_cons.mpr ⟨hb, hall⟩, htally.cons⟩

/-- **The second loop tallies every bucket in its UTC hour.** -/
theorem countArrivals_ok {i : DemandInputs} {w : DemandWindow} (hw : WindowOf i w)
    {arrivals : List (DateTime × ℤ)} {tally : Dict (ℤ × ℤ) ℤ × ℤ}
    (h : countArrivals w arrivals = .ok tally) :
    (∀ b ∈ arrivals, AcceptedBucket b) ∧
      (∀ t, tally.1.count (weekSlot t) = slotArrivals i arrivals (cell hour t)) ∧
      tally.2 = windowArrivals i arrivals := by
  obtain ⟨hall, hcount, htotal⟩ := foldlM_countBucket hw h
  refine ⟨hall, fun t => ?_, ?_⟩
  · rw [hcount, Dict.count_empty, zero_add]
  · rw [htotal, zero_add]

/-- Buckets that are all accepted are tallied. -/
theorem countArrivals_of_accepted {i : DemandInputs} {w : DemandWindow} (hw : WindowOf i w)
    {arrivals : List (DateTime × ℤ)} (hall : ∀ b ∈ arrivals, AcceptedBucket b) :
    ∃ tally, countArrivals w arrivals = .ok tally := by
  unfold countArrivals
  generalize ((Dict.empty, 0) : Dict (ℤ × ℤ) ℤ × ℤ) = before
  induction arrivals generalizing before with
  | nil => exact ⟨before, rfl⟩
  | cons b arrivals ih =>
    obtain ⟨hb, hrest⟩ := List.forall_mem_cons.mp hall
    rw [List.foldlM_cons, (countBucket_iff hw).mpr ⟨hb, rfl⟩]
    exact ih hrest _

/-! ## The forecast of an hour -/

/-- The whole hours of the window a whole number of weeks away from hour `n`. -/
def slotOccurrences (i : DemandInputs) (n : ℤ) : ℤ :=
  (inSlot 168 (firstWholeHour i) (hourOfObservation i) n).card

/-- An hour of the forecast says the counts of its slot, and their quotient where it has occurred.
    -/
theorem forecastHour_ok {ops : FloatOps} {w : DemandWindow} {occ arr : Dict (ℤ × ℤ) ℤ} {k : ℕ}
    {item : GpuDemandHour} (h : forecastHour ops w occ arr k = .ok item) :
    item.hourStart = w.observedHour + (k + 1 : ℤ) * hour ∧
      item.historicalOccurrences = occ.count (weekSlot item.hourStart) ∧
      item.historicalArrivals = arr.count (weekSlot item.hourStart) ∧
      (item.historicalOccurrences ≠ 0 →
        ops.truediv item.historicalArrivals item.historicalOccurrences =
          .ok item.predictedArrivals) := by
  obtain ⟨hourStart, hplus, h⟩ := Raising.bind_ok h
  obtain ⟨predicted, hpred, h⟩ := Raising.bind_ok h
  split at h
  case isFalse => cases h
  case isTrue ho =>
    split at h
    case isFalse => cases h
    case isTrue ha =>
      split at h
      case isFalse => cases h
      case isTrue hp =>
        cases h
        refine ⟨(plus_ok hplus).1, rfl, rfl, fun hne => ?_⟩
        exact (if_pos hne).symm.trans hpred

/-- An hour whose slot was never observed is forecast without arrivals. -/
theorem forecastHour_idle (ops : FloatOps) {w : DemandWindow} {occ arr : Dict (ℤ × ℤ) ℤ} {k : ℕ}
    (hrep : representable (w.observedHour + (k + 1 : ℤ) * hour) = true)
    (ho : occ.count (weekSlot (w.observedHour + (k + 1 : ℤ) * hour)) = 0)
    (ha : 0 ≤ arr.count (weekSlot (w.observedHour + (k + 1 : ℤ) * hour))) :
    ∃ item, forecastHour ops w occ arr k = .ok item ∧ item.predictedArrivals = .finite 0 := by
  refine ⟨⟨w.observedHour + (k + 1 : ℤ) * hour, 0, _, .finite 0, le_refl _, ha, rfl⟩, ?_, rfl⟩
  unfold forecastHour
  rw [plus_of_representable hrep]
  show Except.bind (predictArrivals ops _ _) _ = _
  have hpred : ∀ arrivals, predictArrivals ops arrivals 0 = .ok (.finite 0) := fun _ => rfl
  simp only [ho, hpred, Except.bind, le_refl, ha, dite_true]
  rfl

/-- The forecast reads the counters at week slots only. -/
theorem forecastHour_congr (ops : FloatOps) (w : DemandWindow) (occ : Dict (ℤ × ℤ) ℤ)
    {arr arr' : Dict (ℤ × ℤ) ℤ}
    (h : ∀ t, arr.count (weekSlot t) = arr'.count (weekSlot t)) (k : ℕ) :
    forecastHour ops w occ arr k = forecastHour ops w occ arr' k := by
  unfold forecastHour
  refine Raising.bind_congr fun hourStart _ => ?_
  dsimp only
  simp only [h hourStart]

/-- The forecast's hours follow the hour of the observation, one after the other. -/
theorem forecastHours_starts {ops : FloatOps} {w : DemandWindow} {occ arr : Dict (ℤ × ℤ) ℤ}
    {ks : List ℕ} {items : List GpuDemandHour}
    (h : List.Forall₂ (fun k item => forecastHour ops w occ arr k = .ok item) ks items) :
    items.map (·.hourStart) = ks.map fun k : ℕ => w.observedHour + (k + 1 : ℤ) * hour := by
  induction h with
  | nil => rfl
  | cons hk _ ih => rw [List.map_cons, List.map_cons, ih, (forecastHour_ok hk).1]

/-- The forecast consists of these hours and says how many the history had. -/
theorem finishForecast_ok {ops : FloatOps} {i : DemandInputs} {w : DemandWindow}
    {occ arr : Dict (ℤ × ℤ) ℤ} {jobs : ℤ} {f : GpuDemandForecast}
    (h : finishForecast ops i w occ arr jobs = .ok f) :
    List.Forall₂ (fun k item => forecastHour ops w occ arr k = .ok item)
        (List.range i.horizonHours.toNat) f.hours ∧
      f.observedHistoryHours = max 0 ((w.observedHour - w.firstHour) / hour) ∧
      f.historicalCudaJobs = jobs := by
  obtain ⟨hours, hhours, h⟩ := Raising.bind_ok h
  obtain ⟨projected, -, h⟩ := Raising.bind_ok h
  obtain ⟨available, -, h⟩ := Raising.bind_ok h
  split at h
  case isTrue => cases h
  case isFalse =>
    obtain ⟨-, -, h⟩ := Raising.bind_ok h
    obtain ⟨-, -, h⟩ := Raising.bind_ok h
    obtain ⟨-, -, h⟩ := Raising.bind_ok h
    obtain ⟨-, -, h⟩ := Raising.bind_ok h
    obtain ⟨-, -, h⟩ := Raising.bind_ok h
    cases h
    exact ⟨Raising.mapM_ok hhours, rfl, rfl⟩

/-- The forecast depends on the counts of the slots only. -/
theorem finishForecast_congr (ops : FloatOps) (i : DemandInputs) (w : DemandWindow)
    (occ : Dict (ℤ × ℤ) ℤ) {arr arr' : Dict (ℤ × ℤ) ℤ}
    (h : ∀ t, arr.count (weekSlot t) = arr'.count (weekSlot t)) (jobs : ℤ) :
    finishForecast ops i w occ arr jobs = finishForecast ops i w occ arr' jobs := by
  unfold finishForecast
  rw [funext (forecastHour_congr ops w occ h)]

/-- What a forecast that is returned went through. -/
theorem forecastGpuDemand_ok {ops : FloatOps} {i : DemandInputs} {f : GpuDemandForecast}
    (h : forecastGpuDemand ops i = .ok f) :
    ∃ startTz observedTz w occ tally, checkDemandInputs i = .ok (startTz, observedTz) ∧
      demandWindow i startTz observedTz = .ok w ∧ countOccurrences w = .ok occ ∧
      countArrivals w i.hourlyArrivals = .ok tally ∧
      finishForecast ops i w occ tally.1 tally.2 = .ok f := by
  obtain ⟨⟨startTz, observedTz⟩, hcheck, h⟩ := Raising.bind_ok h
  obtain ⟨w, hw, h⟩ := Raising.bind_ok h
  obtain ⟨occ, hocc, h⟩ := Raising.bind_ok h
  obtain ⟨tally, harr, h⟩ := Raising.bind_ok h
  exact ⟨startTz, observedTz, w, occ, tally, hcheck, hw, hocc, harr, h⟩

/-- The forecast of a request whose parts do not raise. -/
theorem forecastGpuDemand_eq (ops : FloatOps) {i : DemandInputs} {startTz observedTz : TzInfo}
    {w : DemandWindow} {occ : Dict (ℤ × ℤ) ℤ} {tally : Dict (ℤ × ℤ) ℤ × ℤ}
    (hcheck : checkDemandInputs i = .ok (startTz, observedTz))
    (hw : demandWindow i startTz observedTz = .ok w) (hocc : countOccurrences w = .ok occ)
    (harr : countArrivals w i.hourlyArrivals = .ok tally) :
    forecastGpuDemand ops i = finishForecast ops i w occ tally.1 tally.2 := by
  unfold forecastGpuDemand
  show (checkDemandInputs i).bind _ = _
  rw [hcheck]
  show (demandWindow i startTz observedTz).bind _ = _
  rw [hw]
  show (countOccurrences w).bind _ = _
  rw [hocc]
  show (countArrivals w i.hourlyArrivals).bind _ = _
  rw [harr]
  rfl

/-- What the buckets hold for one UTC hour. -/
def hourArrivals (arrivals : List (DateTime × ℤ)) (n : ℤ) : ℤ := sumAt n (bucketHours arrivals)

/-- The arrivals of a slot are those of its hours. -/
theorem slotArrivals_eq (i : DemandInputs) (arrivals : List (DateTime × ℤ)) (n : ℤ) :
    slotArrivals i arrivals n = ∑ h ∈ inSlot 168 (firstWholeHour i) (hourOfObservation i) n,
      hourArrivals arrivals h := sumInSlot_eq _ _ _ _ _

/-- The arrivals of all slots are those of the window. -/
theorem sum_slotArrivals (i : DemandInputs) (arrivals : List (DateTime × ℤ)) :
    ∑ n ∈ cells 0 168, slotArrivals i arrivals n = windowArrivals i arrivals :=
  sum_sumInSlot (by decide) _ _ _

/-- The forecast hours follow the hour of the observation; each reads the occurrences of its slot,
    and the arrivals in them. -/
theorem forecastGpuDemand_hours {ops : FloatOps} {i : DemandInputs} {f : GpuDemandForecast}
    (h : forecastGpuDemand ops i = .ok f) :
    f.hours.map (·.hourStart) = (List.range i.horizonHours.toNat).map (fun k : ℕ =>
      (hourOfObservation i + 1 + (k : ℤ)) * hour) ∧
    (∀ item ∈ f.hours,
      item.historicalOccurrences = slotOccurrences i (cell hour item.hourStart) ∧
      item.historicalArrivals = slotArrivals i i.hourlyArrivals (cell hour item.hourStart) ∧
      (item.historicalOccurrences ≠ 0 →
        ops.truediv item.historicalArrivals item.historicalOccurrences =
          .ok item.predictedArrivals)) ∧
    f.historicalCudaJobs = windowArrivals i i.hourlyArrivals := by
  obtain ⟨startTz, observedTz, w, occ, tally, hcheck, hw, hocc, harr, hfinish⟩ :=
    forecastGpuDemand_ok h
  have hwin := demandWindow_ok hcheck hw
  obtain ⟨-, harrivals, htotal⟩ := countArrivals_ok hwin harr
  obtain ⟨hhours, -, hjobs⟩ := finishForecast_ok hfinish
  refine ⟨?_, fun item hitem => ?_, hjobs.trans htotal⟩
  · have hstarts := forecastHours_starts hhours
    rw [hwin.observedHour_eq] at hstarts
    rw [hstarts]
    exact List.map_congr_left fun k _ => by ring
  · obtain ⟨k, -, hk⟩ := Raising.forall₂_mem_right hhours hitem
    obtain ⟨-, ho, ha, hdiv⟩ := forecastHour_ok hk
    rw [countOccurrences_ok hwin hocc] at ho
    rw [harrivals] at ha
    exact ⟨ho, ha, hdiv⟩

/-- **Only the arrivals of each UTC hour matter**, not how they are cut into buckets. -/
theorem forecastGpuDemand_congr {ops : FloatOps} {i : DemandInputs} {f : GpuDemandForecast}
    (h : forecastGpuDemand ops i = .ok f) {arrivals : List (DateTime × ℤ)}
    (hall : ∀ b ∈ arrivals, AcceptedBucket b)
    (hsame : ∀ n, hourArrivals arrivals n = hourArrivals i.hourlyArrivals n) :
    forecastGpuDemand ops { i with hourlyArrivals := arrivals } = .ok f := by
  obtain ⟨startTz, observedTz, w, occ, tally, hcheck, hw, hocc, harr, hfinish⟩ :=
    forecastGpuDemand_ok h
  have hwin := demandWindow_ok hcheck hw
  obtain ⟨tally', harr'⟩ := countArrivals_of_accepted hwin hall
  obtain ⟨-, hcount, htotal⟩ := countArrivals_ok hwin harr
  obtain ⟨-, hcount', htotal'⟩ := countArrivals_ok hwin harr'
  have hslots : ∀ n, slotArrivals i arrivals n = slotArrivals i i.hourlyArrivals n := by
    intro n
    rw [slotArrivals_eq, slotArrivals_eq]
    exact Finset.sum_congr rfl fun h _ => hsame h
  have htotals : tally'.2 = tally.2 := by
    rw [htotal, htotal', ← sum_slotArrivals, ← sum_slotArrivals]
    exact Finset.sum_congr rfl fun n _ => hslots n
  have hcounts : ∀ t, tally'.1.count (weekSlot t) = tally.1.count (weekSlot t) := by
    intro t
    rw [hcount, hcount', hslots]
  have heq := forecastGpuDemand_eq ops (i := { i with hourlyArrivals := arrivals }) hcheck hw hocc
    harr'
  rw [heq, finishForecast_congr _ _ _ _ hcounts, htotals]
  exact hfinish

/-- The order of the buckets does not matter. -/
theorem hourArrivals_perm {arrivals arrivals' : List (DateTime × ℤ)}
    (h : arrivals'.Perm arrivals) (n : ℤ) : hourArrivals arrivals' n = hourArrivals arrivals n :=
  (((h.map _).filter _).map _).sum_eq

/-- The arrivals in more buckets add up. -/
theorem hourArrivals_append (arrivals arrivals' : List (DateTime × ℤ)) (n : ℤ) :
    hourArrivals (arrivals ++ arrivals') n =
      hourArrivals arrivals n + hourArrivals arrivals' n := by
  rw [hourArrivals, bucketHours, List.map_append, sumAt_append]
  rfl

/-- Buckets of one hour hold what they hold together. -/
theorem hourArrivals_of_hour {parts : List (DateTime × ℤ)} {m : ℤ}
    (h : ∀ b ∈ parts, cell hour b.1.instant = m) (n : ℤ) :
    hourArrivals parts n = if m = n then (parts.map Prod.snd).sum else 0 := by
  have hfilter : (bucketHours parts).filter (fun x => x.1 = n) =
      if m = n then bucketHours parts else [] := by
    split
    case isTrue hmn =>
      refine List.filter_eq_self.mpr fun x hx => ?_
      obtain ⟨b, hb, rfl⟩ := List.mem_map.mp hx
      simpa [hmn] using h b hb
    case isFalse hmn =>
      refine List.filter_eq_nil_iff.mpr fun x hx => ?_
      obtain ⟨b, hb, rfl⟩ := List.mem_map.mp hx
      simpa [h b hb] using hmn
  rw [hourArrivals, sumAt, hfilter]
  split
  case isTrue => rw [bucketHours, List.map_map]; rfl
  case isFalse => rfl

/-- **Every observed hour is counted once.**  For every accepted request the first loop ends; and
    in a returned forecast an hour's occurrences are the whole hours of the window a whole number
    of weeks away, its arrivals what the buckets hold for them, an arrival is divided by a positive
    count, the counters of the 168 slots add up to the totals, and the buckets' order and the way
    an hour's arrivals are split among buckets do not matter. -/
theorem forecastGpuDemand_counts (ops : FloatOps) (i : DemandInputs) :
    (∀ startTz observedTz w, checkDemandInputs i = .ok (startTz, observedTz) →
      demandWindow i startTz observedTz = .ok w →
        ∃ turns s, ∀ fuel, turns ≤ fuel → occurrenceLoop w fuel = some s) ∧
    ∀ f, forecastGpuDemand ops i = .ok f →
      f.hours.map (·.hourStart) = (List.range i.horizonHours.toNat).map (fun k : ℕ =>
        (hourOfObservation i + 1 + (k : ℤ)) * hour) ∧
      (∀ item ∈ f.hours,
        item.historicalOccurrences = slotOccurrences i (cell hour item.hourStart) ∧
        item.historicalArrivals = slotArrivals i i.hourlyArrivals (cell hour item.hourStart) ∧
        (item.historicalArrivals ≠ 0 → 0 < item.historicalOccurrences ∧
          ops.truediv item.historicalArrivals item.historicalOccurrences =
            .ok item.predictedArrivals)) ∧
      (∀ n, 0 < slotArrivals i i.hourlyArrivals n → 0 < slotOccurrences i n) ∧
      (∃ w occ tally, countOccurrences w = .ok occ ∧ countArrivals w i.hourlyArrivals = .ok tally ∧
        (∀ n, occ.count (weekSlot (n * hour)) = slotOccurrences i n) ∧
        (∀ n, tally.1.count (weekSlot (n * hour)) = slotArrivals i i.hourlyArrivals n) ∧
        ∑ slot ∈ weekSlots, occ.count slot = f.observedHistoryHours ∧
        ∑ slot ∈ weekSlots, tally.1.count slot = f.historicalCudaJobs) ∧
      (∀ arrivals : List (DateTime × ℤ), arrivals.Perm i.hourlyArrivals →
        forecastGpuDemand ops { i with hourlyArrivals := arrivals } = .ok f) ∧
      (∀ before after parts bucket, i.hourlyArrivals = before ++ bucket :: after →
        (∀ part ∈ parts, AcceptedBucket part ∧
          cell hour part.1.instant = cell hour bucket.1.instant) →
        (parts.map Prod.snd).sum = bucket.2 →
        forecastGpuDemand ops { i with hourlyArrivals := before ++ parts ++ after } = .ok f) := by
  refine ⟨fun startTz observedTz w hcheck hw => ?_, fun f h => ?_⟩
  · exact occurrenceLoop_ends (demandWindow_ok hcheck hw)
  obtain ⟨startTz, observedTz, w, occ, tally, hcheck, hw, hocc, harr, hfinish⟩ :=
    forecastGpuDemand_ok h
  have hwin := demandWindow_ok hcheck hw
  have hoccurrences := countOccurrences_ok hwin hocc
  obtain ⟨hall, harrivals, -⟩ := countArrivals_ok hwin harr
  obtain ⟨-, hhistory, -⟩ := finishForecast_ok hfinish
  obtain ⟨hstarts, hitems, hjobs⟩ := forecastGpuDemand_hours h
  -- a slot with an arrival has the hour of that arrival
  have hpositive : ∀ n, slotArrivals i i.hourlyArrivals n ≠ 0 → 0 < slotOccurrences i n :=
    fun n hn => Int.natCast_pos.mpr (card_inSlot_pos hn)
  refine ⟨hstarts, fun item hitem => ?_, fun n hn => hpositive n (ne_of_gt hn), ?_, ?_, ?_⟩
  · obtain ⟨ho, ha, hdiv⟩ := hitems item hitem
    refine ⟨ho, ha, fun hne => ?_⟩
    have hpos : 0 < item.historicalOccurrences := by
      rw [ho]
      exact hpositive _ (ha ▸ hne)
    exact ⟨hpos, hdiv (ne_of_gt hpos)⟩
  · refine ⟨w, occ, tally, hocc, harr, fun n => ?_, fun n => ?_, ?_, ?_⟩
    · rw [hoccurrences, cell_mul hour_pos]
      rfl
    · rw [harrivals, cell_mul hour_pos]
    · rw [sum_weekSlots, hhistory, hwin.turns_eq, ← sum_inSlot (by decide : (0 : ℤ) < 168)]
      refine Finset.sum_congr rfl fun n _ => ?_
      rw [hoccurrences, cell_mul hour_pos]
    · rw [sum_weekSlots, hjobs, ← sum_slotArrivals]
      refine Finset.sum_congr rfl fun n _ => ?_
      rw [harrivals, cell_mul hour_pos]
  · intro arrivals hperm
    exact forecastGpuDemand_congr h (fun b hb => hall b (hperm.mem_iff.mp hb))
      (hourArrivals_perm hperm)
  · intro before after parts bucket hsplit hparts hsum
    rw [hsplit] at hall
    refine forecastGpuDemand_congr h ?_ fun n => ?_
    · intro b hb
      rw [List.mem_append, List.mem_append] at hb
      rcases hb with (hb | hb) | hb
      · exact hall b (List.mem_append_left _ hb)
      · exact (hparts b hb).1
      · exact hall b (List.mem_append_right _ (List.mem_cons_of_mem _ hb))
    · have hone : hourArrivals [bucket] n =
          if cell hour bucket.1.instant = n then bucket.2 else 0 := by
        rw [hourArrivals_of_hour fun b hb => by rw [List.mem_singleton.mp hb],
          List.map_singleton, List.sum_singleton]
      rw [hsplit, ← List.singleton_append, hourArrivals_append, hourArrivals_append,
        hourArrivals_append, hourArrivals_append, hone,
        hourArrivals_of_hour fun b hb => (hparts b hb).2, hsum, add_assoc]

namespace Sample

/-- The time zone two hours ahead of UTC. -/
def ahead : TzInfo := ⟨0, 2 * hour⟩

/-- Float arithmetic that is exact. -/
def exactOps : FloatOps where
  truediv x y := .ok (.finite ((x : ℚ) / y))
  sum _ := .finite 0
  add x _ := x
  mul x _ := x
  div x _ := x

/-- Four observed hours with three arrivals in the second, written at 05:10 and 05:20 local time. -/
def inputs : DemandInputs where
  hourlyArrivals :=
    [(⟨5 * hour + 600000000, some ahead⟩, 1), (⟨5 * hour + 1200000000, some ahead⟩, 2)]
  historyStart := ⟨4 * hour, some ahead⟩
  observedAt := ⟨8 * hour + 1, some ahead⟩
  currentQueuedCudaJobs := 0
  currentRunningCudaJobs := 0
  activeCudaWorkers := 0
  durationEstimate := none
  lookbackDays := 1
  horizonHours := 1

end Sample

/-- The worked history of four whole hours with three jobs. -/
theorem forecastGpuDemand_counts_sample :
    ((forecastGpuDemand Sample.exactOps Sample.inputs).toOption.map fun f =>
      (f.historicalCudaJobs, f.observedHistoryHours)) = some (3, 4) ∧
    ∀ f, forecastGpuDemand Sample.exactOps Sample.inputs = .ok f → ∀ item ∈ f.hours,
      item.historicalOccurrences = slotOccurrences Sample.inputs (cell hour item.hourStart) := by
  refine ⟨by decide +kernel, fun f h item hitem => ?_⟩
  exact (((forecastGpuDemand_counts Sample.exactOps Sample.inputs).2 f h).2.1 item hitem).1

end AEControl.Jobs
