/-
  The stored demand history (`ArtifactStore.gpu_demand_forecast`): jobs cut into hours by
  PostgreSQL, then again by the forecast.

  `date_trunc('hour', created_at)` cuts the wall clock of the session's time zone, the forecast cuts
  UTC.  The two agree where the zone's offset is of whole hours; where it is not, a job created
  before the zone's cut within its UTC hour (`cutBack`) is attributed to the hour before.

  Structure of the proof:
  1. `cell_truncHour`: the zone's cut lies in the UTC hour of the job, or in the one before it;
  2. **the crux**, `countP_bucket`: after both cuts the buckets hold each job of the query at its
     UTC hour, or one hour earlier if it is cut back;
  3. `slot_iff` and `total_iff`: the counts of a slot, and of the window, are right exactly if as
     many jobs are cut out of it as into it (`Balanced`);
  4. `attributedRight_iff` for a forecast that is returned, and `storedDemandForecast_attribution`
     for the zones with one offset: those of whole hours attribute every job right.
-/
import Mathlib.Algebra.BigOperators.Group.List.Lemmas
import AEControl.Jobs.Demand

namespace AEControl.Jobs

open Grid

/-! ## The query -/

/-- The time zone of a database session: its offset from UTC at an instant, less than a day. -/
structure SessionZone where
  utcoffset : Timestamp → Timestamp
  offset_lt : ∀ t, -86400000000 < utcoffset t ∧ utcoffset t < 86400000000

namespace SessionZone

/-- A zone with one offset. -/
def fixed (o : Timestamp) (h : -86400000000 < o ∧ o < 86400000000) : SessionZone :=
  ⟨fun _ => o, fun _ => h⟩

/-- A `TIMESTAMPTZ` as the client library returns it, where a `datetime` can hold it. -/
def fetch (zone : SessionZone) (t : Timestamp) : Except DemandError DateTime :=
  if representable t && representable (t + zone.utcoffset t) then
    .ok ⟨t + zone.utcoffset t, some ⟨1, zone.utcoffset t⟩⟩
  else .error .dataError

/-- `date_trunc('hour', created_at)`; below a day the instant's own offset is kept. -/
def truncHour (zone : SessionZone) (createdAt : Timestamp) : Timestamp :=
  Jobs.truncHour (zone.utcoffset createdAt) createdAt

end SessionZone

/-- `demandHistory`, in a session whose zone need not have one offset. -/
def zonedHistory (zone : SessionZone) (observedAt : Timestamp) (q : Queue) : DemandHistory :=
  let historyStart := (demandHistory 0 observedAt q).historyStart
  let hours := (q.jobs.filter fun j => j.requiredAccelerator = .cuda &&
    historyStart ≤ j.createdAt && j.createdAt < observedAt).map fun j => zone.truncHour j.createdAt
  { historyStart := historyStart
    arrivals := (hours.dedup.insertionSort (· ≤ ·)).map fun h => (h, hours.count h)
    queued := q.jobs.countP fun j => j.requiredAccelerator = .cuda && j.status = .queued
    running := q.jobs.countP fun j => j.requiredAccelerator = .cuda && j.status = .running }

/-- A UTC `datetime`. -/
def utcDateTime (t : Timestamp) : DateTime := ⟨t, some ⟨0, 0⟩⟩

/-- The request `gpu_demand_forecast` makes of what it has read. -/
def demandRequest (observedAt : Timestamp) (history : DemandHistory)
    (hourlyArrivals : List (DateTime × ℤ)) (active : ℕ) (estimate : Option DurationEstimate) :
    DemandInputs where
  hourlyArrivals := hourlyArrivals
  historyStart := utcDateTime history.historyStart
  observedAt := utcDateTime observedAt
  currentQueuedCudaJobs := history.queued
  currentRunningCudaJobs := history.running
  activeCudaWorkers := active
  durationEstimate := estimate

/-- `rows`, as the client library returns them. -/
def fetchArrivals (zone : SessionZone) (arrivals : List (Timestamp × ℕ)) :
    Except DemandError (List (DateTime × ℤ)) :=
  arrivals.mapM fun (hourStart, count) => (·, (count : ℤ)) <$> zone.fetch hourStart

/-- `ArtifactStore.gpu_demand_forecast`, observed at a UTC instant.  Of the zone of `history_start`
    only the instant matters, so it stands in UTC. -/
def storedDemandForecast (ops : FloatOps)
    (aggregate : List (Option MigProfile × Timestamp) → List (Option MigProfile × DurationEstimate))
    (zone : SessionZone) (observedAt : Timestamp) (given : Option (List WorkerRecord)) (q : Queue)
    (workers : List WorkerRecord) : Except DemandError GpuDemandForecast := do
  let _ ← plus observedAt (-(defaultLookbackDays * 86400000000))
  let _ ← ((q.jobs.map EvaluationJob.createdAt).min?).mapM zone.fetch
  let history := zonedHistory zone observedAt q
  let rows ← fetchArrivals zone history.arrivals
  let allCuda := (gpuDurationEstimates aggregate q).find? fun item => item.1.isNone
  forecastGpuDemand ops (demandRequest observedAt history rows
    (activeCudaWorkers observedAt (given.getD (listWorkers workers))) (allCuda.map Prod.snd))

/-! ## Jobs and buckets -/

/-- The session's cut falls within the UTC hour of `t`, and after `t`. -/
def cutBack (zone : SessionZone) (t : Timestamp) : Bool :=
  0 < zone.utcoffset t % hour && t % hour + zone.utcoffset t % hour < hour

/-- An offset of whole hours cuts nothing back. -/
theorem cutBack_of_whole {zone : SessionZone} {t : Timestamp} (h : zone.utcoffset t % hour = 0) :
    cutBack zone t = false := by
  rw [cutBack, h]
  rfl

/-- **Where `date_trunc` cuts in the session's zone**: in the hour's cell, or in the one before it.
    -/
theorem cell_truncHour (zone : SessionZone) (t : Timestamp) :
    cell hour (zone.truncHour t) = if cutBack zone t then cell hour t - 1 else cell hour t := by
  show cell hour (floorIn hour (zone.utcoffset t) t) = _
  rw [cell_floorIn hour_pos]
  refine if_congr ?_ rfl rfl
  rw [cutBack, Bool.and_eq_true, decide_eq_true_iff, decide_eq_true_iff]

/-- A fetched time is the same instant. -/
theorem fetch_ok {zone : SessionZone} {t : Timestamp} {d : DateTime} (h : zone.fetch t = .ok d) :
    d.instant = t := by
  unfold SessionZone.fetch at h
  split at h
  case isTrue =>
    cases h
    exact add_sub_cancel_right _ _
  case isFalse => cases h

/-- The forecast accepts the buckets that come back. -/
theorem accepted_of_fetch {zone : SessionZone} {t : Timestamp} {d : DateTime} {n : ℤ}
    (h : zone.fetch t = .ok d) (hn : 0 ≤ n) : AcceptedBucket (d, n) := by
  have hinstant := fetch_ok h
  unfold SessionZone.fetch at h
  split at h
  case isTrue hrep =>
    refine ⟨?_, hn, ?_⟩
    · cases h
      rfl
    · rw [hinstant]
      exact (Bool.and_eq_true_iff.mp hrep).1
  case isFalse => cases h

/-- What comes back are the instants that were sent. -/
theorem bucketHours_fetchArrivals {zone : SessionZone} {arrivals : List (Timestamp × ℕ)}
    {rows : List (DateTime × ℤ)} (h : fetchArrivals zone arrivals = .ok rows) :
    bucketHours rows = arrivals.map fun x => (cell hour x.1, (x.2 : ℤ)) := by
  have hrel := Raising.mapM_ok h
  clear h
  induction hrel with
  | nil => rfl
  | cons hrow _ ih =>
    obtain ⟨d, hd, rfl⟩ := Raising.map_ok hrow
    rw [List.map_cons, ← ih, ← fetch_ok hd]
    rfl

/-- Values counted apart add up to the values counted together. -/
theorem sum_counted (hours : List Timestamp) (p : ℤ → Bool) :
    (((((hours.dedup.insertionSort (· ≤ ·)).map fun h => (h, hours.count h)).map fun x =>
      (cell hour x.1, (x.2 : ℤ))).filter fun x => p x.1).map Prod.snd).sum =
      (hours.countP fun h => p (cell hour h) : ℕ) := by
  have hdedup := List.sum_map_count_dedup_filter_eq_countP (fun h => p (cell hour h)) hours
  have hsort := (List.perm_insertionSort (· ≤ ·) hours.dedup).filter fun h => p (cell hour h)
  rw [← hdedup, ← (hsort.map fun h => hours.count h).sum_eq, List.map_map, List.filter_map,
    List.map_map, Nat.cast_list_sum, List.map_map]
  rfl

/-- The jobs the query reads. -/
def queried (observedAt : Timestamp) (q : Queue) (j : EvaluationJob) : Bool :=
  j.requiredAccelerator = .cuda && (demandHistory 0 observedAt q).historyStart ≤ j.createdAt &&
    j.createdAt < observedAt

/-- **The buckets of the query** hold its jobs, each at the UTC hour its bucket starts in. -/
theorem countP_bucket {zone : SessionZone} {observedAt : Timestamp} {q : Queue}
    {rows : List (DateTime × ℤ)}
    (h : fetchArrivals zone (zonedHistory zone observedAt q).arrivals = .ok rows) (p : ℤ → Bool) :
    (((bucketHours rows).filter fun x => p x.1).map Prod.snd).sum =
      (q.jobs.countP fun j => queried observedAt q j &&
        p (if cutBack zone j.createdAt then cell hour j.createdAt - 1
          else cell hour j.createdAt) : ℕ) := by
  rw [bucketHours_fetchArrivals h]
  refine (sum_counted _ p).trans ?_
  rw [List.countP_map, List.countP_filter]
  refine congrArg Nat.cast (List.countP_congr fun j _ => ?_)
  rw [Function.comp_apply, cell_truncHour, Bool.and_comm]
  rfl

/-! ## Attribution -/

/-- The first whole UTC hour of the observed history. -/
def firstObservedHour (observedAt : Timestamp) (q : Queue) : ℤ :=
  Grid.ceil hour (demandHistory 0 observedAt q).historyStart

/-- A CUDA job. -/
def isCuda (j : EvaluationJob) : Bool := j.requiredAccelerator = .cuda

/-- The UTC hours of the observed history in the slot of hour `n`. -/
def observedSlot (observedAt : Timestamp) (q : Queue) (n : ℤ) : Finset ℤ :=
  inSlot 168 (firstObservedHour observedAt q) (cell hour observedAt) n

/-- Every CUDA job counts in the UTC hour it was created in, and in no other. -/
structure AttributedRight (observedAt : Timestamp) (q : Queue) (f : GpuDemandForecast) : Prop where
  hours : ∀ item ∈ f.hours, item.historicalArrivals = (q.jobs.countP fun j =>
    isCuda j && cell hour j.createdAt ∈ observedSlot observedAt q (cell hour item.hourStart) : ℕ)
  total : f.historicalCudaJobs = (q.jobs.countP fun j => isCuda j &&
    (firstObservedHour observedAt q ≤ cell hour j.createdAt &&
      cell hour j.createdAt < cell hour observedAt) : ℕ)

/-- What is cut out of an hour and what is cut into it are as many: in the slot of each forecast
    hour, and at the two ends of the history. -/
structure Balanced (zone : SessionZone) (observedAt : Timestamp) (q : Queue) : Prop where
  slots : ∀ k : ℕ, k < 24 →
    (q.jobs.countP fun j => (isCuda j && cell hour j.createdAt ∈
      observedSlot observedAt q (cell hour observedAt + 1 + k)) && cutBack zone j.createdAt) =
    q.jobs.countP fun j => (isCuda j && j.createdAt < observedAt && cell hour j.createdAt - 1 ∈
      observedSlot observedAt q (cell hour observedAt + 1 + k)) && cutBack zone j.createdAt
  ends : firstObservedHour observedAt q < cell hour observedAt →
    (q.jobs.countP fun j => (isCuda j &&
      cell hour j.createdAt = firstObservedHour observedAt q) && cutBack zone j.createdAt) =
    q.jobs.countP fun j => (isCuda j && j.createdAt < observedAt &&
      cell hour j.createdAt = cell hour observedAt) && cutBack zone j.createdAt

/-- Two counts agree if they do on what the predicates disagree about. -/
theorem countP_eq_iff {α : Type} {p p' c : α → Bool} {l : List α}
    (h : ∀ x ∈ l, c x = false → p x = p' x) :
    l.countP p = l.countP p' ↔
      (l.countP fun x => p x && c x) = l.countP fun x => p' x && c x := by
  have hsplit : ∀ p : α → Bool, l.countP p =
      (l.countP fun x => p x && c x) + l.countP fun x => p x && !c x := by
    intro p
    rw [List.countP_eq_countP_filter_add l p c, List.countP_filter, List.countP_filter]
  have hagree : (l.countP fun x => p x && !c x) = l.countP fun x => p' x && !c x := by
    refine List.countP_congr fun x hx => ?_
    cases hc : c x with
    | false => rw [h x hx hc]
    | true => simp
  rw [hsplit p, hsplit p', hagree, add_left_inj]

variable {zone : SessionZone} {observedAt : Timestamp} {q : Queue}

/-- The query reads the CUDA jobs created at or after an hour of the history and before the
    observation. -/
theorem queried_of_hour {j : EvaluationJob} {n : ℤ} (hfirst : firstObservedHour observedAt q ≤ n)
    (hn : n * hour ≤ j.createdAt) :
    queried observedAt q j = (isCuda j && decide (j.createdAt < observedAt)) := by
  have hstart := (ceil_le_iff hour_pos).mp hfirst
  rw [queried, decide_eq_true (le_trans hstart hn), Bool.and_true]
  rfl

/-- A job created before the hour of the observation was created before the observation. -/
theorem lt_observed_of_cell {t : Timestamp} (h : cell hour t < cell hour observedAt) :
    t < observedAt :=
  lt_of_lt_of_le ((cell_lt_iff hour_pos).mp h) (cell_mul_le hour_pos observedAt)

/-- The query reads every CUDA job of the whole hours. -/
theorem queried_of_window {j : EvaluationJob}
    (hfirst : firstObservedHour observedAt q ≤ cell hour j.createdAt)
    (hlt : cell hour j.createdAt < cell hour observedAt) :
    queried observedAt q j = isCuda j := by
  rw [queried_of_hour hfirst (cell_mul_le hour_pos _), decide_eq_true (lt_observed_of_cell hlt),
    Bool.and_true]

/-- The query reads the jobs cut into an hour of the history. -/
theorem queried_of_cutBack {j : EvaluationJob}
    (hfirst : firstObservedHour observedAt q ≤ cell hour j.createdAt - 1) :
    queried observedAt q j = (isCuda j && decide (j.createdAt < observedAt)) :=
  queried_of_hour (by omega) (cell_mul_le hour_pos _)

/-- The hour a bucket of the query starts in, for a job in it. -/
def bucketHour (zone : SessionZone) (j : EvaluationJob) : ℤ :=
  if cutBack zone j.createdAt then cell hour j.createdAt - 1 else cell hour j.createdAt

/-- Slot by slot, the counts agree where the cuts are balanced. -/
theorem slot_iff (n : ℤ) :
    (q.jobs.countP fun j => queried observedAt q j &&
        decide (bucketHour zone j ∈ observedSlot observedAt q n)) =
      (q.jobs.countP fun j => isCuda j &&
        decide (cell hour j.createdAt ∈ observedSlot observedAt q n)) ↔
    (q.jobs.countP fun j => (isCuda j && decide (cell hour j.createdAt ∈
        observedSlot observedAt q n)) && cutBack zone j.createdAt) =
      q.jobs.countP fun j => (isCuda j && decide (j.createdAt < observedAt) &&
        decide (cell hour j.createdAt - 1 ∈ observedSlot observedAt q n)) &&
          cutBack zone j.createdAt := by
  rw [eq_comm, countP_eq_iff (c := fun j => cutBack zone j.createdAt)]
  · refine Eq.congr rfl (List.countP_congr fun j _ => ?_)
    cases hcut : cutBack zone j.createdAt with
    | false => simp
    | true =>
      rw [bucketHour, hcut, if_pos rfl]
      by_cases hmem : cell hour j.createdAt - 1 ∈ observedSlot observedAt q n
      · rw [queried_of_cutBack (mem_inSlot.mp hmem).1.1]
      · simp [hmem]
  · intro j _ hcut
    rw [bucketHour, hcut, if_neg Bool.false_ne_true]
    by_cases hmem : cell hour j.createdAt ∈ observedSlot observedAt q n
    · obtain ⟨hfirst, hlt⟩ := (mem_inSlot.mp hmem).1
      rw [queried_of_window hfirst hlt]
    · simp [hmem]

/-- Over the whole history, they agree where the cuts at its two ends are. -/
theorem total_iff (hwindow : firstObservedHour observedAt q < cell hour observedAt) :
    (q.jobs.countP fun j => queried observedAt q j &&
        (decide (firstObservedHour observedAt q ≤ bucketHour zone j) &&
          decide (bucketHour zone j < cell hour observedAt))) =
      (q.jobs.countP fun j => isCuda j &&
        (decide (firstObservedHour observedAt q ≤ cell hour j.createdAt) &&
          decide (cell hour j.createdAt < cell hour observedAt))) ↔
    (q.jobs.countP fun j => (isCuda j &&
        decide (cell hour j.createdAt = firstObservedHour observedAt q)) &&
          cutBack zone j.createdAt) =
      q.jobs.countP fun j => (isCuda j && decide (j.createdAt < observedAt) &&
        decide (cell hour j.createdAt = cell hour observedAt)) && cutBack zone j.createdAt := by
  -- only what is cut back from the first hour or from the hour of the observation differs
  rw [eq_comm, countP_eq_iff (c := fun j => cutBack zone j.createdAt &&
    (decide (cell hour j.createdAt = firstObservedHour observedAt q) ||
      decide (cell hour j.createdAt = cell hour observedAt)))]
  · refine Eq.congr (List.countP_congr fun j _ => ?_) (List.countP_congr fun j _ => ?_)
    · by_cases hF : cell hour j.createdAt = firstObservedHour observedAt q
      · simp [hF, hwindow, Bool.and_comm]
      · by_cases hO : cell hour j.createdAt = cell hour observedAt
        · simp [hO, ne_of_gt hwindow]
        · simp [hF, hO]
    · cases hcut : cutBack zone j.createdAt with
      | false => simp
      | true =>
        rw [bucketHour, hcut, if_pos rfl]
        by_cases hO : cell hour j.createdAt = cell hour observedAt
        · have hfirst : firstObservedHour observedAt q ≤ cell hour j.createdAt - 1 := by omega
          rw [queried_of_cutBack hfirst, decide_eq_true hfirst]
          simp [hO]
        · by_cases hF : cell hour j.createdAt = firstObservedHour observedAt q
          · simp [hF, ne_of_lt hwindow]
          · simp [hF, hO]
  · intro j _ hout
    cases hcut : cutBack zone j.createdAt with
    | false =>
      rw [bucketHour, hcut, if_neg Bool.false_ne_true]
      by_cases hmem : firstObservedHour observedAt q ≤ cell hour j.createdAt ∧
          cell hour j.createdAt < cell hour observedAt
      · rw [queried_of_window hmem.1 hmem.2]
      · rw [← Bool.decide_and, decide_eq_false hmem, Bool.and_false, Bool.and_false]
    | true =>
      rw [hcut, Bool.true_and, Bool.or_eq_false_iff, decide_eq_false_iff_not,
        decide_eq_false_iff_not] at hout
      obtain ⟨hF, hO⟩ := hout
      rw [bucketHour, hcut, if_pos rfl]
      by_cases hmem : firstObservedHour observedAt q ≤ cell hour j.createdAt ∧
          cell hour j.createdAt < cell hour observedAt
      · rw [queried_of_window hmem.1 hmem.2, ← Bool.decide_and, ← Bool.decide_and,
          decide_eq_true hmem, decide_eq_true ⟨by omega, by omega⟩]
      · have hmem' : ¬ (firstObservedHour observedAt q ≤ cell hour j.createdAt - 1 ∧
            cell hour j.createdAt - 1 < cell hour observedAt) := by omega
        rw [← Bool.decide_and, ← Bool.decide_and, decide_eq_false hmem, decide_eq_false hmem',
          Bool.and_false, Bool.and_false]

/-! ## The forecast -/

/-- The request's first whole hour is the query's. -/
theorem firstWholeHour_demandRequest (rows : List (DateTime × ℤ)) (active : ℕ)
    (estimate : Option DurationEstimate) :
    firstWholeHour (demandRequest observedAt (zonedHistory zone observedAt q) rows active
      estimate) = firstObservedHour observedAt q := by
  have hlookback : observedAt - defaultLookbackDays * 86400000000 ≤
      (demandHistory 0 observedAt q).historyStart := by
    unfold demandHistory
    dsimp only
    split
    · exact le_max_right _ _
    · exact le_refl _
  show Grid.ceil hour (max ((demandHistory 0 observedAt q).historyStart - 0)
    (observedAt - 0 - defaultLookbackDays * 86400000000)) = _
  rw [sub_zero, sub_zero, max_eq_left hlookback, firstObservedHour]

/-- The request's hour of the observation is the query's, too. -/
theorem hourOfObservation_demandRequest (history : DemandHistory) (rows : List (DateTime × ℤ))
    (active : ℕ) (estimate : Option DurationEstimate) :
    hourOfObservation (demandRequest observedAt history rows active estimate) =
      cell hour observedAt := by
  show cell hour (observedAt - 0) = _
  rw [sub_zero]

/-- A stored forecast is the forecast of the request that the queries make. -/
theorem storedDemandForecast_ok {ops : FloatOps}
    {aggregate : List (Option MigProfile × Timestamp) → List (Option MigProfile × DurationEstimate)}
    {given : Option (List WorkerRecord)} {workers : List WorkerRecord} {f : GpuDemandForecast}
    (h : storedDemandForecast ops aggregate zone observedAt given q workers = .ok f) :
    ∃ rows active estimate,
      fetchArrivals zone (zonedHistory zone observedAt q).arrivals = .ok rows ∧
      forecastGpuDemand ops
        (demandRequest observedAt (zonedHistory zone observedAt q) rows active estimate) = .ok f := by
  obtain ⟨-, -, h⟩ := Raising.bind_ok h
  obtain ⟨-, -, h⟩ := Raising.bind_ok h
  obtain ⟨rows, hrows, h⟩ := Raising.bind_ok h
  exact ⟨rows, _, _, hrows, h⟩

/-- A returned forecast attributes the stored jobs right exactly if the cuts are balanced. -/
theorem attributedRight_iff {ops : FloatOps}
    {aggregate : List (Option MigProfile × Timestamp) → List (Option MigProfile × DurationEstimate)}
    {given : Option (List WorkerRecord)} {workers : List WorkerRecord} {f : GpuDemandForecast}
    (h : storedDemandForecast ops aggregate zone observedAt given q workers = .ok f) :
    AttributedRight observedAt q f ↔ Balanced zone observedAt q := by
  obtain ⟨rows, active, estimate, hrows, hforecast⟩ := storedDemandForecast_ok h
  obtain ⟨hstarts, hitems, htotal⟩ := forecastGpuDemand_hours hforecast
  have hslot : ∀ item ∈ f.hours, item.historicalArrivals =
      (q.jobs.countP fun j => queried observedAt q j && decide (bucketHour zone j ∈
        observedSlot observedAt q (cell hour item.hourStart)) : ℕ) := by
    intro item hitem
    rw [(hitems item hitem).2.1, slotArrivals, sumInSlot, firstWholeHour_demandRequest,
      hourOfObservation_demandRequest]
    exact countP_bucket hrows fun n =>
      decide (n ∈ observedSlot observedAt q (cell hour item.hourStart))
  have hwindow : f.historicalCudaJobs = (q.jobs.countP fun j => queried observedAt q j &&
      (decide (firstObservedHour observedAt q ≤ bucketHour zone j) &&
        decide (bucketHour zone j < cell hour observedAt)) : ℕ) := by
    rw [htotal, windowArrivals, firstWholeHour_demandRequest, hourOfObservation_demandRequest]
    simp only [Bool.decide_and]
    exact countP_bucket hrows fun n =>
      decide (firstObservedHour observedAt q ≤ n) && decide (n < cell hour observedAt)
  rw [hourOfObservation_demandRequest] at hstarts
  change _ = (List.range 24).map _ at hstarts
  constructor
  · rintro ⟨hhours, hjobs⟩
    refine ⟨fun k hk => ?_, fun hlt => (total_iff hlt).mp ?_⟩
    · have hmem : (cell hour observedAt + 1 + (k : ℤ)) * hour ∈ f.hours.map (·.hourStart) := by
        rw [hstarts]
        exact List.mem_map.mpr ⟨k, List.mem_range.mpr hk, rfl⟩
      obtain ⟨item, hitem, hstart⟩ := List.mem_map.mp hmem
      have hcount := (hslot item hitem).symm.trans (hhours item hitem)
      rw [hstart, cell_mul hour_pos] at hcount
      exact (slot_iff _).mp (Nat.cast_injective hcount)
    · exact Nat.cast_injective (R := ℤ) (hwindow.symm.trans hjobs)
  · rintro ⟨hslots, hends⟩
    refine ⟨fun item hitem => ?_, ?_⟩
    · have hmem : item.hourStart ∈ f.hours.map (·.hourStart) :=
        List.mem_map_of_mem (f := fun item : GpuDemandHour => item.hourStart) hitem
      rw [hstarts] at hmem
      obtain ⟨k, hk, hstart⟩ := List.mem_map.mp hmem
      rw [hslot item hitem, ← hstart, cell_mul hour_pos]
      exact congrArg Nat.cast ((slot_iff _).mpr (hslots k (List.mem_range.mp hk)))
    · rw [hwindow]
      by_cases hlt : firstObservedHour observedAt q < cell hour observedAt
      · exact congrArg Nat.cast ((total_iff hlt).mpr (hends hlt))
      · -- no hour lies in an empty history
        have hnone : ∀ n, (decide (firstObservedHour observedAt q ≤ n) &&
            decide (n < cell hour observedAt)) = false := by
          intro n
          rw [← Bool.decide_and]
          exact decide_eq_false (by omega)
        simp only [hnone, Bool.and_false]

/-- Where nothing is cut back, the cuts are balanced. -/
theorem balanced_of_no_cut (h : ∀ j ∈ q.jobs, cutBack zone j.createdAt = false) :
    Balanced zone observedAt q := by
  have hnone : ∀ p : EvaluationJob → Bool,
      (q.jobs.countP fun j => p j && cutBack zone j.createdAt) = 0 := by
    intro p
    refine List.countP_eq_zero.mpr fun j hj => ?_
    rw [h j hj, Bool.and_false]
    exact Bool.false_ne_true
  exact ⟨fun k _ => (hnone _).trans (hnone _).symm, fun _ => (hnone _).trans (hnone _).symm⟩

/-! ## Zones with one offset -/

namespace Sample

theorem plain_priority : (-100 : ℤ) ≤ 0 ∧ (0 : ℤ) ≤ 100 := by decide

theorem plain_attempts : 1 ≤ 1 ∧ 1 ≤ 10 := by decide

theorem plain_gpu (a : Accelerator) : (0 < 0 ∨ (none : Option Float64) ≠ none ∨ 0 < 0 ∨
    (none : Option Float64) ≠ none ∨ (none : Option MigProfile) ≠ none) → a = .cuda := by
  simp

/-- A job without constraints. -/
def plainSpec (a : Accelerator) : JobSpec :=
  ⟨"suite.yaml", "v1", 0, 1, a, [], 0, none, 0, none, none, none, none, plain_priority,
    plain_attempts, none_at_least_one, none_in_range, plain_gpu a⟩

def jobAt (jobId : UUID) (a : Accelerator) (t : Timestamp) : EvaluationJob :=
  { toJobSpec := plainSpec a, jobId := jobId, createdAt := t, updatedAt := t }

/-- A CPU job at hour 479999, the first of the store, and a CUDA job at hour 480000. -/
def twoJobs : Queue :=
  ⟨0, none, [jobAt 1 .cpu (479999 * hour), jobAt 2 .cuda (480000 * hour)], []⟩

/-- An observation just after the second job. -/
def justAfter : Timestamp := 480000 * hour + 1

/-- The request with the CUDA job in the hour before its own. -/
def shifted : DemandInputs :=
  demandRequest justAfter ⟨479999 * hour, [], 1, 0⟩ [(utcDateTime (479999 * hour), 1)] 0 none

/-- Zero as a float. -/
theorem toFloat_zero : toFloat 0 = .ok (.finite 0) := by decide +kernel

/-- Its window is the hour before the observation's. -/
def shiftedWindow : DemandWindow :=
  ⟨justAfter, 479999 * hour, 479999 * hour, 480000 * hour⟩

/-- Both its counters. -/
def shiftedCounter : Dict (ℤ × ℤ) ℤ := Dict.empty.bump (weekSlot (479999 * hour)) 1

/-- The inputs of the shifted history pass their checks. -/
theorem shifted_check : checkDemandInputs shifted = .ok (⟨0, 0⟩, ⟨0, 0⟩) := rfl

/-- The window of the shifted history. -/
theorem shifted_window : demandWindow shifted ⟨0, 0⟩ ⟨0, 0⟩ = .ok shiftedWindow := rfl

/-- The window of the shifted history has one hour. -/
theorem shifted_occurrences : countOccurrences shiftedWindow = .ok shiftedCounter := rfl

/-- One job arrived in that hour. -/
theorem shifted_arrivals : countArrivals shiftedWindow shifted.hourlyArrivals =
    .ok (shiftedCounter, 1) := rfl

/-- None of the next 24 hours shares the slot of the hour before. -/
theorem shifted_slots : ∀ k < 24,
    representable (shiftedWindow.observedHour + ((k : ℕ) + 1 : ℤ) * hour) = true ∧
      shiftedCounter.count
        (weekSlot (shiftedWindow.observedHour + ((k : ℕ) + 1 : ℤ) * hour)) = 0 := by
  decide

/-- So nothing is predicted for them. -/
theorem shifted_hour (ops : FloatOps) {k : ℕ} (hk : k < 24) :
    ∃ item, forecastHour ops shiftedWindow shiftedCounter shiftedCounter k = .ok item ∧
      item.predictedArrivals = .finite 0 := by
  obtain ⟨hrep, hcount⟩ := shifted_slots k hk
  exact forecastHour_idle ops hrep hcount (le_of_eq hcount.symm)

/-- Floats that sum zeros to zero forecast it. -/
theorem shifted_forecast {ops : FloatOps}
    (hsum : ops.sum (List.replicate 24 (.finite 0)) = .finite 0) :
    ∃ f, forecastGpuDemand ops shifted = .ok f := by
  have hitems : ∀ k ∈ List.range 24,
      ∃ item, forecastHour ops shiftedWindow shiftedCounter shiftedCounter k = .ok item :=
    fun k hk => (shifted_hour ops (List.mem_range.mp hk)).imp fun _ h => h.1
  obtain ⟨hours, hhours⟩ := Raising.mapM_of_forall hitems
  have hzero : hours.map (·.predictedArrivals) = List.replicate 24 (.finite 0) := by
    have hrel := Raising.mapM_ok hhours
    refine List.eq_replicate_iff.mpr ⟨?_, fun x hx => ?_⟩
    · rw [List.length_map, ← hrel.length_eq, List.length_range]
    · obtain ⟨item, hitem, rfl⟩ := List.mem_map.mp hx
      obtain ⟨k, hk, hok⟩ := Raising.forall₂_mem_right hrel hitem
      obtain ⟨item', hok', hpred⟩ := shifted_hour ops (List.mem_range.mp hk)
      obtain rfl : item' = item := Except.ok.inj (hok'.symm.trans hok)
      exact hpred
  have hfinish : ∃ f, finishForecast ops shifted shiftedWindow shiftedCounter shiftedCounter 1 =
      .ok f := by
    have hrange : shifted.horizonHours.toNat = 24 := rfl
    have havailable : shifted.activeCudaWorkers * shifted.horizonHours * 3600 = 0 := rfl
    unfold finishForecast
    rw [hrange, hhours, havailable, toFloat_zero]
    show ∃ f, Except.bind (checkGe "predicted_cuda_arrivals" (ops.sum (hours.map _))) _ = .ok f
    rw [hzero, hsum]
    exact ⟨_, rfl⟩
  obtain ⟨f, hf⟩ := hfinish
  refine ⟨f, ?_⟩
  rw [forecastGpuDemand_eq ops shifted_check shifted_window shifted_occurrences shifted_arrivals]
  exact hf

/-- The query reads the CUDA job only. -/
theorem twoJobs_arrivals (zone : SessionZone) :
    (zonedHistory zone justAfter twoJobs).arrivals = [(zone.truncHour (480000 * hour), 1)] := by
  have hfilter : (twoJobs.jobs.filter fun j => j.requiredAccelerator = .cuda &&
      (demandHistory 0 justAfter twoJobs).historyStart ≤ j.createdAt && j.createdAt < justAfter) =
      [jobAt 2 .cuda (480000 * hour)] := by decide
  unfold zonedHistory
  dsimp only
  rw [hfilter]
  simp [jobAt]

/-- An offset of less than a day does not leave the range. -/
theorem representable_near {t o : ℤ} (hlow : 479976 * hour ≤ t) (hhigh : t ≤ 480024 * hour)
    (h₁ : -86400000000 < o) (h₂ : o < 86400000000) : representable (t + o) = true := by
  unfold hour at hlow hhigh
  exact representable_iff.mpr ⟨by omega, by omega⟩

/-- Instants within a day of hour 480000 come back. -/
theorem fetch_near (zone : SessionZone) {t : Timestamp} (hlow : 479976 * hour ≤ t)
    (hhigh : t ≤ 480024 * hour) : ∃ d, zone.fetch t = .ok d := by
  have hrep := representable_near hlow hhigh (show (-86400000000 : ℤ) < 0 by decide) (by decide)
  have hwall := representable_near hlow hhigh (zone.offset_lt t).1 (zone.offset_lt t).2
  rw [add_zero] at hrep
  unfold SessionZone.fetch
  rw [hrep, hwall]
  exact ⟨_, rfl⟩

/-- The CUDA job is cut back if the offset at its instant is not of whole hours. -/
theorem cutBack_sample {zone : SessionZone} (h : zone.utcoffset (480000 * hour) % hour ≠ 0) :
    cutBack zone (480000 * hour) = true := by
  have hpos := Int.emod_nonneg (zone.utcoffset (480000 * hour)) (ne_of_gt hour_pos)
  have hlt := Int.emod_lt_of_pos (zone.utcoffset (480000 * hour)) hour_pos
  rw [cutBack, Bool.and_eq_true, decide_eq_true_iff, decide_eq_true_iff, Int.mul_emod_left,
    zero_add]
  exact ⟨lt_of_le_of_ne hpos (Ne.symm h), hlt⟩

/-- Then a forecast is returned that attributes it to the hour before. -/
theorem twoJobs_forecast {ops : FloatOps} {zone : SessionZone}
    (hsum : ops.sum (List.replicate 24 (.finite 0)) = .finite 0)
    (h : zone.utcoffset (480000 * hour) % hour ≠ 0) :
    ∃ f, storedDemandForecast ops (fun _ => []) zone justAfter (some []) twoJobs [] = .ok f ∧
      ¬ AttributedRight justAfter twoJobs f := by
  have hcut := cutBack_sample h
  have hbucket : cell hour (zone.truncHour (480000 * hour)) = 479999 := by
    rw [cell_truncHour, hcut, if_pos rfl, cell_mul hour_pos]
    rfl
  have hlow := cell_mul_le hour_pos (zone.truncHour (480000 * hour))
  have hhigh := lt_cell_succ_mul hour_pos (zone.truncHour (480000 * hour))
  rw [hbucket] at hlow hhigh
  obtain ⟨d, hd⟩ := fetch_near zone (le_trans (by decide) hlow)
    (le_trans (le_of_lt hhigh) (by decide))
  obtain ⟨start, hstart⟩ := fetch_near zone (t := 479999 * hour) (by decide) (by decide)
  have hrows : fetchArrivals zone (zonedHistory zone justAfter twoJobs).arrivals =
      .ok [(d, 1)] := by
    rw [twoJobs_arrivals, fetchArrivals, List.mapM_cons]
    dsimp only
    rw [hd]
    rfl
  have hinstant := fetch_ok hd
  obtain ⟨f, hf⟩ := shifted_forecast hsum
  -- the bucket of the cut counts as an arrival an hour earlier
  have hmoved : forecastGpuDemand ops { shifted with hourlyArrivals := [(d, 1)] } = .ok f := by
    refine forecastGpuDemand_congr hf ?_ fun n => ?_
    · intro b hb
      rw [List.mem_singleton.mp hb]
      exact accepted_of_fetch hd (by decide)
    · have hsame : ∀ b ∈ [(d, (1 : ℤ))], cell hour b.1.instant = 479999 := by
        intro b hb
        rw [List.mem_singleton.mp hb, hinstant, hbucket]
      have hshifted : ∀ b ∈ shifted.hourlyArrivals, cell hour b.1.instant = 479999 := by
        intro b hb
        rw [List.mem_singleton.mp hb]
        rfl
      rw [hourArrivals_of_hour hsame, hourArrivals_of_hour hshifted]
      rfl
  have hstored : storedDemandForecast ops (fun _ => []) zone justAfter (some []) twoJobs [] =
      .ok f := by
    unfold storedDemandForecast
    have hplus : plus justAfter (-(defaultLookbackDays * 86400000000)) =
      .ok (justAfter + -(defaultLookbackDays * 86400000000)) := rfl
    have hmin : (twoJobs.jobs.map EvaluationJob.createdAt).min? = some (479999 * hour) := rfl
    have hfirst : (some (479999 * hour)).mapM zone.fetch = .ok (some start) := by
      show some <$> zone.fetch (479999 * hour) = _
      rw [hstart]
      rfl
    rw [hplus, hmin]
    show Except.bind ((some (479999 * hour)).mapM zone.fetch) _ = _
    rw [hfirst]
    show Except.bind (fetchArrivals zone (zonedHistory zone justAfter twoJobs).arrivals) _ = _
    rw [hrows]
    exact hmoved
  refine ⟨f, hstored, fun hright => ?_⟩
  have hends := ((attributedRight_iff hstored).mp hright).ends (by decide)
  have hhour : firstObservedHour justAfter twoJobs = 479999 := by decide
  have hobserved : cell hour justAfter = 480000 := by decide
  have hlater : 480000 * hour < justAfter := by decide
  have hjobs : twoJobs.jobs = [jobAt 1 .cpu (479999 * hour), jobAt 2 .cuda (480000 * hour)] := rfl
  simp only [hhour, hobserved] at hends
  rw [hjobs] at hends
  simp [jobAt, plainSpec, isCuda, hcut, hlater, cell_mul hour_pos] at hends

/-- Five and a half hours ahead of UTC. -/
theorem halfHour_lt : -86400000000 < (19800000000 : ℤ) ∧ (19800000000 : ℤ) < 86400000000 := by
  decide

def halfHour : SessionZone := SessionZone.fixed 19800000000 halfHour_lt

end Sample

/-- **When the stored history is attributed right.**  A returned forecast counts every CUDA job in
    its UTC hour exactly if the cuts of the session's zone are balanced; and a session's offset
    makes every forecast right exactly if it is of whole hours. -/
theorem storedDemandForecast_attribution {ops : FloatOps}
    (hsum : ops.sum (List.replicate 24 (.finite 0)) = .finite 0) :
    (∀ aggregate zone observedAt given q workers f,
      storedDemandForecast ops aggregate zone observedAt given q workers = .ok f →
        (AttributedRight observedAt q f ↔ Balanced zone observedAt q)) ∧
    ∀ o, ∀ ho : -86400000000 < o ∧ o < 86400000000,
      (∀ aggregate observedAt given q workers f,
        storedDemandForecast ops aggregate (SessionZone.fixed o ho) observedAt given q workers =
          .ok f → AttributedRight observedAt q f) ↔ o % hour = 0 := by
  refine ⟨fun _ _ _ _ _ _ _ h => attributedRight_iff h, fun o ho => ⟨fun hright => ?_, ?_⟩⟩
  · by_contra hpart
    have hzone : (SessionZone.fixed o ho).utcoffset (480000 * hour) % hour ≠ 0 := hpart
    obtain ⟨f, hf, hwrong⟩ := Sample.twoJobs_forecast hsum hzone
    exact hwrong (hright _ _ _ _ _ f hf)
  · intro hwhole aggregate observedAt given q workers f h
    exact (attributedRight_iff h).mpr (balanced_of_no_cut fun j _ => cutBack_of_whole hwhole)

/-- A session zone of whole hours attributes every job to its hour; one of half an hour does not. -/
theorem storedDemandForecast_attribution_sample :
    Sample.exactOps.sum (List.replicate 24 (.finite 0)) = .finite 0 ∧
    ∀ o, ∀ ho : -86400000000 < o ∧ o < 86400000000,
      (∀ aggregate observedAt given q workers f,
        storedDemandForecast Sample.exactOps aggregate (SessionZone.fixed o ho) observedAt given q
          workers = .ok f → AttributedRight observedAt q f) ↔ o % hour = 0 :=
  ⟨rfl, (storedDemandForecast_attribution rfl).2⟩

/-- In a session five and a half hours ahead of UTC, a job created on the hour counts in the hour
    before. -/
theorem storedDemandForecast_halfHour :
    ∃ f, storedDemandForecast Sample.exactOps (fun _ => []) Sample.halfHour Sample.justAfter
        (some []) Sample.twoJobs [] = .ok f ∧
      ¬ AttributedRight Sample.justAfter Sample.twoJobs f :=
  Sample.twoJobs_forecast rfl (by decide)

end AEControl.Jobs
