/-
  The clearance estimate of the GPU forecast: a schedule behind every number it gives.

  The estimate is the number of waves times the largest p90 duration among the jobs' classes.  So
  give every wave that much time: a job of wave `i` starts at `i` times the largest p90, and has
  ended when the next wave starts (`schedule_exclusive`).  The schedule is fixed before the
  durations are known; it is enough that no job exceeds the p90 of its class.

  Structure of the proof:
  1. `mem_selectedEstimates` and `hasCompleteHistory_iff`: the estimates that the forecast selects
     are those of its jobs' classes, and all of them are there exactly if a number is given;
  2. `estimatedClearanceSeconds_some`: that number is the waves times the largest p90;
  3. `scheduleOf` places the jobs by the matching of the waves (`Jobs.Capacity`), no worker runs
     two at a time (`schedule_exclusive`), and all end in time (`schedule_finishes`);
  4. `clearanceEstimate_sound` is the three together, for every queue and every set of workers.
-/
import Mathlib.Algebra.Order.Ring.Rat
import Mathlib.Tactic.Linarith
import AEControl.Jobs.Capacity

namespace AEControl.Jobs

open Matching

/-! ## What is asked of the estimate -/

/-- One job of a schedule: its worker and when it starts, in seconds from now. -/
structure ScheduledRun where
  job : EvaluationJob
  worker : WorkerRecord
  start : ℚ

/-- A schedule runs every compatible job once, on a worker that can take it. -/
structure IsSchedule (jobs : List EvaluationJob) (workers : List WorkerRecord)
    (activeAfter : Timestamp) (runs : List ScheduledRun) : Prop where
  once : (runs.map (·.job)).Nodup
  complete : ∀ j, j ∈ runs.map (·.job) ↔ j ∈ compatibleJobs jobs workers activeAfter
  eligible : ∀ r ∈ runs, r.worker ∈ workers ∧ takes activeAfter r.worker r.job = true
  start_ge : ∀ r ∈ runs, 0 ≤ r.start

/-- With these durations no worker has two jobs at a time. -/
def Exclusive (duration : EvaluationJob → ℚ) (runs : List ScheduledRun) : Prop :=
  runs.Pairwise fun r r' => r.worker.workerId = r'.worker.workerId →
    r.start + duration r.job ≤ r'.start ∨ r'.start + duration r'.job ≤ r.start

/-- With these durations every job has ended by `T`. -/
def FinishesBy (duration : EvaluationJob → ℚ) (T : ℚ) (runs : List ScheduledRun) : Prop :=
  ∀ r ∈ runs, r.start + duration r.job ≤ T

/-- The estimate of the job's class: all CUDA work, or its MIG profile. -/
def EstimateOf (estimates : List GpuDurationEstimate) (j : EvaluationJob)
    (e : GpuDurationEstimate) : Prop := e ∈ estimates ∧ e.migProfile = j.requiredMigProfile

/-- Every compatible job takes no longer than the p90 of its class. -/
def WithinP90 (jobs : List EvaluationJob) (workers : List WorkerRecord)
    (activeAfter : Timestamp) (estimates : List GpuDurationEstimate)
    (duration : EvaluationJob → ℚ) : Prop :=
  ∀ j ∈ compatibleJobs jobs workers activeAfter,
    ∃ e, EstimateOf estimates j e ∧ duration j ≤ e.p90Seconds

/-- The estimate is there when every compatible job has history, and then a schedule keeps it. -/
structure EstimateSound (jobs : List EvaluationJob) (workers : List WorkerRecord)
    (activeAfter : Timestamp) (estimates : List GpuDurationEstimate)
    (f : GpuCapacityForecast) : Prop where
  absent : f.estimatedClearanceSeconds = none ↔
    compatibleJobs jobs workers activeAfter = [] ∨
      ∃ j ∈ compatibleJobs jobs workers activeAfter, ¬ ∃ e, EstimateOf estimates j e
  sound : ∀ T, f.estimatedClearanceSeconds = some T →
    ∃ runs, IsSchedule jobs workers activeAfter runs ∧
      ∀ duration, WithinP90 jobs workers activeAfter estimates duration →
        Exclusive duration runs ∧ FinishesBy duration T runs

/-! ## The classes of the jobs -/

/-- With distinct profiles, a profile finds its estimate. -/
theorem estimate_get {estimates : List GpuDurationEstimate}
    (hprofiles : (estimates.map (·.migProfile)).Nodup) {j : EvaluationJob}
    {e : GpuDurationEstimate} :
    (Dict.ofPairs (estimates.map fun item => (item.migProfile, item))).get j.requiredMigProfile =
      some e ↔ EstimateOf estimates j e := by
  have hpairs : ((estimates.map fun item => (item.migProfile, item)).map Prod.fst).Nodup := by
    rw [List.map_map]
    exact hprofiles
  have hitems := Dict.ofPairs_items hpairs
  constructor
  · intro hget
    have hmem := Dict.mem_of_get hget
    rw [hitems] at hmem
    obtain ⟨item, hitem, he⟩ := List.mem_map.mp hmem
    obtain ⟨hprofile, rfl⟩ := Prod.mk.inj he
    exact ⟨hitem, hprofile⟩
  · rintro ⟨hmem, hprofile⟩
    refine Dict.get_of_mem ?_
    rw [hitems, ← hprofile]
    exact List.mem_map_of_mem (f := fun item => (item.migProfile, item)) hmem

theorem mem_selectedEstimates {estimates : List GpuDurationEstimate}
    (hprofiles : (estimates.map (·.migProfile)).Nodup) {compatible : List EvaluationJob}
    {e : GpuDurationEstimate} :
    some e ∈ selectedEstimates estimates compatible ↔
      ∃ j ∈ compatible, EstimateOf estimates j e := by
  unfold selectedEstimates
  rw [List.mem_map]
  exact exists_congr fun j => and_congr_right fun _ => estimate_get hprofiles

theorem none_mem_selectedEstimates {estimates : List GpuDurationEstimate}
    (hprofiles : (estimates.map (·.migProfile)).Nodup) {compatible : List EvaluationJob} :
    none ∈ selectedEstimates estimates compatible ↔
      ∃ j ∈ compatible, ¬ ∃ e, EstimateOf estimates j e := by
  unfold selectedEstimates
  rw [List.mem_map]
  refine exists_congr fun j => and_congr_right fun _ => ?_
  rw [Option.eq_none_iff_forall_ne_some, not_exists]
  exact forall_congr' fun e => not_congr (estimate_get hprofiles)

/-! ## The number -/

theorem hasCompleteHistory_iff {selected : List (Option GpuDurationEstimate)} :
    hasCompleteHistory selected = true ↔ selected ≠ [] ∧ none ∉ selected := by
  unfold hasCompleteHistory
  rw [Bool.and_eq_true, Bool.not_eq_true', List.isEmpty_eq_false_iff, List.all_eq_true]
  refine and_congr_right fun _ => ⟨fun hall hnone => ?_, fun hnone item hitem => ?_⟩
  · have := hall none hnone
    cases this
  · cases item with
    | none => exact absurd hitem hnone
    | some e => rfl

/-- An estimate is the waves times a time that covers every selected class. -/
theorem estimatedClearanceSeconds_some {selected : List (Option GpuDurationEstimate)} {waves : ℕ}
    {T : ℚ} (h : estimatedClearanceSeconds selected waves = some T) :
    ∃ longest : ℚ, T = longest * waves ∧ 0 < longest ∧
      ∀ e, some e ∈ selected → e.p90Seconds ≤ longest := by
  unfold estimatedClearanceSeconds at h
  split at h
  · obtain ⟨longest, hmax, rfl⟩ := Option.map_eq_some_iff.mp h
    obtain ⟨hmem, hle⟩ := List.max?_eq_some_iff.mp hmax
    refine ⟨longest, rfl, ?_, ?_⟩
    · obtain ⟨item, -, hitem⟩ := List.mem_filterMap.mp hmem
      obtain ⟨e, -, rfl⟩ := Option.map_eq_some_iff.mp hitem
      exact e.p90_seconds_gt
    · intro e he
      exact hle _ (List.mem_filterMap.mpr ⟨some e, he, rfl⟩)
  · cases h

theorem estimatedClearanceSeconds_none {selected : List (Option GpuDurationEstimate)}
    {waves : ℕ} :
    estimatedClearanceSeconds selected waves = none ↔ selected = [] ∨ none ∈ selected := by
  have hiff : hasCompleteHistory selected = true ↔ selected ≠ [] ∧ none ∉ selected :=
    hasCompleteHistory_iff
  unfold estimatedClearanceSeconds
  by_cases hcomplete : hasCompleteHistory selected = true
  · obtain ⟨hne, hnone⟩ := hiff.mp hcomplete
    rw [if_pos hcomplete, Option.map_eq_none_iff, List.max?_eq_none_iff]
    refine iff_of_false (fun hnil => ?_) (not_or.mpr ⟨hne, hnone⟩)
    obtain ⟨item, hitem⟩ := List.exists_mem_of_ne_nil _ hne
    cases item with
    | none => exact hnone hitem
    | some e =>
      have hmem : e.p90Seconds ∈ selected.filterMap fun item => item.map (·.p90Seconds) :=
        List.mem_filterMap.mpr ⟨some e, hitem, rfl⟩
      rw [hnil] at hmem
      cases hmem
  · rw [if_neg hcomplete]
    rw [hiff, not_and_or, not_not, not_not] at hcomplete
    exact iff_of_true rfl hcomplete

/-! ## The schedule -/

/-- The jobs of wave `i` start after `i` times the longest duration. -/
def scheduleOf (longest : ℚ) (m : List (EvaluationJob × (WorkerRecord × ℕ))) :
    List ScheduledRun :=
  m.map fun p => ⟨p.1, p.2.1, p.2.2 * longest⟩

section Schedule

variable {longest : ℚ} {m : List (EvaluationJob × (WorkerRecord × ℕ))}
  {duration : EvaluationJob → ℚ}

/-- A job of one wave has ended when the next wave starts. -/
theorem wave_end {i i' : ℕ} {d : ℚ} (hpos : 0 < longest) (hd : d ≤ longest) (hlt : i < i') :
    i * longest + d ≤ i' * longest := by
  have hsucc : (i : ℚ) + 1 ≤ i' := by exact_mod_cast hlt
  have hmul : ((i : ℚ) + 1) * longest ≤ i' * longest :=
    mul_le_mul_of_nonneg_right hsucc (le_of_lt hpos)
  linarith

theorem schedule_exclusive {jobs : List EvaluationJob} {workers : List WorkerRecord}
    {activeAfter : Timestamp} {w : ℕ} (hworkers : (workers.map (·.workerId)).Nodup)
    (hm : Assignment (InRounds (CanRun jobs workers activeAfter) w) m) (hpos : 0 < longest)
    (hd : ∀ p ∈ m, duration p.1 ≤ longest) : Exclusive duration (scheduleOf longest m) := by
  have hpairs : m.Pairwise fun p q => p.2 ≠ q.2 := by
    have h := hm.slots_nodup
    unfold List.Nodup at h
    rw [List.pairwise_map] at h
    exact h
  unfold Exclusive scheduleOf
  rw [List.pairwise_map]
  refine hpairs.imp_of_mem ?_
  rintro ⟨j, worker, i⟩ ⟨j', worker', i'⟩ hp hq hne hid
  obtain rfl : worker = worker' := List.inj_on_of_nodup_map hworkers
    (hm.allowed _ hp).1.2.1 (hm.allowed _ hq).1.2.1 hid
  -- the same worker, so another wave
  have hwave : i ≠ i' := fun he => hne (by rw [he])
  rcases Nat.lt_or_gt_of_ne hwave with hlt | hlt
  · exact Or.inl (wave_end hpos (hd _ hp) hlt)
  · exact Or.inr (wave_end hpos (hd _ hq) hlt)

theorem schedule_finishes {jobs : List EvaluationJob} {workers : List WorkerRecord}
    {activeAfter : Timestamp} {w : ℕ}
    (hm : Assignment (InRounds (CanRun jobs workers activeAfter) w) m) (hpos : 0 < longest)
    (hd : ∀ p ∈ m, duration p.1 ≤ longest) :
    FinishesBy duration (longest * w) (scheduleOf longest m) := by
  intro r hr
  obtain ⟨p, hp, rfl⟩ := List.mem_map.mp hr
  have hend := wave_end hpos (hd p hp) (hm.allowed p hp).2
  rw [mul_comm (w : ℚ)] at hend
  exact hend

/-- Waves that clear the compatible jobs are a schedule. -/
theorem exists_schedule {jobs : List EvaluationJob} {workers : List WorkerRecord}
    {activeAfter : Timestamp} {w : ℕ} (hpos : 0 < longest)
    (h : Clearable (CanRun jobs workers activeAfter) (compatibleJobs jobs workers activeAfter) w) :
    ∃ m, Assignment (InRounds (CanRun jobs workers activeAfter) w) m ∧
      (∀ p ∈ m, p.1 ∈ compatibleJobs jobs workers activeAfter) ∧
      IsSchedule jobs workers activeAfter (scheduleOf longest m) := by
  obtain ⟨m, hm, hcover⟩ := h
  -- a job of the queue that has a worker is compatible
  have hcompatible : ∀ p ∈ m, p.1 ∈ compatibleJobs jobs workers activeAfter := by
    intro p hp
    obtain ⟨⟨⟨hjob, hqueued⟩, hworker, htakes⟩, -⟩ := hm.allowed p hp
    have hany : workers.any (takes activeAfter · p.1) = true :=
      List.any_eq_true.mpr ⟨p.2.1, hworker, htakes⟩
    exact List.mem_filter.mpr ⟨hjob, Bool.and_eq_true_iff.mpr ⟨hqueued, hany⟩⟩
  have hjobs : (scheduleOf longest m).map (·.job) = m.map Prod.fst := by
    unfold scheduleOf
    rw [List.map_map]
    rfl
  refine ⟨m, hm, hcompatible, ⟨?_, ?_, ?_, ?_⟩⟩
  · rw [hjobs]
    exact hm.jobs_nodup
  · intro j
    rw [hjobs]
    constructor
    · intro hj
      obtain ⟨p, hp, rfl⟩ := List.mem_map.mp hj
      exact hcompatible p hp
    · exact hcover j
  · intro r hr
    obtain ⟨p, hp, rfl⟩ := List.mem_map.mp hr
    exact (hm.allowed p hp).1.2
  · intro r hr
    obtain ⟨p, hp, rfl⟩ := List.mem_map.mp hr
    exact mul_nonneg (Nat.cast_nonneg _) (le_of_lt hpos)

end Schedule

/-! ## Soundness -/

theorem ForecastRun.estimateSound {jobs : List EvaluationJob} {workers : List WorkerRecord}
    {activeAfter : Timestamp} {estimates : List GpuDurationEstimate}
    {diagnostics : Dict UUID JobPlacementDiagnostic} {firstWave : Dict UUID String}
    {f : GpuCapacityForecast}
    (h : ForecastRun jobs workers activeAfter estimates diagnostics firstWave f)
    (hjobs : (jobs.map (·.jobId)).Nodup) (hworkers : (workers.map (·.workerId)).Nodup)
    (hprofiles : (estimates.map (·.migProfile)).Nodup) :
    EstimateSound jobs workers activeAfter estimates f := by
  have hperm := queuedCompatible_perm jobs workers activeAfter
  constructor
  · rw [h.estimate, estimatedClearanceSeconds_none, none_mem_selectedEstimates hprofiles]
    unfold selectedEstimates
    rw [List.map_eq_nil_iff]
    refine or_congr ⟨fun he => ?_, fun he => ?_⟩ ?_
    · rw [he] at hperm
      exact List.nil_perm.mp hperm
    · rw [he] at hperm
      exact List.perm_nil.mp hperm
    · exact exists_congr fun j => and_congr_left fun _ => hperm.mem_iff
  · intro T hT
    rw [h.estimate] at hT
    obtain ⟨longest, rfl, hpos, hlongest⟩ := estimatedClearanceSeconds_some hT
    -- the waves, one after the other, each as long as the longest estimate
    obtain ⟨m, hm, hcompatible, hschedule⟩ :=
      exists_schedule hpos (h.waves_least hjobs hworkers).1
    refine ⟨scheduleOf longest m, hschedule, ?_⟩
    intro duration hduration
    have hd : ∀ p ∈ m, duration p.1 ≤ longest := by
      intro p hp
      obtain ⟨e, he, hle⟩ := hduration p.1 (hcompatible p hp)
      have hmem := (mem_selectedEstimates hprofiles).mpr
        ⟨p.1, hperm.mem_iff.mpr (hcompatible p hp), he⟩
      exact le_trans hle (hlongest e hmem)
    exact ⟨schedule_exclusive hworkers hm hpos hd, schedule_finishes hm hpos hd⟩

/-- **Sound clearance estimates.**  For distinct jobs, workers and profiles and a window that a
    `datetime` can reach back by, a forecast is returned.  It has an estimate exactly if there are
    compatible jobs and each has a duration of its class; and then there is a schedule of those
    jobs on the workers that is over by the estimate, whatever the jobs take within their
    ninetieth percentiles. -/
theorem clearanceEstimate_sound (p : Printer) (mean : List Float64 → Float64)
    (jobs : List EvaluationJob) (workers : List WorkerRecord) (now : Timestamp) (window : Int)
    (estimates : List GpuDurationEstimate) (hjobs : (jobs.map (·.jobId)).Nodup)
    (hworkers : (workers.map (·.workerId)).Nodup)
    (hprofiles : (estimates.map (·.migProfile)).Nodup) (hwindow : 0 < window)
    (hdate : representable (now - window * 1000000) = true) :
    ∃ f, forecastGpuCapacity p mean jobs workers now window estimates = .ok (some f) ∧
      EstimateSound jobs workers (now - window * 1000000) estimates f := by
  obtain ⟨_, _, f, hf, hrun⟩ :=
    forecastGpuCapacity_run p mean hjobs workers now hwindow hdate estimates
  exact ⟨f, hf, hrun.estimateSound hjobs hworkers hprofiles⟩

/-- A large slice is held for two minutes, a small one for one. -/
def profileEstimates : List GpuDurationEstimate :=
  [⟨some Sample.large, 12, 90, 120, by decide, by decide, by decide⟩,
    ⟨some Sample.small, 20, 40, 60, by decide, by decide, by decide⟩]

/-- Two waves of the longer class: the two jobs for large slices run one behind the other, and the
    queue is cleared within four minutes. -/
theorem clearanceEstimate_sound_sample :
    ∃ f, forecastGpuCapacity ⟨fun _ => "", fun _ => ""⟩ (fun _ => .finite 0)
        Sample.migJobs Sample.migWorkers 0 120 profileEstimates = .ok (some f) ∧
      EstimateSound Sample.migJobs Sample.migWorkers (0 - 120 * 1000000) profileEstimates f ∧
      f.estimatedClearanceSeconds = some 240 := by
  obtain ⟨f, hf, hsound⟩ := clearanceEstimate_sound ⟨fun _ => "", fun _ => ""⟩ (fun _ => .finite 0)
    Sample.migJobs Sample.migWorkers 0 120 profileEstimates (by decide) (by decide) (by decide)
    (by decide) (by decide)
  have hvalue : (forecastGpuCapacity ⟨fun _ => "", fun _ => ""⟩ (fun _ => .finite 0)
      Sample.migJobs Sample.migWorkers 0 120 profileEstimates).toOption.join.map
        (·.estimatedClearanceSeconds) = some (some 240) := by
    decide +kernel
  rw [hf] at hvalue
  simp only [Except.toOption, Option.join_some, Option.map_some, Option.some.injEq] at hvalue
  exact ⟨f, hf, hsound, hvalue⟩

end AEControl.Jobs
