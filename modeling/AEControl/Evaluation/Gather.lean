/-
  `EvaluationEngine.run`, case by case: `asyncio.gather` over `run_case`s that share one semaphore.

  `engineRun` evaluates one case after the other; here every case is a task, and the event loop
  gives the tasks their turns in any order.  `Gathering.outer` is the future that `gather` returns:
  the first exception sets it, or the last result does.

  `gather_agrees` is what the concurrency of a suite does and does not change: never more than
  `concurrency` cases at once, no task left behind, and the run of `engineRun` on every schedule.

  Structure of the proof:
  1. the semaphore and its waiters are `Lib.Semaphore`, which bounds the holders on every schedule
     and keeps its queue fair;
  2. `Gathered`, the invariant: a task that is done has the result of its case, and the future is
     set exactly if a task has raised or all have returned;
  3. `gathered_step`, by the event: a turn that ends a task settles the future (`Gathered.finish`),
     any other leaves it as it is (`Gathered.quiet`);
  4. what `gather` returns is therefore the list of the cases' results in the order of the dataset,
     which is what `engineRun` computes (`engineRun_of_results`).
-/
import AEControl.Lib.Runs
import AEControl.Lib.Semaphore
import AEControl.Evaluation.PassRates

namespace AEControl.Evaluation

open Semaphores Raising

/-! ## The tasks of a run -/

/-- The future of `gather`, beside the tasks. -/
structure Gathering (n : ℕ) where
  tasks : Pool (Fin n) (Except RunError CaseResult)
  outer : Option (Except RunError (List CaseResult))

/-- What a task has returned. -/
def returned : Phase (Except RunError CaseResult) → Option CaseResult
  | .done (.ok result) => some result
  | _ => none

/-- The results in the order of the cases, once there are all. -/
def collect {n : ℕ} (tasks : Pool (Fin n) (Except RunError CaseResult)) :
    Option (List CaseResult) :=
  if ∀ i, (returned (tasks.phase i)).isSome then
    some ((List.finRange n).filterMap fun i => returned (tasks.phase i))
  else none

/-- What the end of a task makes of the future, if it is not set yet. -/
def settle {n : ℕ} (tasks : Pool (Fin n) (Except RunError CaseResult)) :
    Except RunError CaseResult → Option (Except RunError (List CaseResult))
  | .error e => some (.error e)
  | .ok _ => (collect tasks).map .ok

section
variable (suite : EvaluationSuite) (agentVersion : String) (runId : UUID)
  (outputs : ℕ → Except String AgentOutput) (dataset : Dataset)

/-- What `run_case` of the `i`-th case returns or raises. -/
def caseResult (i : Fin dataset.cases.length) : Except RunError CaseResult :=
  gatherCase suite agentVersion dataset.cases[i] (outputs i)

/-- A turn of the event loop. -/
def gatherStep (s : Gathering dataset.cases.length) (event : Turn (Fin dataset.cases.length)) :
    Gathering dataset.cases.length :=
  let result := caseResult suite agentVersion outputs dataset
  let tasks := turn result s.tasks event
  match event with
  | .finish i =>
    match s.tasks.phase i with
    | .holding => ⟨tasks, s.outer.or (settle tasks (result i))⟩
    | _ => s
  | _ => ⟨tasks, s.outer⟩

/-- `asyncio.gather`; without a case it is done at once. -/
def gatherStart : Gathering dataset.cases.length :=
  ⟨fresh suite.concurrency, if dataset.cases = [] then some (.ok []) else none⟩

/-- What `run` returns or raises. -/
def Gathering.answer {n : ℕ} (s : Gathering n) : Option (Except RunError EvaluationRun) :=
  s.outer.map fun r => r.map fun caseResults => ⟨runId, agentVersion, caseResults⟩

/-! ## What every turn keeps -/

/-- The invariant of a run. -/
structure Gathered (s : Gathering dataset.cases.length) : Prop where
  fair : Fair suite.concurrency s.tasks
  results : ∀ i r, s.tasks.phase i = .done r → r = caseResult suite agentVersion outputs dataset i
  /-- The future is open as long as a case is, and nothing has been raised. -/
  opened : s.outer = none → (∃ i, (s.tasks.phase i).isDone = false) ∧
    ∀ i r, s.tasks.phase i = .done r → ∃ result, r = .ok result
  returned : ∀ caseResults, s.outer = some (.ok caseResults) →
    collect s.tasks = some caseResults
  raised : ∀ e, s.outer = some (.error e) → ∃ i, s.tasks.phase i = .done (.error e)

end

section
variable {suite : EvaluationSuite} {agentVersion : String} {runId : UUID}
  {outputs : ℕ → Except String AgentOutput} {dataset : Dataset}
  {s : Gathering dataset.cases.length}

/-- A task has returned a result exactly if it is done with it. -/
theorem returned_eq {phase : Phase (Except RunError CaseResult)} {result : CaseResult} :
    returned phase = some result ↔ phase = .done (.ok result) := by
  constructor
  · intro h
    unfold returned at h
    split at h
    · cases h
      rfl
    · cases h
  · rintro rfl
    rfl

/-- All results, in order. -/
theorem collect_some {n : ℕ} {tasks : Pool (Fin n) (Except RunError CaseResult)}
    {caseResults : List CaseResult} (h : collect tasks = some caseResults) :
    ∃ result : Fin n → CaseResult, (∀ i, tasks.phase i = .done (.ok (result i))) ∧
      caseResults = (List.finRange n).map result := by
  unfold collect at h
  split at h
  · rename_i hall
    choose result hresult using fun i => Option.isSome_iff_exists.mp (hall i)
    refine ⟨result, fun i => returned_eq.mp (hresult i), ?_⟩
    rw [← Option.some.inj h, ← List.filterMap_eq_map]
    exact List.filterMap_congr fun i _ => hresult i
  · cases h

/-- What is collected depends on the phases of the tasks only. -/
theorem collect_congr {n : ℕ} {tasks tasks' : Pool (Fin n) (Except RunError CaseResult)}
    (h : ∀ i, tasks'.phase i = tasks.phase i) : collect tasks' = collect tasks := by
  unfold collect
  simp only [h]

/-- Nothing is collected only if some task has not returned. -/
theorem collect_none {n : ℕ} {tasks : Pool (Fin n) (Except RunError CaseResult)}
    (h : collect tasks = none) : ∃ i, ∀ result, tasks.phase i ≠ .done (.ok result) := by
  unfold collect at h
  split at h
  · cases h
  · rename_i hall
    obtain ⟨i, hi⟩ := not_forall.mp hall
    refine ⟨i, fun result hresult => hi ?_⟩
    rw [returned_eq.mpr hresult]
    rfl

section
variable {n : ℕ} {tasks : Pool (Fin n) (Except RunError CaseResult)}
  {r : Except RunError CaseResult}

/-- `gather` waits on only if the task has returned and others have not. -/
theorem settle_none (h : settle tasks r = none) : (∃ x, r = .ok x) ∧ collect tasks = none := by
  cases r with
  | error e => cases h
  | ok x => exact ⟨⟨x, rfl⟩, Option.map_eq_none_iff.mp h⟩

/-- `gather` returns what is collected. -/
theorem settle_ok {caseResults : List CaseResult} (h : settle tasks r = some (.ok caseResults)) :
    collect tasks = some caseResults := by
  cases r with
  | error e => cases h
  | ok x =>
    obtain ⟨all, hcollect, hall⟩ := Option.map_eq_some_iff.mp h
    cases hall
    exact hcollect

/-- `gather` raises what a task has raised. -/
theorem settle_error {e : RunError} (h : settle tasks r = some (.error e)) : r = .error e := by
  cases r with
  | error e' =>
    cases h
    rfl
  | ok x =>
    obtain ⟨all, -, hall⟩ := Option.map_eq_some_iff.mp h
    cases hall

end

/-- The cases one after the other give what the tasks give together. -/
theorem engineRun_of_results {result : Fin dataset.cases.length → CaseResult}
    (h : ∀ i, caseResult suite agentVersion outputs dataset i = .ok (result i)) :
    engineRun suite agentVersion runId outputs dataset =
      .ok ⟨runId, agentVersion, (List.finRange dataset.cases.length).map result⟩ := by
  have hloop : dataset.cases.zipIdx.mapM
      (fun p => gatherCase suite agentVersion p.1 (outputs p.2)) =
        .ok ((List.finRange dataset.cases.length).map result) := by
    refine mapM_of_forall₂ (List.forall₂_iff_get.mpr ⟨by simp, fun i hi hi' => ?_⟩)
    have hi : i < dataset.cases.length := by simpa using hi
    simpa [caseResult] using h ⟨i, hi⟩
  have hrun := congrArg (fun r => Except.bind r fun caseResults : List CaseResult =>
    (Except.ok ⟨runId, agentVersion, caseResults⟩ : Except RunError EvaluationRun)) hloop
  exact hrun

/-- If a case raises, the run of the engine returns nothing. -/
theorem engineRun_of_raised {i : Fin dataset.cases.length} {e : RunError}
    (h : caseResult suite agentVersion outputs dataset i = .error e) (run : EvaluationRun) :
    engineRun suite agentVersion runId outputs dataset ≠ .ok run := by
  intro hrun
  obtain ⟨caseResults, hresults, -⟩ := bind_ok hrun
  have hmem : (dataset.cases[i], (i : ℕ)) ∈ dataset.cases.zipIdx :=
    List.mem_zipIdx_iff_getElem?.mpr (List.getElem?_eq_getElem i.isLt)
  obtain ⟨result, -, hresult⟩ := forall₂_mem_left (mapM_ok hresults) hmem
  have hresult : caseResult suite agentVersion outputs dataset i = .ok result := hresult
  rw [h] at hresult
  cases hresult

/-- A task is not done exactly if it has no outcome. -/
theorem isDone_eq_false {phase : Phase (Except RunError CaseResult)} :
    phase.isDone = false ↔ ∀ r, phase ≠ .done r := by
  cases phase with
  | done r => exact iff_of_false (fun h => by cases h) fun h => h r rfl
  | _ => exact iff_of_true rfl fun r h => by cases h

/-- What the last turn of a task makes of the run. -/
theorem gatherStep_finish {i : Fin dataset.cases.length} (h : s.tasks.phase i = .holding) :
    gatherStep suite agentVersion outputs dataset s (.finish i) =
      let result := caseResult suite agentVersion outputs dataset
      let tasks := turn result s.tasks (.finish i)
      ⟨tasks, s.outer.or (settle tasks (result i))⟩ := by
  simp only [gatherStep, h]

/-- A turn that is given brings the run nearer to its end. -/
theorem turns_gatherStep {event : Turn (Fin dataset.cases.length)} (h : Enabled s.tasks event) :
    (gatherStep suite agentVersion outputs dataset s event).tasks.turns < s.tasks.turns := by
  have htasks : (gatherStep suite agentVersion outputs dataset s event).tasks =
      turn (caseResult suite agentVersion outputs dataset) s.tasks event := by
    cases event with
    | start i => rfl
    | resume i => rfl
    | finish i => rw [gatherStep_finish h]
  rw [htasks]
  exact turns_turn h

/-- Before the first turn nothing has been gathered. -/
theorem gathered_start :
    Gathered suite agentVersion outputs dataset (gatherStart suite dataset) where
  fair := fair_fresh _
  results i r hr := by cases hr
  opened h := by
    unfold gatherStart at h
    split at h
    · cases h
    · rename_i hne
      exact ⟨⟨⟨0, List.length_pos_iff.mpr hne⟩, rfl⟩, fun i r hr => by cases hr⟩
  returned caseResults h := by
    unfold gatherStart at h
    split at h
    · rename_i hnil
      cases h
      have hlength : dataset.cases.length = 0 := List.length_eq_zero_iff.mpr hnil
      have hnone : ∀ i : Fin dataset.cases.length, False := fun i => by
        have := i.isLt
        omega
      unfold collect
      rw [if_pos fun i => (hnone i).elim]
      congr 1
      exact List.filterMap_eq_nil_iff.mpr fun i _ => (hnone i).elim
    · cases h
  raised e h := by
    unfold gatherStart at h
    split at h <;> cases h

/-- What a task is done with after a turn is the result of its case. -/
theorem Gathered.results_turn (h : Gathered suite agentVersion outputs dataset s)
    {event : Turn (Fin dataset.cases.length)} (i : Fin dataset.cases.length)
    (r : Except RunError CaseResult)
    (hr : (turn (caseResult suite agentVersion outputs dataset) s.tasks event).phase i = .done r) :
    r = caseResult suite agentVersion outputs dataset i := by
  rcases turn_done.mp hr with hr | ⟨-, -, hr⟩
  · exact h.results i r hr
  · exact hr

/-- Results that were all there are still there. -/
theorem Gathered.returned_turn (h : Gathered suite agentVersion outputs dataset s)
    {event : Turn (Fin dataset.cases.length)} {caseResults : List CaseResult}
    (ho : s.outer = some (.ok caseResults)) :
    collect (turn (caseResult suite agentVersion outputs dataset) s.tasks event) =
      some caseResults := by
  have hcollect := h.returned caseResults ho
  obtain ⟨all, hall, -⟩ := collect_some hcollect
  rw [← hcollect]
  exact collect_congr fun i => by rw [hall i, turn_done.mpr (.inl (hall i))]

/-- What `gather` has raised stays the error of a task. -/
theorem Gathered.raised_turn (h : Gathered suite agentVersion outputs dataset s)
    {event : Turn (Fin dataset.cases.length)} {e : RunError} (ho : s.outer = some (.error e)) :
    ∃ i, (turn (caseResult suite agentVersion outputs dataset) s.tasks event).phase i =
      .done (.error e) := by
  obtain ⟨i, hi⟩ := h.raised e ho
  exact ⟨i, turn_done.mpr (.inl hi)⟩

/-- A turn that ends no task leaves the future alone. -/
theorem Gathered.quiet (h : Gathered suite agentVersion outputs dataset s)
    {event : Turn (Fin dataset.cases.length)}
    (hnot : ∀ i, event = .finish i → s.tasks.phase i ≠ .holding) :
    Gathered suite agentVersion outputs dataset
      ⟨turn (caseResult suite agentVersion outputs dataset) s.tasks event, s.outer⟩ where
  fair := fair_turn h.fair event
  results := h.results_turn
  opened ho := by
    have hdone : ∀ i r, (turn (caseResult suite agentVersion outputs dataset) s.tasks event).phase i
        = .done r → s.tasks.phase i = .done r := fun i r hr => by
      rcases turn_done.mp hr with hr | ⟨hevent, hholding, -⟩
      · exact hr
      · exact absurd hholding (hnot i hevent)
    obtain ⟨⟨i, hi⟩, hok⟩ := h.opened ho
    refine ⟨⟨i, isDone_eq_false.mpr fun r hr => ?_⟩, fun i r hr => hok i r (hdone i r hr)⟩
    exact isDone_eq_false.mp hi r (hdone i r hr)
  returned _ ho := h.returned_turn ho
  raised _ ho := h.raised_turn ho

/-- The end of a task settles the future, if it is open. -/
theorem Gathered.finish (h : Gathered suite agentVersion outputs dataset s)
    {i : Fin dataset.cases.length} (hholding : s.tasks.phase i = .holding) :
    Gathered suite agentVersion outputs dataset
      (gatherStep suite agentVersion outputs dataset s (.finish i)) := by
  rw [gatherStep_finish hholding]
  have hi : (turn (caseResult suite agentVersion outputs dataset) s.tasks (.finish i)).phase i =
      .done (caseResult suite agentVersion outputs dataset i) :=
    turn_done.mpr (.inr ⟨rfl, hholding, rfl⟩)
  have hfair : Fair suite.concurrency
      (turn (caseResult suite agentVersion outputs dataset) s.tasks (.finish i)) :=
    fair_turn h.fair _
  refine ⟨hfair, h.results_turn, fun ho => ?_, fun caseResults ho => ?_, fun e ho => ?_⟩
  · obtain ⟨hopen, hsettle⟩ := Option.or_eq_none_iff.mp ho
    obtain ⟨-, hok⟩ := h.opened hopen
    obtain ⟨⟨x, hx⟩, hcollect⟩ := settle_none hsettle
    have hall : ∀ j r, (turn (caseResult suite agentVersion outputs dataset) s.tasks
        (.finish i)).phase j = .done r → ∃ x, r = .ok x := fun j r hr => by
      rcases turn_done.mp hr with hr | ⟨hevent, -, hr⟩
      · exact hok j r hr
      · cases hevent
        exact ⟨x, hr.trans hx⟩
    -- not all results are there, and no task has raised
    obtain ⟨j, hj⟩ := collect_none hcollect
    refine ⟨⟨j, isDone_eq_false.mpr fun r hr => ?_⟩, hall⟩
    obtain ⟨y, rfl⟩ := hall j r hr
    exact hj y hr
  · rcases Option.or_eq_some_iff.mp ho with ho | ⟨-, ho⟩
    · exact h.returned_turn ho
    · exact settle_ok ho
  · rcases Option.or_eq_some_iff.mp ho with ho | ⟨-, ho⟩
    · exact h.raised_turn ho
    · exact ⟨i, hi.trans (congrArg Phase.done (settle_error ho))⟩

/-- **Step lemma.** -/
theorem gathered_step (h : Gathered suite agentVersion outputs dataset s)
    (event : Turn (Fin dataset.cases.length)) :
    Gathered suite agentVersion outputs dataset
      (gatherStep suite agentVersion outputs dataset s event) := by
  cases event with
  | start i => exact h.quiet fun j he => by cases he
  | resume i => exact h.quiet fun j he => by cases he
  | finish i =>
    by_cases hholding : s.tasks.phase i = .holding
    · exact h.finish hholding
    · have hsame : gatherStep suite agentVersion outputs dataset s (.finish i) = s := by
        cases hphase : s.tasks.phase i with
        | holding => exact absurd hphase hholding
        | _ => simp only [gatherStep, hphase]
      rw [hsame]
      exact h

end

/-- **Concurrency is transparent.**  On every schedule of the event loop: at most `concurrency`
    cases are being evaluated; a run that is returned is the run `engineRun` makes one case after
    the other, and an exception that is raised is the exception of a case, for which `engineRun`
    returns no run either; when no task has a turn left, all are done and `run` has returned or
    raised; and that takes three turns a case at most. -/
theorem gather_agrees (suite : EvaluationSuite) (agentVersion : String) (runId : UUID)
    (outputs : ℕ → Except String AgentOutput) (dataset : Dataset)
    (turns : List (Turn (Fin dataset.cases.length))) :
    let s := Runs.run (gatherStep suite agentVersion outputs dataset) (gatherStart suite dataset)
      turns
    s.tasks.holders.card ≤ suite.concurrency ∧
    (∀ run, s.answer agentVersion runId = some (.ok run) →
      engineRun suite agentVersion runId outputs dataset = .ok run) ∧
    (∀ e, s.answer agentVersion runId = some (.error e) →
      (∃ i, caseResult suite agentVersion outputs dataset i = .error e) ∧
      ∀ run, engineRun suite agentVersion runId outputs dataset ≠ .ok run) ∧
    ((∀ event, ¬ Enabled s.tasks event) →
      (∀ i, (s.tasks.phase i).isDone = true) ∧ s.answer agentVersion runId ≠ none) ∧
    (Runs.Along (gatherStep suite agentVersion outputs dataset)
        (fun s event => Enabled s.tasks event) (gatherStart suite dataset) turns →
      turns.length ≤ 3 * dataset.cases.length) := by
  intro s
  have h : Gathered suite agentVersion outputs dataset s :=
    Runs.run_invariant _ (Gathered suite agentVersion outputs dataset)
      (fun _ event hs => gathered_step hs event) gathered_start turns
  refine ⟨h.fair.holding_le, fun run hrun => ?_, fun e he => ?_, fun hstuck => ?_, fun hturns => ?_⟩
  · obtain ⟨r, hr, hmap⟩ := Option.map_eq_some_iff.mp hrun
    obtain ⟨caseResults, rfl, rfl⟩ := map_ok hmap
    obtain ⟨result, hresult, rfl⟩ := collect_some (h.returned caseResults hr)
    exact engineRun_of_results fun i => (h.results i _ (hresult i)).symm
  · obtain ⟨r, hr, hmap⟩ := Option.map_eq_some_iff.mp he
    obtain rfl := map_error hmap
    obtain ⟨i, hi⟩ := h.raised e hr
    have hcase := (h.results i _ hi).symm
    exact ⟨⟨i, hcase⟩, engineRun_of_raised hcase⟩
  · have hdone : ∀ i, (s.tasks.phase i).isDone = true := fun i => by
      cases hi : (s.tasks.phase i).isDone with
      | true => rfl
      | false =>
        obtain ⟨event, hevent⟩ := h.fair.progress suite.concurrency_range.1 hi
        exact absurd hevent (hstuck event)
    refine ⟨hdone, fun hnone => ?_⟩
    obtain ⟨⟨i, hi⟩, -⟩ := h.opened (Option.map_eq_none_iff.mp hnone)
    rw [hdone i] at hi
    cases hi
  · have hlength := Runs.Along.length_le (m := fun s => s.tasks.turns)
      (fun _ _ hevent => turns_gatherStep hevent) hturns
    have hfresh : (gatherStart suite dataset).tasks.turns = 3 * dataset.cases.length := by
      rw [show (gatherStart suite dataset).tasks = fresh suite.concurrency from rfl, turns_fresh,
        Fintype.card_fin]
    omega

end AEControl.Evaluation
