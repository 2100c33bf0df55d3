/-
  A run over a dataset (`datasets.py`, `engine.py`), and the three hidden-test pass rates.

  The aggregate delta of a comparison pairs cases by id, its `hidden_test_success` metric averages
  scores by evaluator name, and `save_run` counts case results by position.  They agree when the
  dataset has cases and no two share an id.  `load_jsonl_dataset` checks neither (`PassRatesAgree`
  fails without).

  Structure of the proof:
  1. `RunOver`: a run of the engine has one result for each case of the dataset, in its order, each
     with the hidden-test score `times` times (`runOver_engineRun`);
  2. the stored rate and the metric are then both the mean of the scores (`hiddenPassRate_eq`,
     `runMetricDeltas_get`), since a mean over replicated scores is the mean (`mean_replicated`);
  3. **the crux**, `pairs_perm`: pairing by distinct ids loses nothing, so the aggregate delta is
     the difference of the same means (`aggregateDelta_eq`);
  4. a repeated id loses a case of the second rate but not of the first, and an empty dataset has no
     metric at all: `passRates_agree_iff` is exact.
-/
import Mathlib.Tactic.FieldSimp
import AEControl.Evaluation.Accounting
import AEControl.Evaluation.Verdict

namespace AEControl.Evaluation

open Text Raising

/-! ## Datasets -/

/-- `DatasetSlice`. -/
structure DatasetSlice where
  name : String
  caseIds : List String

/-- `Dataset`. -/
structure Dataset where
  name : String
  version : String
  cases : List DatasetCase
  slices : List DatasetSlice

/-- What a run raises. -/
inductive RunError where
  /-- The file is not UTF-8. -/
  | unicodeDecodeError
  | valueError (message : String)
  /-- An evaluator nobody registered. -/
  | keyError (name : String)
  /-- What the runtime raised. -/
  | runtime (message : String)

/-- What `load_jsonl_dataset` calls: `DatasetCase.model_validate_json`, whose failure is the text of
    its `ValidationError`, and SHA-256 as a hexadecimal digest. -/
structure DatasetReader where
  validate : String → Except String DatasetCase
  sha256 : ByteArray → String

/-- One line that is not blank. -/
def loadCase (reader : DatasetReader) (line : String × ℕ) : Except RunError DatasetCase :=
  match reader.validate line.1 with
  | .ok case => .ok case
  | .error exc => .error (.valueError s!"invalid case on line {line.2}: {exc}")

/-- `load_jsonl_dataset`, on the file `stem`.jsonl with the bytes `raw`. -/
def loadJsonlDataset (reader : DatasetReader) (stem : String) (raw : ByteArray) :
    Except RunError Dataset :=
  match String.fromUTF8? raw with
  | none => .error .unicodeDecodeError
  | some text => do
    let lines := ((splitlines text).zipIdx 1).filter fun line => strip line.1 ≠ ""
    let cases ← lines.mapM (loadCase reader)
    let names := sortedNames (cases.map (·.slice)).dedup
    .ok { name := stem
          version := "sha256:" ++ reader.sha256 raw
          cases := cases
          slices := names.map fun name =>
            ⟨name, (cases.filter (·.slice = name)).map (·.caseId)⟩ }

/-! ## Runs -/

/-- `EvaluationSuite`. -/
structure EvaluationSuite where
  name : String
  evaluators : List String
  concurrency : ℕ
  concurrency_range : 1 ≤ concurrency ∧ concurrency ≤ 32

/-- The case result of one turn of `asyncio.gather`; `output` is the runtime's answer. -/
def gatherCase (suite : EvaluationSuite) (agentVersion : String) (case : DatasetCase)
    (output : Except String AgentOutput) : Except RunError CaseResult := do
  let output ← output.mapError .runtime
  (runCase suite.evaluators agentVersion case output).mapError .keyError

/-- `EvaluationEngine.run`, over a loaded dataset; `outputs i` is the runtime's answer for the
    `i`-th case.  How many cases run at once changes no result. -/
def engineRun (suite : EvaluationSuite) (agentVersion : String) (runId : UUID)
    (outputs : ℕ → Except String AgentOutput) (dataset : Dataset) :
    Except RunError EvaluationRun := do
  let caseResults ← dataset.cases.zipIdx.mapM fun (case, i) =>
    gatherCase suite agentVersion case (outputs i)
  .ok ⟨runId, agentVersion, caseResults⟩

/-! ## The three rates -/

/-- Aggregate, metric and stored rates agree, and every case result is paired in one slice. -/
structure PassRatesAgree (comparison : RunComparison) (baseline candidate : EvaluationRun) :
    Prop where
  metric : comparison.metricDeltas.get "hidden_test_success" =
    some comparison.aggregatePassRateDelta
  stored : comparison.aggregatePassRateDelta =
    .finite (hiddenPassRate candidate.caseResults - hiddenPassRate baseline.caseResults)
  sliceCounts : (comparison.sliceComparisons.map (·.pairedCases)).sum =
      baseline.caseResults.length ∧
    (comparison.sliceComparisons.map (·.pairedCases)).sum = candidate.caseResults.length

/-- The hidden-test score of a case. -/
def hiddenScore (r : CaseResult) : ℚ := if r.hiddenSuccess then 1 else 0

/-- A run over cases, every case scored `times` times by the hidden tests. -/
structure RunOver (cases : List DatasetCase) (times : ℕ) (run : EvaluationRun) : Prop where
  cases_eq : run.caseResults.map (·.case) = cases
  times_pos : 0 < times
  scores_eq : ∀ r ∈ run.caseResults,
    (r.evaluatorResults.filter (·.name = "hidden_test_success")).map (·.score) =
      List.replicate times (hiddenScore r)

/-- One case, evaluated. -/
theorem scores_runCase {evaluators : List String} {agentVersion : String} {case : DatasetCase}
    {output : AgentOutput} {r : CaseResult}
    (h : runCase evaluators agentVersion case output = .ok r)
    (hmem : "hidden_test_success" ∈ evaluators) :
    (r.evaluatorResults.filter (·.name = "hidden_test_success")).map (·.score) =
      List.replicate (evaluators.count "hidden_test_success") (hiddenScore r) := by
  have hhidden := hiddenSuccess_runCase h hmem
  obtain ⟨selected, hsel, hr⟩ := bind_ok h
  obtain rfl := Except.ok.inj hr
  have hscore : hiddenScore ⟨case, agentVersion, output.status, output,
      selected.map (·.evaluate case output)⟩ = (hiddenTestSuccess case output).score := by
    rw [hiddenScore, hhidden]
    rfl
  rw [hscore]
  have hall := mapM_ok hsel
  clear h hr hsel hhidden hscore hmem
  -- evaluator by evaluator; each result has the name of its evaluator
  induction hall with
  | nil => rfl
  | @cons name e names es hname _ ih =>
    obtain ⟨hclass, hename⟩ := evaluatorNamed_ok hname
    have hresult := evaluate_name hclass case output
    rw [List.map_cons, List.count_cons]
    by_cases hhidden : name = "hidden_test_success"
    · rw [List.filter_cons_of_pos (by rw [hresult, hename]; exact decide_eq_true hhidden),
        List.map_cons, ih, hidden_unique hclass (hename.trans hhidden), hhidden]
      simp [List.replicate_succ]
    · rw [List.filter_cons_of_neg (by rw [hresult, hename]; simpa using hhidden), ih]
      simp [hhidden]

/-- Every run of the engine is a run over its dataset. -/
theorem runOver_engineRun {suite : EvaluationSuite} {agentVersion : String} {runId : UUID}
    {outputs : ℕ → Except String AgentOutput} {dataset : Dataset} {run : EvaluationRun}
    (h : engineRun suite agentVersion runId outputs dataset = .ok run)
    (hmem : "hidden_test_success" ∈ suite.evaluators) :
    RunOver dataset.cases (suite.evaluators.count "hidden_test_success") run := by
  obtain ⟨caseResults, hresults, hrun⟩ := bind_ok h
  obtain rfl := Except.ok.inj hrun
  have hall := mapM_ok hresults
  -- a gathered result is what `runCase` makes of the output of the case
  have hcase : ∀ {case i r}, gatherCase suite agentVersion case (outputs i) = .ok r →
      ∃ output, runCase suite.evaluators agentVersion case output = .ok r := by
    intro case i r hr
    obtain ⟨output, -, hr⟩ := bind_ok hr
    refine ⟨output, ?_⟩
    cases hrun : runCase suite.evaluators agentVersion case output with
    | ok r' =>
      rw [hrun] at hr
      obtain rfl := Except.ok.inj hr
      rfl
    | error e =>
      rw [hrun] at hr
      cases hr
  refine ⟨?_, List.count_pos_iff.mpr hmem, fun r hr => ?_⟩
  -- the results stand in the order of the dataset
  · have hcases : ∀ {rows : List (DatasetCase × ℕ)} {rs : List CaseResult},
        List.Forall₂ (fun row r => gatherCase suite agentVersion row.1 (outputs row.2) = .ok r)
          rows rs → rs.map (·.case) = rows.map Prod.fst := by
      intro rows rs hrows
      induction hrows with
      | nil => rfl
      | cons hr _ ih =>
        obtain ⟨output, hr⟩ := hcase hr
        rw [List.map_cons, List.map_cons, ih, runCase_case hr]
    rw [hcases hall]
    exact List.zipIdx_map_fst 0 dataset.cases
  · obtain ⟨⟨case, i⟩, -, hr⟩ := forall₂_mem_right hall hr
    obtain ⟨output, hr⟩ := hcase hr
    exact scores_runCase hr hmem

/-! ## The stored rate and the metric -/

variable {cases : List DatasetCase} {times : ℕ} {run : EvaluationRun}

theorem RunOver.length_eq (h : RunOver cases times run) :
    run.caseResults.length = cases.length := by
  rw [← h.cases_eq, List.length_map]

/-- The rate a run is saved with, over a dataset with cases. -/
theorem hiddenPassRate_eq (hne : run.caseResults ≠ []) : hiddenPassRate run.caseResults =
    (run.caseResults.map hiddenScore).sum / run.caseResults.length := by
  have hsum : ∀ rs : List CaseResult, (rs.map hiddenScore).sum = (hiddenPasses rs : ℚ) := by
    intro rs
    induction rs with
    | nil => rfl
    | cons r rs ih =>
      rw [List.map_cons, List.sum_cons, ih, hiddenPasses, hiddenPasses, List.countP_cons]
      unfold hiddenScore
      split <;> push_cast <;> ring
  rw [hiddenPassRate, if_neg (mt List.length_eq_zero_iff.mp hne), hsum]

theorem length_replicated (rs : List CaseResult) :
    (rs.flatMap fun r => List.replicate times (hiddenScore r)).length = times * rs.length := by
  induction rs with
  | nil => rfl
  | cons r rs ih =>
    rw [List.flatMap_cons, List.length_append, ih, List.length_replicate, List.length_cons,
      Nat.mul_succ, Nat.add_comm]

theorem sum_replicated (rs : List CaseResult) :
    (rs.flatMap fun r => List.replicate times (hiddenScore r)).sum =
      times * (rs.map hiddenScore).sum := by
  induction rs with
  | nil => simp
  | cons r rs ih =>
    rw [List.flatMap_cons, List.sum_append, ih, List.sum_replicate, List.map_cons,
      List.sum_cons, nsmul_eq_mul, mul_add]

/-- Scores counted `times` times have the mean they have counted once. -/
theorem mean_replicated (htimes : 0 < times) (rs : List CaseResult) :
    mean (rs.flatMap fun r => List.replicate times (hiddenScore r)) =
      (rs.map hiddenScore).sum / rs.length := by
  have hne : (times : ℚ) ≠ 0 := Nat.cast_ne_zero.mpr (Nat.ne_of_gt htimes)
  rw [mean, sum_replicated, length_replicated, Nat.cast_mul, mul_div_mul_left _ _ hne]

/-- The hidden-test scores of a run, in the order `_average_metric_scores` meets them. -/
theorem RunOver.hiddenScores (h : RunOver cases times run) :
    (((run.caseResults.flatMap (·.evaluatorResults)).filter
      (·.name = "hidden_test_success")).map (·.score)) =
        run.caseResults.flatMap fun r => List.replicate times (hiddenScore r) := by
  have hscores := h.scores_eq
  generalize run.caseResults = rs at hscores
  induction rs with
  | nil => rfl
  | cons r rs ih =>
    obtain ⟨hr, hrs⟩ := List.forall_mem_cons.mp hscores
    rw [List.flatMap_cons, List.filter_append, List.map_append, ih hrs, hr, List.flatMap_cons]

/-- The metric is the stored rate, over a dataset with cases. -/
theorem RunOver.averageMetricScores_get (h : RunOver cases times run)
    (hne : run.caseResults ≠ []) :
    (averageMetricScores run).get "hidden_test_success" =
      some (hiddenPassRate run.caseResults) := by
  have hsome : (run.caseResults.flatMap (·.evaluatorResults)).filter
      (·.name = "hidden_test_success") ≠ [] := by
    intro hnil
    have hscores := h.hiddenScores
    rw [hnil] at hscores
    obtain ⟨r, rs, hrs⟩ := List.exists_cons_of_ne_nil hne
    rw [hrs, List.flatMap_cons] at hscores
    obtain ⟨n, hn⟩ := Nat.exists_eq_succ_of_ne_zero (Nat.ne_of_gt h.times_pos)
    rw [hn, List.replicate_succ] at hscores
    cases hscores
  have hmap := Dict.get_ofPairs_map (Dict.groupBy EvaluationResult.name
    (run.caseResults.flatMap (·.evaluatorResults))) (fun group => mean (group.map (·.score)))
    "hidden_test_success"
  refine hmap.trans ?_
  rw [Dict.get_groupBy, if_neg hsome, Option.map_some, h.hiddenScores,
    mean_replicated h.times_pos, hiddenPassRate_eq hne]

/-- A name both dictionaries have, subtracted. -/
theorem scoreDeltas_get {a b : Dict String ℚ} {name : String} {x y : ℚ}
    (ha : a.get name = some x) (hb : b.get name = some y) :
    (scoreDeltas a b).get name = some (.finite (y - x)) := by
  set delta : String → Option (String × Float64) := fun name => do
    let base ← a.get name
    let cand ← b.get name
    some (name, .finite (cand - base)) with hdelta
  have hsome : ∀ name p, delta name = some p → p.1 = name := by
    intro name p hp
    obtain ⟨base, -, hp⟩ := Option.bind_eq_some_iff.mp hp
    obtain ⟨cand, -, hp⟩ := Option.bind_eq_some_iff.mp hp
    rw [← Option.some.inj hp]
  have hkeys : ((sharedKeys a b).filterMap delta).map Prod.fst =
      (sharedKeys a b).filterMap fun name => (delta name).map Prod.fst := List.map_filterMap ..
  -- the names of the deltas are among the shared ones, so none comes twice
  have hsub : (((sharedKeys a b).filterMap delta).map Prod.fst).Nodup := by
    rw [hkeys]
    refine nodup_sharedKeys.filterMap fun m n k hm hn => ?_
    obtain ⟨p, hp, hpk⟩ := Option.map_eq_some_iff.mp (Option.mem_def.mp hm)
    obtain ⟨p', hp', hpk'⟩ := Option.map_eq_some_iff.mp (Option.mem_def.mp hn)
    rw [← hsome m p hp, ← hsome n p' hp', hpk, hpk']
  refine Dict.get_of_mem ?_
  rw [scoreDeltas, Dict.ofPairs_items hsub]
  refine List.mem_filterMap.mpr ⟨name, mem_sharedKeys.mpr ⟨Dict.mem_keys_of_get ha,
    Dict.mem_keys_of_get hb⟩, ?_⟩
  show (a.get name).bind _ = _
  rw [ha]
  show (b.get name).bind _ = _
  rw [hb]
  rfl

/-- Nothing is subtracted from a run without cases. -/
theorem runMetricDeltas_empty {baseline : EvaluationRun} (candidate : EvaluationRun)
    (hnil : baseline.caseResults = []) :
    (runMetricDeltas baseline candidate).get "hidden_test_success" = none := by
  have hempty : averageMetricScores baseline = Dict.empty := by
    unfold averageMetricScores
    rw [hnil]
    rfl
  unfold runMetricDeltas
  rw [Dict.get_set_of_ne (by decide), hempty]
  rfl

/-- What both runs average, `_run_metric_deltas` subtracts. -/
theorem runMetricDeltas_get {baseline candidate : EvaluationRun} {base cand : ℚ}
    (hbase : (averageMetricScores baseline).get "hidden_test_success" = some base)
    (hcand : (averageMetricScores candidate).get "hidden_test_success" = some cand) :
    (runMetricDeltas baseline candidate).get "hidden_test_success" =
      some (.finite (cand - base)) := by
  unfold runMetricDeltas
  rw [Dict.get_set_of_ne (by decide)]
  exact scoreDeltas_get hbase hcand

/-! ## Pairing by id -/

/-- Runs over distinct ids are read by id without loss. -/
theorem RunOver.byId_items (h : RunOver cases times run) (hnodup : (cases.map (·.caseId)).Nodup) :
    run.byId.items = run.caseResults.map fun r => (r.case.caseId, r) := by
  refine Dict.ofPairs_items ?_
  rw [List.map_map]
  rw [← h.cases_eq, List.map_map] at hnodup
  exact hnodup

variable {baseline candidate : EvaluationRun}

theorem sharedKeys_perm (hbase : RunOver cases times baseline)
    (hcand : RunOver cases times candidate) (hnodup : (cases.map (·.caseId)).Nodup) :
    (sharedKeys baseline.byId candidate.byId).Perm (cases.map (·.caseId)) := by
  have hkeys : ∀ {run : EvaluationRun}, RunOver cases times run →
      run.byId.keys = cases.map (·.caseId) := by
    intro run h
    rw [Dict.keys, h.byId_items hnodup, List.map_map, ← h.cases_eq, List.map_map]
    rfl
  have hall : (baseline.byId.keys.filter (· ∈ candidate.byId.keys)) = baseline.byId.keys := by
    refine List.filter_eq_self.mpr fun id hid => ?_
    rw [hkeys hbase] at hid
    rw [hkeys hcand]
    exact decide_eq_true hid
  rw [sharedKeys, hall, hkeys hbase]
  exact List.perm_insertionSort _ _

/-- **Pairing by distinct ids loses nothing**: the paired results are the run's. -/
theorem pairs_perm (hbase : RunOver cases times baseline)
    (hcand : RunOver cases times candidate) (hnodup : (cases.map (·.caseId)).Nodup) :
    ((pairs baseline candidate).map (·.baseline)).Perm baseline.caseResults := by
  have hpaired : (pairs baseline candidate).map (·.baseline) =
      (sharedKeys baseline.byId candidate.byId).filterMap baseline.byId.get := by
    unfold pairs
    rw [List.map_filterMap]
    refine List.filterMap_congr fun id hid => ?_
    obtain ⟨pair, hpair⟩ := pairAt_isSome hid
    rw [hpair, (pairAt_some hpair).2.1]
    rfl
  have hread : (cases.map (·.caseId)).filterMap baseline.byId.get = baseline.caseResults := by
    rw [← hbase.cases_eq, List.map_map, List.filterMap_map]
    have hget : ∀ r ∈ baseline.caseResults,
        (baseline.byId.get ∘ (fun case => case.caseId) ∘ fun r => r.case) r = some r := by
      intro r hr
      refine Dict.get_of_mem ?_
      rw [hbase.byId_items hnodup]
      exact List.mem_map_of_mem hr
    rw [List.filterMap_congr hget]
    exact List.filterMap_some
  rw [hpaired, ← hread]
  exact (sharedKeys_perm hbase hcand hnodup).filterMap _

/-- The aggregate delta of pairs, as a difference of score sums. -/
theorem sum_passDelta_eq (paired : List Pair) : (((paired.map passDelta).sum : Int) : ℚ) =
    (paired.map fun pair => hiddenScore pair.candidate).sum -
      (paired.map fun pair => hiddenScore pair.baseline).sum := by
  induction paired with
  | nil => simp
  | cons pair paired ih =>
    rw [List.map_cons, List.sum_cons, Int.cast_add, ih, List.map_cons, List.sum_cons, List.map_cons,
      List.sum_cons]
    unfold passDelta hiddenScore
    cases pair.candidate.hiddenSuccess <;> cases pair.baseline.hiddenSuccess <;>
      simp [Bool.toInt] <;> ring

/-- Over distinct ids the aggregate delta is the difference of the stored rates. -/
theorem aggregateDelta_eq (hbase : RunOver cases times baseline)
    (hcand : RunOver cases times candidate) (hnodup : (cases.map (·.caseId)).Nodup)
    (hne : cases ≠ []) :
    aggregateDelta ((pairs baseline candidate).map passDelta) =
      hiddenPassRate candidate.caseResults - hiddenPassRate baseline.caseResults := by
  have hperm := pairs_perm hbase hcand hnodup
  -- the pairs of the exchanged runs are the exchanged pairs
  have hperm' : ((pairs baseline candidate).map (·.candidate)).Perm candidate.caseResults := by
    have hswap := pairs_perm hcand hbase hnodup
    rw [pairs_swap, List.map_map] at hswap
    exact hswap
  have hlength : (pairs baseline candidate).length = cases.length := by
    rw [← hbase.length_eq, ← hperm.length_eq, List.length_map]
  have hcases : cases.length ≠ 0 := mt List.length_eq_zero_iff.mp hne
  have hbaseNe : baseline.caseResults ≠ [] := by
    rw [← List.length_pos_iff_ne_nil, hbase.length_eq]
    exact Nat.pos_of_ne_zero hcases
  have hcandNe : candidate.caseResults ≠ [] := by
    rw [← List.length_pos_iff_ne_nil, hcand.length_eq]
    exact Nat.pos_of_ne_zero hcases
  have hdeltas : ((pairs baseline candidate).map passDelta).isEmpty = false := by
    rw [List.isEmpty_eq_false_iff, ← List.length_pos_iff_ne_nil, List.length_map, hlength]
    exact Nat.pos_of_ne_zero hcases
  -- a sum over the pairs is a sum over the results of either side
  have hsum : ((pairs baseline candidate).map fun pair => hiddenScore pair.baseline).sum =
      (baseline.caseResults.map hiddenScore).sum := by
    rw [← (hperm.map hiddenScore).sum_eq, List.map_map]
    rfl
  have hsum' : ((pairs baseline candidate).map fun pair => hiddenScore pair.candidate).sum =
      (candidate.caseResults.map hiddenScore).sum := by
    rw [← (hperm'.map hiddenScore).sum_eq, List.map_map]
    rfl
  rw [aggregateDelta, hdeltas, if_neg Bool.false_ne_true, sum_passDelta_eq, List.length_map,
    hlength, hsum, hsum', hiddenPassRate_eq hbaseNe, hiddenPassRate_eq hcandNe, hbase.length_eq,
    hcand.length_eq, sub_div]

/-! ## Agreement -/

/-- Every slice's pairs together are the paired ids. -/
theorem slicePairs_eq (resample : Nat → List Int → List Int) :
    ((compareRuns resample baseline candidate).sliceComparisons.map (·.pairedCases)).sum =
      (sharedKeys baseline.byId candidate.byId).length := by
  have hbooks := accounted_compareRuns resample baseline candidate
  rw [hbooks.sliceCounts, hbooks.paired]
  rfl

/-- **When the three rates agree**: over a dataset with cases, no two of which share an id. -/
theorem passRatesAgree_iff (resample : Nat → List Int → List Int)
    (hbase : RunOver cases times baseline) (hcand : RunOver cases times candidate) :
    PassRatesAgree (compareRuns resample baseline candidate) baseline candidate ↔
      cases ≠ [] ∧ (cases.map (·.caseId)).Nodup := by
  constructor
  · rintro ⟨hmetric, -, hslices, -⟩
    refine ⟨fun hnil => ?_, ?_⟩
    · have hempty : baseline.caseResults = [] := by
        rw [← List.length_eq_zero_iff, hbase.length_eq, hnil]
        rfl
      have hnone := runMetricDeltas_empty candidate hempty
      exact absurd (hmetric.symm.trans hnone) (Option.some_ne_none _)
    -- pairs are keyed by id: as many pairs as results leave no id twice
    · rw [slicePairs_eq, Nat.cast_inj] at hslices
      have hkeys : (sharedKeys baseline.byId candidate.byId).length ≤
          baseline.byId.keys.length := by
        rw [sharedKeys, sortedNames, List.length_insertionSort]
        exact List.length_filter_le _ _
      have hlength : (baseline.caseResults.map fun r => (r.case.caseId, r)).length ≤
          baseline.byId.keys.length := by
        rw [List.length_map, ← hslices]
        exact hkeys
      have hids := Dict.nodup_of_length_ofPairs hlength
      rw [List.map_map] at hids
      rw [← hbase.cases_eq, List.map_map]
      exact hids
  · rintro ⟨hne, hnodup⟩
    have hagg := aggregateDelta_eq hbase hcand hnodup hne
    have hlength := (sharedKeys_perm hbase hcand hnodup).length_eq
    rw [List.length_map] at hlength
    have hsome : ∀ {run : EvaluationRun}, RunOver cases times run → run.caseResults ≠ [] := by
      intro run h hnil
      exact hne (List.length_eq_zero_iff.mp (h.length_eq ▸ congrArg List.length hnil))
    refine ⟨?_, congrArg Float64.finite hagg, ?_, ?_⟩
    · show (runMetricDeltas baseline candidate).get _ = some (.finite (aggregateDelta _))
      rw [hagg]
      exact runMetricDeltas_get (hbase.averageMetricScores_get (hsome hbase))
        (hcand.averageMetricScores_get (hsome hcand))
    · rw [slicePairs_eq, hlength, hbase.length_eq]
    · rw [slicePairs_eq, hlength, hcand.length_eq]

/-- **The three pass rates.**  For a dataset that was loaded, a suite with the hidden tests and two
    runs of the engine, the rates agree exactly if the dataset has cases with distinct ids. -/
theorem passRates_agree_iff (resample : Nat → List Int → List Int) (reader : DatasetReader)
    (stem : String) (raw : ByteArray) (suite : EvaluationSuite)
    (hmem : "hidden_test_success" ∈ suite.evaluators) :
    ∀ dataset, loadJsonlDataset reader stem raw = .ok dataset →
    ∀ version version' runId runId' outputs outputs' baseline candidate,
      engineRun suite version runId outputs dataset = .ok baseline →
      engineRun suite version' runId' outputs' dataset = .ok candidate →
      (PassRatesAgree (compareRuns resample baseline candidate) baseline candidate ↔
        dataset.cases ≠ [] ∧ (dataset.cases.map (·.caseId)).Nodup) := by
  intro dataset _ _ _ _ _ _ _ baseline candidate hbase hcand
  exact passRatesAgree_iff resample (runOver_engineRun hbase hmem) (runOver_engineRun hcand hmem)

namespace Sample

def hiddenCase : DatasetCase :=
  { caseId := "SEC-01", slice := "python", bugKind := "divide" }

/-- A line of a dataset. -/
def line : String :=
  "\x7b\"case_id\":\"SEC-01\",\"title\":\"\",\"slice\":\"python\",\"bug_kind\":\"divide\"\x7d"

/-- A reader that knows that line. -/
def reader : DatasetReader where
  validate text := if text = line then .ok hiddenCase else .error "Field required"
  sha256 _ := ""

theorem concurrency_four : 1 ≤ 4 ∧ 4 ≤ 32 := by decide

def hiddenSuite : EvaluationSuite := ⟨"suite", ["hidden_test_success"], 4, concurrency_four⟩

/-- The hidden tests pass on the first attempt and fail on the second. -/
def outputs (i : ℕ) : Except String AgentOutput :=
  .ok ⟨[], "", [], "ok", if i = 0 then "ok" else "failed", .finite 1, .passed, none⟩

/-- The dataset of a text in UTF-8. -/
theorem fromUTF8_toUTF8 (s : String) : String.fromUTF8? s.toUTF8 = some s :=
  dif_pos s.isValidUTF8

end Sample

namespace Sample

/-- The dataset whose file repeats that line. -/
theorem load_repeated {n : ℕ} {text : String}
    (hlines : ((splitlines text).zipIdx 1).filter (fun l => strip l.1 ≠ "") =
      (List.replicate n line).zipIdx 1) :
    ∃ dataset, dataset.cases = List.replicate n hiddenCase ∧
      loadJsonlDataset reader "cases" text.toUTF8 = .ok dataset := by
  have hcase : ∀ k, loadCase reader (line, k) = .ok hiddenCase := fun k => rfl
  have hcases : ∀ n k, ((List.replicate n line).zipIdx k).mapM (loadCase reader) =
      .ok (List.replicate n hiddenCase) := by
    intro n
    induction n with
    | zero => exact fun k => rfl
    | succ n ih =>
      intro k
      rw [List.replicate_succ, List.zipIdx_cons, List.mapM_cons, hcase, ih]
      rfl
  unfold loadJsonlDataset
  rw [fromUTF8_toUTF8]
  dsimp only
  rw [hlines, hcases n 1]
  exact ⟨_, rfl, rfl⟩

/-- That suite and these outputs run over every dataset. -/
theorem run_returns (dataset : Dataset) :
    ∃ run, engineRun hiddenSuite "v1" 0 outputs dataset = .ok run := by
  have hcase : ∀ row ∈ dataset.cases.zipIdx,
      ∃ r, gatherCase hiddenSuite "v1" row.1 (outputs row.2) = .ok r := fun row _ => ⟨_, rfl⟩
  obtain ⟨caseResults, hresults⟩ := mapM_of_forall hcase
  unfold engineRun
  rw [hresults]
  exact ⟨_, rfl⟩

end Sample

/-- One case, loaded and run twice. -/
theorem passRates_agree_iff_sample : ∃ dataset run,
    loadJsonlDataset Sample.reader "cases" (Sample.line ++ "\n").toUTF8 = .ok dataset ∧
    engineRun Sample.hiddenSuite "v1" 0 Sample.outputs dataset = .ok run ∧
    PassRatesAgree (compareRuns (fun _ ds => ds) run run) run run := by
  have hlines : ((splitlines (Sample.line ++ "\n")).zipIdx 1).filter (fun l => strip l.1 ≠ "") =
      (List.replicate 1 Sample.line).zipIdx 1 := by decide +kernel
  obtain ⟨dataset, hcases, hload⟩ := Sample.load_repeated hlines
  obtain ⟨run, hrun⟩ := Sample.run_returns dataset
  refine ⟨dataset, run, hload, hrun, ?_⟩
  refine (passRates_agree_iff _ _ _ _ _ (by decide) dataset hload _ _ _ _ _ _ _ _ hrun hrun).mpr ?_
  rw [hcases]
  exact ⟨List.cons_ne_nil _ _, List.nodup_singleton _⟩

/-- **The same line twice is loaded too**: the run has two results, of which the comparison pairs
    one, as it finds them by `case_id`. -/
theorem passRates_repeated_id : ∃ dataset run,
    loadJsonlDataset Sample.reader "cases" (Sample.line ++ "\n" ++ Sample.line ++ "\n").toUTF8 =
      .ok dataset ∧
    engineRun Sample.hiddenSuite "v1" 0 Sample.outputs dataset = .ok run ∧
    "hidden_test_success" ∈ Sample.hiddenSuite.evaluators ∧
    ¬ PassRatesAgree (compareRuns (fun _ ds => ds) run run) run run := by
  have hlines : ((splitlines (Sample.line ++ "\n" ++ Sample.line ++ "\n")).zipIdx 1).filter
      (fun l => strip l.1 ≠ "") = (List.replicate 2 Sample.line).zipIdx 1 := by decide +kernel
  obtain ⟨dataset, hcases, hload⟩ := Sample.load_repeated hlines
  obtain ⟨run, hrun⟩ := Sample.run_returns dataset
  have hmem : "hidden_test_success" ∈ Sample.hiddenSuite.evaluators := by decide
  refine ⟨dataset, run, hload, hrun, hmem, fun hagree => ?_⟩
  have hover := runOver_engineRun hrun hmem
  have hnodup := ((passRatesAgree_iff _ hover hover).mp hagree).2
  rw [hcases] at hnodup
  exact absurd hnodup (by simp [List.replicate])

end AEControl.Evaluation
