/-
  Comparing two runs (`compare.py`): cases are paired by id, every pair is classified, the pass
  rates are compared over all pairs and slice by slice, and every evaluator's average score is
  compared over each run's own cases.

  The rates are exact rationals.  `resample` stands for the draws of `random.Random(7)`: the
  bootstrap interval is the only place where they are read.

  The last section compares two comparisons with one baseline.  Turning hidden-test passes of the
  candidate into failures (`CaseRegressed`) changes no pairing, no slice and no forbidden-file
  count, and lowers or keeps every pass-rate delta: `compareRuns_worse`.
-/
import Mathlib.Algebra.Order.Field.Rat
import Mathlib.Algebra.Order.Field.Basic
import Mathlib.Algebra.Order.BigOperators.Group.List
import AEControl.Lib.Dict
import AEControl.Evaluation.Engine

namespace AEControl.Evaluation

/-! ## Runs and comparisons -/

/-- `EvaluationRun`, the part `compare_runs` reads. -/
structure EvaluationRun where
  runId : UUID
  agentVersion : String
  caseResults : List CaseResult

/-- `Classification`. -/
inductive Classification where
  | improved
  | regressed
  | unchangedPass
  | unchangedFail
  deriving DecidableEq

/-- `CaseComparison`. -/
structure CaseComparison where
  caseId : String
  slice : String
  baselinePassed : Bool
  candidatePassed : Bool
  classification : Classification
  metricDeltas : Dict String Float64
  explanation : String

/-- `SliceComparison`. -/
structure SliceComparison where
  slice : String
  pairedCases : Int
  baselinePassRate : Float64
  candidatePassRate : Float64
  passRateDelta : Float64

/-- `RunComparison`. -/
structure RunComparison where
  baselineRunId : UUID
  candidateRunId : UUID
  pairedCases : Int
  missingPairs : List String
  aggregatePassRateDelta : Float64
  metricDeltas : Dict String Float64
  confidenceInterval : Option (Float64 × Float64)
  limitedEvidence : Bool
  improvedCases : List String
  regressedCases : List String
  unchangedPasses : Int
  unchangedFailures : Int
  sliceComparisons : List SliceComparison
  caseComparisons : List CaseComparison

/-! ## Pairing -/

/-- `sorted(...)` of texts. -/
def sortedNames (names : List String) : List String := names.insertionSort (· ≤ ·)

/-- `{result.case.case_id: result for result in run.case_results}`. -/
def EvaluationRun.byId (run : EvaluationRun) : Dict String CaseResult :=
  Dict.ofPairs (run.caseResults.map fun result => (result.case.caseId, result))

/-- `sorted(set(a) & set(b))`. -/
def sharedKeys {α β : Type} (a : Dict String α) (b : Dict String β) : List String :=
  sortedNames (a.keys.filter (· ∈ b.keys))

/-- `sorted(set(a) ^ set(b))`. -/
def unsharedKeys {α β : Type} (a : Dict String α) (b : Dict String β) : List String :=
  sortedNames (a.keys.filter (· ∉ b.keys) ++ b.keys.filter (· ∉ a.keys))

/-- A case id with both runs' results. -/
structure Pair where
  caseId : String
  baseline : CaseResult
  candidate : CaseResult

/-- `baseline_by_id[case_id]` and `candidate_by_id[case_id]`. -/
def pairAt (baselineById candidateById : Dict String CaseResult) (caseId : String) :
    Option Pair :=
  match baselineById.get caseId, candidateById.get caseId with
  | some base, some cand => some ⟨caseId, base, cand⟩
  | _, _ => none

/-- The pairs, in the order of `paired_ids`. -/
def pairs (baseline candidate : EvaluationRun) : List Pair :=
  (sharedKeys baseline.byId candidate.byId).filterMap (pairAt baseline.byId candidate.byId)

/-! ## One pair -/

/-- `str(flag)`. -/
def boolText (flag : Bool) : String := if flag then "True" else "False"

/-- The branches of the loop over `paired_ids`. -/
def classify (basePassed candPassed : Bool) : Classification :=
  if candPassed && !basePassed then .improved
  else if basePassed && !candPassed then .regressed
  else if basePassed && candPassed then .unchangedPass
  else .unchangedFail

/-- `int(cand_passed) - int(base_passed)`. -/
def passDelta (pair : Pair) : Int :=
  pair.candidate.hiddenSuccess.toInt - pair.baseline.hiddenSuccess.toInt

/-- `{name: b[name] - a[name] for name in sorted(set(a) & set(b))}`. -/
def scoreDeltas (baseline candidate : Dict String ℚ) : Dict String Float64 :=
  Dict.ofPairs <| (sharedKeys baseline candidate).filterMap fun name => do
    let base ← baseline.get name
    let cand ← candidate.get name
    some (name, .finite (cand - base))

/-- `{result.name: result.score for result in case.evaluator_results}`. -/
def CaseResult.scores (r : CaseResult) : Dict String ℚ :=
  Dict.ofPairs (r.evaluatorResults.map fun result => (result.name, result.score))

/-- The `CaseComparison` of one pair. -/
def compareCase (baseline candidate : EvaluationRun) (pair : Pair) : CaseComparison :=
  let basePassed := pair.baseline.hiddenSuccess
  let candPassed := pair.candidate.hiddenSuccess
  { caseId := pair.caseId
    slice := pair.baseline.case.slice
    baselinePassed := basePassed
    candidatePassed := candPassed
    classification := classify basePassed candPassed
    metricDeltas := scoreDeltas pair.baseline.scores pair.candidate.scores
    explanation := baseline.agentVersion ++ "=" ++ boolText basePassed ++ ", " ++
      candidate.agentVersion ++ "=" ++ boolText candPassed }

/-! ## Slices -/

/-- `sum(passed) / len(rows)`. -/
def passRate (passed : CaseComparison → Bool) (rows : List CaseComparison) : ℚ :=
  rows.countP passed / rows.length

/-- The `SliceComparison` of one group. -/
def compareSlice (group : String × List CaseComparison) : SliceComparison :=
  let baselineRate := passRate (·.baselinePassed) group.2
  let candidateRate := passRate (·.candidatePassed) group.2
  ⟨group.1, group.2.length, .finite baselineRate, .finite candidateRate,
    .finite (candidateRate - baselineRate)⟩

/-- `_slice_comparisons`. -/
def sliceComparisons (cases : List CaseComparison) : List SliceComparison :=
  ((Dict.groupBy (·.slice) cases).items.insertionSort fun a b => a.1 ≤ b.1).map compareSlice

/-! ## Run metrics -/

/-- `sum(values) / len(values)`. -/
def mean (values : List ℚ) : ℚ := values.sum / values.length

/-- `_average_metric_scores`. -/
def averageMetricScores (run : EvaluationRun) : Dict String ℚ :=
  Dict.ofPairs <| (Dict.groupBy EvaluationResult.name
    (run.caseResults.flatMap (·.evaluatorResults))).items.map fun group =>
      (group.1, mean (group.2.map (·.score)))

/-- The case's forbidden-file evaluator ran and failed. -/
def CaseResult.forbiddenModification (r : CaseResult) : Bool :=
  match r.evaluatorResults.find? (·.name = "forbidden_file_modification") with
  | some result => !result.passed
  | none => false

/-- `_forbidden_modification_rate`. -/
def forbiddenModificationRate (run : EvaluationRun) : ℚ :=
  if run.caseResults.isEmpty then 0
  else run.caseResults.countP (·.forbiddenModification) / run.caseResults.length

/-- `_run_metric_deltas`. -/
def runMetricDeltas (baseline candidate : EvaluationRun) : Dict String Float64 :=
  (scoreDeltas (averageMetricScores baseline) (averageMetricScores candidate)).set
    "forbidden_modification_rate"
    (.finite (forbiddenModificationRate candidate - forbiddenModificationRate baseline))

/-! ## The comparison -/

/-- `sum(deltas) / len(deltas) if deltas else 0.0`. -/
def aggregateDelta (deltas : List Int) : ℚ :=
  if deltas.isEmpty then 0 else (deltas.sum : ℚ) / deltas.length

/-- `_bootstrap_ci`; `resample i deltas` is the `i`-th sample drawn with replacement. -/
def bootstrapCi (resample : Nat → List Int → List Int) (deltas : List Int) : Float64 × Float64 :=
  let means := (List.range 500).map fun i => aggregateDelta (resample i deltas)
  let sorted := means.insertionSort (· ≤ ·)
  (.finite (sorted.getD 12 0), .finite (sorted.getD 487 0))

/-- `compare_runs`. -/
def compareRuns (resample : Nat → List Int → List Int) (baseline candidate : EvaluationRun) :
    RunComparison :=
  let paired := pairs baseline candidate
  let cases := paired.map (compareCase baseline candidate)
  let deltas := paired.map passDelta
  let classified := fun c : Classification => cases.filter (·.classification = c)
  { baselineRunId := baseline.runId
    candidateRunId := candidate.runId
    pairedCases := paired.length
    missingPairs := unsharedKeys baseline.byId candidate.byId
    aggregatePassRateDelta := .finite (aggregateDelta deltas)
    metricDeltas := runMetricDeltas baseline candidate
    confidenceInterval := if 10 ≤ deltas.length then some (bootstrapCi resample deltas) else none
    limitedEvidence := deltas.length < 30
    improvedCases := (classified .improved).map (·.caseId)
    regressedCases := (classified .regressed).map (·.caseId)
    unchangedPasses := (classified .unchangedPass).length
    unchangedFailures := (classified .unchangedFail).length
    sliceComparisons := sliceComparisons cases
    caseComparisons := cases }

/-! ## A candidate that passes fewer hidden tests -/

/-- The evaluator results other than the hidden tests'. -/
def CaseResult.otherResults (r : CaseResult) : List EvaluationResult :=
  r.evaluatorResults.filter (·.name ≠ "hidden_test_success")

/-- The same case, differing at most in its hidden-test results and passing the hidden tests only
    where `first` does.  Of the rest of a case result the comparison reads nothing. -/
structure CaseRegressed (first second : CaseResult) : Prop where
  case : second.case = first.case
  others : second.otherResults = first.otherResults
  hidden : second.hiddenSuccess = true → first.hiddenSuccess = true

/-- Two runs over the same cases, the second's hidden tests passing only where the first's do. -/
def RunRegressed (first second : EvaluationRun) : Prop :=
  List.Forall₂ CaseRegressed first.caseResults second.caseResults

/-- A rate that is no higher. -/
def RateLe (x y : Float64) : Prop := ∃ p q : ℚ, x = .finite p ∧ y = .finite q ∧ p ≤ q

/-- What the gate reads of two comparisons, the second one at most as good. -/
structure ComparisonWorse (first second : RunComparison) : Prop where
  paired : second.pairedCases = first.pairedCases
  aggregate : RateLe second.aggregatePassRateDelta first.aggregatePassRateDelta
  forbidden : second.metricDeltas.get "forbidden_modification_rate" =
    first.metricDeltas.get "forbidden_modification_rate"
  slices : List.Forall₂ (fun r s => s.slice = r.slice ∧ RateLe s.passRateDelta r.passRateDelta)
    first.sliceComparisons second.sliceComparisons

theorem countP_le_of_forall₂ {α β : Type} {p : α → Bool} {q : β → Bool} {l : List α} {m : List β}
    (h : List.Forall₂ (fun a b => q b = true → p a = true) l m) : m.countP q ≤ l.countP p := by
  induction h with
  | nil => exact Nat.le_refl _
  | @cons a b l m hab _ ih =>
    rw [List.countP_cons, List.countP_cons]
    by_cases hq : q b = true
    · rw [if_pos hq, if_pos (hab hq)]
      omega
    · rw [if_neg hq]
      omega

theorem isEmpty_eq_of_forall₂ {α β : Type} {R : α → β → Prop} {l : List α} {m : List β}
    (h : List.Forall₂ R l m) : m.isEmpty = l.isEmpty := by
  cases h <;> rfl

/-- A find that skips the hidden tests reads the other results only. -/
theorem CaseRegressed.forbiddenModification {first second : CaseResult}
    (h : CaseRegressed first second) :
    second.forbiddenModification = first.forbiddenModification := by
  have hfind : ∀ r : CaseResult,
      r.evaluatorResults.find? (·.name = "forbidden_file_modification") =
        r.otherResults.find? (·.name = "forbidden_file_modification") := by
    intro r
    rw [CaseResult.otherResults, List.find?_filter]
    congr 1
    funext result
    by_cases hname : result.name = "forbidden_file_modification"
    · simp [hname]
    · simp [hname]
  unfold CaseResult.forbiddenModification
  rw [hfind, hfind, h.others]

theorem forbiddenModificationRate_eq {first second : EvaluationRun}
    (h : RunRegressed first second) :
    forbiddenModificationRate second = forbiddenModificationRate first := by
  have hlength : first.caseResults.length = second.caseResults.length := h.length_eq
  have hcount : second.caseResults.countP (·.forbiddenModification) =
      first.caseResults.countP (·.forbiddenModification) := by
    refine Nat.le_antisymm (countP_le_of_forall₂ (h.imp fun a b hab => ?_))
      (countP_le_of_forall₂ (h.flip.imp fun b a hab => ?_))
    · rw [hab.forbiddenModification]
      exact id
    · rw [hab.forbiddenModification]
      exact id
  unfold forbiddenModificationRate
  rw [isEmpty_eq_of_forall₂ h, hcount, hlength]

/-- Pairing by id keeps the relation: the last result of an id is paired in both runs. -/
theorem rel_byId {first second : EvaluationRun} (h : RunRegressed first second) :
    Dict.Rel CaseRegressed first.byId second.byId := by
  refine Dict.rel_ofPairs ?_
  refine List.rel_map (R := CaseRegressed) ?_ h
  intro a b hab
  have hid : a.case.caseId = b.case.caseId := by rw [hab.case]
  exact ⟨hid, hab⟩

/-- The pairs of two regressed candidates with one baseline. -/
def PairRegressed (p q : Pair) : Prop :=
  q.caseId = p.caseId ∧ q.baseline = p.baseline ∧ CaseRegressed p.candidate q.candidate

theorem pairs_regressed (baseline : EvaluationRun) {first second : EvaluationRun}
    (h : RunRegressed first second) :
    List.Forall₂ PairRegressed (pairs baseline first) (pairs baseline second) := by
  have hbyId := rel_byId h
  have hkeys : sharedKeys baseline.byId first.byId = sharedKeys baseline.byId second.byId := by
    unfold sharedKeys
    rw [hbyId.keys_eq]
  unfold pairs
  rw [← hkeys]
  refine List.rel_filterMap (R := Eq) ?_ (List.forall₂_refl _)
  rintro caseId _ rfl
  have hget := hbyId.get caseId
  unfold pairAt
  revert hget
  generalize first.byId.get caseId = f
  generalize second.byId.get caseId = g
  intro hget
  cases hget with
  | none => cases baseline.byId.get caseId <;> exact Option.Rel.none
  | some hfs =>
    cases baseline.byId.get caseId with
    | none => exact Option.Rel.none
    | some base => exact Option.Rel.some ⟨rfl, rfl, hfs⟩

theorem PairRegressed.passDelta_le {p q : Pair} (h : PairRegressed p q) :
    passDelta q ≤ passDelta p := by
  unfold passDelta
  rw [h.2.1]
  have hhidden := h.2.2.hidden
  revert hhidden
  cases p.candidate.hiddenSuccess <;> cases q.candidate.hiddenSuccess <;> simp

theorem aggregateDelta_le {first second : List Int}
    (h : List.Forall₂ (fun d e => e ≤ d) first second) :
    aggregateDelta second ≤ aggregateDelta first := by
  have hsum : second.sum ≤ first.sum := h.flip.sum_le_sum
  have hlength : first.length = second.length := h.length_eq
  unfold aggregateDelta
  rw [isEmpty_eq_of_forall₂ h, hlength]
  split
  · exact le_refl _
  · exact div_le_div_of_nonneg_right (by exact_mod_cast hsum) (Nat.cast_nonneg _)

/-- Rows of one slice: the same baseline, fewer candidate passes. -/
def RowRegressed (r s : CaseComparison) : Prop :=
  s.baselinePassed = r.baselinePassed ∧ (s.candidatePassed = true → r.candidatePassed = true)

theorem compareSlice_regressed {group group' : String × List CaseComparison}
    (h : Dict.EntryRel (List.Forall₂ RowRegressed) group group') :
    (compareSlice group').slice = (compareSlice group).slice ∧
      RateLe (compareSlice group').passRateDelta (compareSlice group).passRateDelta := by
  obtain ⟨hname, hrows⟩ := h
  have hlength : group.2.length = group'.2.length := hrows.length_eq
  have hbase : group'.2.countP (·.baselinePassed) = group.2.countP (·.baselinePassed) :=
    Nat.le_antisymm (countP_le_of_forall₂ (hrows.imp fun a b hab => by rw [hab.1]; exact id))
      (countP_le_of_forall₂ (hrows.flip.imp fun b a hab => by rw [hab.1]; exact id))
  have hcand : group'.2.countP (·.candidatePassed) ≤ group.2.countP (·.candidatePassed) :=
    countP_le_of_forall₂ (hrows.imp fun a b hab => hab.2)
  have hrate : passRate (·.candidatePassed) group'.2 ≤ passRate (·.candidatePassed) group.2 := by
    unfold passRate
    rw [hlength]
    exact div_le_div_of_nonneg_right (by exact_mod_cast hcand) (Nat.cast_nonneg _)
  refine ⟨hname.symm, _, _, rfl, rfl, ?_⟩
  show passRate _ group'.2 - passRate (·.baselinePassed) group'.2 ≤ _
  have hsame : passRate (·.baselinePassed) group'.2 = passRate (·.baselinePassed) group.2 := by
    unfold passRate
    rw [hbase, hlength]
  rw [hsame]
  exact sub_le_sub_right hrate _

/-- Against one baseline, fewer hidden-test passes make every rate the gate reads worse or leave it
    as it was. -/
theorem compareRuns_worse (resample : Nat → List Int → List Int) (baseline : EvaluationRun)
    {first second : EvaluationRun} (h : RunRegressed first second) :
    ComparisonWorse (compareRuns resample baseline first)
      (compareRuns resample baseline second) := by
  have hpairs := pairs_regressed baseline h
  have hrows : List.Forall₂ (fun r s => r.slice = s.slice ∧ RowRegressed r s)
      ((pairs baseline first).map (compareCase baseline first))
      ((pairs baseline second).map (compareCase baseline second)) := by
    refine List.rel_map (R := PairRegressed) ?_ hpairs
    rintro p q ⟨-, hbase, hcand⟩
    refine ⟨?_, ?_, hcand.hidden⟩
    · show p.baseline.case.slice = q.baseline.case.slice
      rw [hbase]
    · show q.baseline.hiddenSuccess = p.baseline.hiddenSuccess
      rw [hbase]
  -- the pairs, the aggregate, the forbidden modifications and the slices
  refine ⟨?_, ?_, ?_, ?_⟩
  · show ((pairs baseline second).length : Int) = (pairs baseline first).length
    rw [hpairs.length_eq]
  · refine ⟨_, _, rfl, rfl, aggregateDelta_le ?_⟩
    exact List.rel_map (R := PairRegressed) (fun p q hpq => hpq.passDelta_le) hpairs
  · show (runMetricDeltas baseline second).get _ = (runMetricDeltas baseline first).get _
    unfold runMetricDeltas
    rw [Dict.get_set_self, Dict.get_set_self, forbiddenModificationRate_eq h]
  · refine List.rel_map (R := Dict.EntryRel (List.Forall₂ RowRegressed)) ?_ ?_
    · intro group group' hgroup
      exact compareSlice_regressed hgroup
    · refine forall₂_insertionSort ?_ (Dict.rel_groupBy hrows)
      rintro a b a' b' ⟨hab, -⟩ ⟨hab', -⟩
      rw [hab, hab']

end AEControl.Evaluation
