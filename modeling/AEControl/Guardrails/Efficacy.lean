/-
  `build_guardrail_efficacy_report`: how the policy versions of a tenant did on the checks that came
  with an expected action.

  Evidence is grouped by configuration and version, every group becomes a row of a confusion matrix
  with its rates, and the rows are sorted.  A rate is the double nearest to the quotient of two
  counts; rounding does not leave the interval that the constructor asks for.

  1. **Accepted** — every row passes the checks of its own constructor (`validate_efficacyMetrics`):
     every labelled item is in one of the four fields of the confusion matrix.

  2. **Closed form** — one row for each version that occurs, counted over its own evidence
     (`versions_eq`).  No version is the empty text, so the sort key keeps versions apart
     (`sortKey_injective`).

  3. **Conservation** — the report is a function of the evidence as a multiset, and its rows count
     every item once (`efficacy_conserved`).

  4. **Windows** — a window is cut in two, row by row of the store, so the reports of adjacent windows
     add up (`efficacy_windows`).
-/
import Mathlib.Algebra.Order.BigOperators.Group.List
import Mathlib.Algebra.Order.Field.Rat
import Mathlib.Data.Prod.Lex
import Mathlib.Data.String.Basic
import AEControl.Lib.Dict
import AEControl.Lib.Except
import AEControl.Lib.Rounding
import AEControl.Lib.RowSecurity
import AEControl.Evidence.Queries
import AEControl.Guardrails.Checks

namespace AEControl.Guardrails

open Raising Evidence Rounding

/-! ## The report -/

/-- `GuardrailEfficacyMetrics`, as it is passed to the constructor. -/
structure GuardrailEfficacyMetrics where
  configId : String
  configVersion : Option Version
  sampleCount : ℤ
  labeledCount : ℤ
  passThroughCount : ℤ
  interventionCount : ℤ
  truePositives : ℤ
  falsePositives : ℤ
  trueNegatives : ℤ
  falseNegatives : ℤ
  labelCoverage : ℚ
  interventionRate : ℚ
  accuracy : Option ℚ
  precision : Option ℚ
  «recall» : Option ℚ
  falsePositiveRate : Option ℚ

/-- `Field(ge=0)`. -/
def countField (name : String) (n : ℤ) : Except StoreError Unit :=
  if 0 ≤ n then .ok () else .error (.validationError name)

/-- `Field(ge=0, le=1)`. -/
def rateField (name : String) (rate : ℚ) : Except StoreError Unit :=
  if 0 ≤ rate ∧ rate ≤ 1 then .ok () else .error (.validationError name)

/-- `Field(default=None, ge=0, le=1)`. -/
def optionalRateField (name : String) : Option ℚ → Except StoreError Unit
  | none => .ok ()
  | some rate => rateField name rate

/-- The constructor: `ValidationError` names the field. -/
def GuardrailEfficacyMetrics.validate (m : GuardrailEfficacyMetrics) :
    Except StoreError GuardrailEfficacyMetrics := do
  countField "sample_count" m.sampleCount
  countField "labeled_count" m.labeledCount
  countField "pass_through_count" m.passThroughCount
  countField "intervention_count" m.interventionCount
  countField "true_positives" m.truePositives
  countField "false_positives" m.falsePositives
  countField "true_negatives" m.trueNegatives
  countField "false_negatives" m.falseNegatives
  rateField "label_coverage" m.labelCoverage
  rateField "intervention_rate" m.interventionRate
  optionalRateField "accuracy" m.accuracy
  optionalRateField "precision" m.precision
  optionalRateField "recall" m.«recall»
  optionalRateField "false_positive_rate" m.falsePositiveRate
  .ok m

/-- `GuardrailEfficacyReport`. -/
structure GuardrailEfficacyReport where
  generatedAt : Timestamp
  windowStart : Timestamp
  windowEnd : Timestamp
  configId : Option String
  totalChecks : ℤ
  labeledChecks : ℤ
  versions : List GuardrailEfficacyMetrics

/-- `_ratio`: the quotient of two integers is correctly rounded. -/
def ratio (numerator denominator : ℤ) : ℚ :=
  if denominator = 0 then 0 else nearestDouble (numerator / denominator)

/-- `_optional_ratio`. -/
def optionalRatio (numerator denominator : ℤ) : Option ℚ :=
  if denominator = 0 then none else some (nearestDouble (numerator / denominator))

/-- What the evidence is grouped by. -/
def GuardrailEvidence.versionKey (e : GuardrailEvidence) : String × Option Version :=
  (e.configId, e.configVersion)

/-- `lambda item: (item[0][0], item[0][1] or "")`. -/
def sortKey (key : String × Option Version) : String ×ₗ String :=
  toLex (key.1, (key.2.map Subtype.val).getD "")

/-- How many of the evidence items were decided as `passedThrough`, with `expected` as label. -/
def decided (passedThrough : Bool) (expected : ExpectedGuardrailAction)
    (items : List GuardrailEvidence) : ℤ :=
  items.countP fun item => item.passedThrough = passedThrough && item.expectedAction = some expected

/-- The row of one group. -/
def efficacyMetrics (key : String × Option Version) (items : List GuardrailEvidence) :
    GuardrailEfficacyMetrics :=
  let labeled := items.filter (·.expectedAction.isSome)
  let interventions : ℤ := items.countP fun item => !item.passedThrough
  let truePositives := decided false .intervention labeled
  let falsePositives := decided false .passThrough labeled
  let trueNegatives := decided true .passThrough labeled
  let falseNegatives := decided true .intervention labeled
  let sampleCount : ℤ := items.length
  let labeledCount : ℤ := labeled.length
  { configId := key.1
    configVersion := key.2
    sampleCount
    labeledCount
    passThroughCount := sampleCount - interventions
    interventionCount := interventions
    truePositives
    falsePositives
    trueNegatives
    falseNegatives
    labelCoverage := ratio labeledCount sampleCount
    interventionRate := ratio interventions sampleCount
    accuracy := optionalRatio (truePositives + trueNegatives) labeledCount
    precision := optionalRatio truePositives (truePositives + falsePositives)
    «recall» := optionalRatio truePositives (truePositives + falseNegatives)
    falsePositiveRate := optionalRatio falsePositives (falsePositives + trueNegatives) }

/-- `build_guardrail_efficacy_report`, at the time `now`. -/
def buildGuardrailEfficacyReport (now : Timestamp) (artifacts : List StoredGuardrailEvidence)
    (windowStart windowEnd : Timestamp) (configId : Option String) :
    Except StoreError GuardrailEfficacyReport := do
  let grouped := Dict.groupBy GuardrailEvidence.versionKey (artifacts.map (·.evidence))
  let sorted := grouped.items.insertionSort fun item item' => sortKey item.1 ≤ sortKey item'.1
  let versions ← sorted.mapM fun item => (efficacyMetrics item.1 item.2).validate
  let totalChecks : ℤ := artifacts.length
  let labeledChecks := (versions.map (·.labeledCount)).sum
  countField "total_checks" totalChecks
  countField "labeled_checks" labeledChecks
  .ok { generatedAt := now, windowStart, windowEnd, configId, totalChecks, labeledChecks, versions }

/-! ## A row passes its own checks -/

/-- A rounded quotient of a part and the whole is a rate. -/
theorem ratio_mem {n d : ℤ} (hn : 0 ≤ n) (hle : n ≤ d) :
    0 ≤ nearestDouble ((n : ℚ) / d) ∧ nearestDouble ((n : ℚ) / d) ≤ 1 := by
  have hn' : (0 : ℚ) ≤ n := by exact_mod_cast hn
  have hd' : (0 : ℚ) ≤ d := by exact_mod_cast hn.trans hle
  have hle' : (n : ℚ) ≤ d := by exact_mod_cast hle
  have hnonneg := div_nonneg hn' hd'
  have hone : (n : ℚ) / d ≤ (1 : ℕ) := by
    rw [Nat.cast_one]
    exact div_le_one_of_le₀ hle' hd'
  refine ⟨nearestDouble_nonneg hnonneg, ?_⟩
  simpa using nearestDouble_le (by norm_num) hnonneg hone

/-- A count that is not negative is accepted. -/
theorem countField_ok {name : String} {n : ℤ} (h : 0 ≤ n) : countField name n = .ok () := if_pos h

/-- The ratio of a part to its whole is accepted as a rate. -/
theorem rateField_ratio {name : String} {n d : ℤ} (hn : 0 ≤ n) (hle : n ≤ d) :
    rateField name (ratio n d) = .ok () := by
  unfold rateField ratio
  split_ifs with hzero hrange hrange
  · rfl
  · exact absurd ⟨le_refl 0, zero_le_one⟩ hrange
  · rfl
  · exact absurd (ratio_mem hn hle) hrange

/-- The ratio of a part to its whole is accepted where a rate may be absent, as it is if the whole
    is nothing. -/
theorem optionalRateField_ratio {name : String} {n d : ℤ} (hn : 0 ≤ n) (hle : n ≤ d) :
    optionalRateField name (optionalRatio n d) = .ok () := by
  unfold optionalRatio
  split_ifs with hzero
  · rfl
  · exact if_pos (ratio_mem hn hle)

/-- Decisions are counted. -/
theorem decided_nonneg (passedThrough : Bool) (expected : ExpectedGuardrailAction)
    (items : List GuardrailEvidence) : 0 ≤ decided passedThrough expected items :=
  Int.natCast_nonneg _

/-- Only labelled checks are decided rightly or wrongly. -/
theorem decided_labeled (passedThrough : Bool) (expected : ExpectedGuardrailAction)
    (items : List GuardrailEvidence) :
    decided passedThrough expected (items.filter (·.expectedAction.isSome)) =
      decided passedThrough expected items := by
  unfold decided
  rw [List.countP_filter]
  refine congrArg Nat.cast (List.countP_congr fun item _ => ?_)
  cases item.expectedAction <;> simp

/-- Each check counts once among the decided ones. -/
theorem decided_cons (passedThrough : Bool) (expected : ExpectedGuardrailAction)
    (item : GuardrailEvidence) (items : List GuardrailEvidence) :
    decided passedThrough expected (item :: items) = decided passedThrough expected items +
      if item.passedThrough = passedThrough ∧ item.expectedAction = some expected then 1 else 0 := by
  unfold decided
  rw [List.countP_cons]
  push_cast
  congr 1
  simp

/-- **The confusion matrix is complete**: every labeled item is in one of its four fields. -/
theorem decided_sum (items : List GuardrailEvidence) :
    decided false .intervention items + decided false .passThrough items +
        decided true .passThrough items + decided true .intervention items =
      (items.filter (·.expectedAction.isSome)).length := by
  induction items with
  | nil => rfl
  | cons item items ih =>
    rw [decided_cons, decided_cons, decided_cons, decided_cons, List.filter_cons]
    -- one of the four, if the item has a label
    rcases item.passedThrough with _ | _ <;> rcases item.expectedAction with _ | _ | _ <;>
      simp <;> omega

variable {key : String × Option Version} {items items' : List GuardrailEvidence}

/-- The labelled checks are some of all. -/
theorem length_labeled_le :
    (items.filter (·.expectedAction.isSome)).length ≤ items.length := List.length_filter_le _ _

/-- **The model accepts every row**: its counts are counts and its rates quotients of them. -/
theorem validate_efficacyMetrics :
    (efficacyMetrics key items).validate = .ok (efficacyMetrics key items) := by
  have hsum := decided_sum items
  have htp := decided_nonneg false .intervention items
  have hfp := decided_nonneg false .passThrough items
  have htn := decided_nonneg true .passThrough items
  have hfn := decided_nonneg true .intervention items
  have hlabeled : (items.filter (·.expectedAction.isSome)).length ≤ items.length :=
    length_labeled_le
  have hinterventions : items.countP (fun item => !item.passedThrough) ≤ items.length :=
    List.countP_le_length
  unfold GuardrailEfficacyMetrics.validate
  simp only [efficacyMetrics, decided_labeled]
  rw [countField_ok (by omega), countField_ok (by omega), countField_ok (by omega),
    countField_ok (by omega), countField_ok htp, countField_ok hfp, countField_ok htn,
    countField_ok hfn, rateField_ratio (by omega) (by omega), rateField_ratio (by omega) (by omega),
    optionalRateField_ratio (by omega) (by omega), optionalRateField_ratio htp (by omega),
    optionalRateField_ratio htp (by omega), optionalRateField_ratio hfp (by omega)]
  rfl

/-! ## The closed form -/

/-- No version is the empty text. -/
theorem sortKey_injective : Function.Injective sortKey := by
  rintro ⟨configId, version⟩ ⟨configId', version'⟩ h
  have h := Prod.mk.inj (toLex.injective h)
  obtain rfl : configId = configId' := h.1
  have hne : ∀ v : Version, v.val ≠ "" := fun v hv => by
    have hvalid := v.property
    rw [hv] at hvalid
    cases hvalid
  have hversion := h.2
  rcases version with _ | v <;> rcases version' with _ | v'
  · rfl
  · exact absurd hversion.symm (hne v')
  · exact absurd hversion (hne v)
  · rw [Subtype.ext hversion]

/-- The versions that occur, in the order of the report. -/
def sortedKeys (evidence : List GuardrailEvidence) : List (String × Option Version) :=
  (Dict.groupBy GuardrailEvidence.versionKey evidence).keys.insertionSort fun key key' =>
    sortKey key ≤ sortKey key'

/-- The row of a version. -/
def versionRow (evidence : List GuardrailEvidence) (key : String × Option Version) :
    GuardrailEfficacyMetrics :=
  efficacyMetrics key (evidence.filter (·.versionKey = key))

variable {evidence evidence' : List GuardrailEvidence}

/-- The keys of the rows are those of the groups. -/
theorem perm_sortedKeys :
    (sortedKeys evidence).Perm (Dict.groupBy GuardrailEvidence.versionKey evidence).keys :=
  List.perm_insertionSort _ _

/-- No row's key occurs twice. -/
theorem nodup_sortedKeys : (sortedKeys evidence).Nodup :=
  perm_sortedKeys.nodup_iff.mpr (Dict.groupBy GuardrailEvidence.versionKey evidence).nodup

/-- The keys of the rows are exactly those that occur among the checks. -/
theorem mem_sortedKeys : key ∈ sortedKeys evidence ↔ ∃ e ∈ evidence, e.versionKey = key :=
  perm_sortedKeys.mem_iff.trans Dict.mem_keys_groupBy

/-- The keys of the rows stand in their order. -/
theorem pairwise_sortedKeys :
    (sortedKeys evidence).Pairwise fun key key' => sortKey key ≤ sortKey key' := by
  have : Std.Total fun key key' : String × Option Version => sortKey key ≤ sortKey key' :=
    ⟨fun _ _ => le_total _ _⟩
  have : IsTrans (String × Option Version) fun key key' => sortKey key ≤ sortKey key' :=
    ⟨fun _ _ _ => le_trans⟩
  exact List.pairwise_insertionSort _ _

/-- **One row per version that occurs, counted over its own evidence**; the constructors accept
    every row. -/
theorem versions_eq (now : Timestamp) (artifacts : List StoredGuardrailEvidence)
    (windowStart windowEnd : Timestamp) (configId : Option String) :
    buildGuardrailEfficacyReport now artifacts windowStart windowEnd configId = .ok
      { generatedAt := now
        windowStart
        windowEnd
        configId
        totalChecks := artifacts.length
        labeledChecks := (((sortedKeys (artifacts.map (·.evidence))).map
          (versionRow (artifacts.map (·.evidence)))).map (·.labeledCount)).sum
        versions := (sortedKeys (artifacts.map (·.evidence))).map
          (versionRow (artifacts.map (·.evidence))) } := by
  let evidence := artifacts.map (·.evidence)
  let group : String × Option Version → (String × Option Version) × List GuardrailEvidence :=
    fun key => (key, evidence.filter (·.versionKey = key))
  have hsorted : (Dict.groupBy GuardrailEvidence.versionKey evidence).items.insertionSort
      (fun item item' => sortKey item.1 ≤ sortKey item'.1) =
        (sortedKeys evidence).map group := by
    rw [Dict.items_groupBy]
    exact (List.map_insertionSort _ _ group _ fun _ _ _ _ => Iff.rfl).symm
  have hrows : ((sortedKeys evidence).map group).mapM
      (fun item => (efficacyMetrics item.1 item.2).validate) =
        .ok ((sortedKeys evidence).map (versionRow evidence)) := by
    have hall := mapM_eq_map (f := fun item : (String × Option Version) × List GuardrailEvidence =>
        (efficacyMetrics item.1 item.2).validate) (g := fun item => efficacyMetrics item.1 item.2)
      (fun _ (_ : _ ∈ (sortedKeys evidence).map group) => validate_efficacyMetrics)
    rw [hall, List.map_map]
    rfl
  have hlabeled : 0 ≤ (((sortedKeys evidence).map (versionRow evidence)).map
      (·.labeledCount)).sum := by
    refine List.sum_nonneg fun n hn => ?_
    rw [List.map_map] at hn
    obtain ⟨key, -, rfl⟩ := List.mem_map.mp hn
    exact Int.natCast_nonneg _
  unfold buildGuardrailEfficacyReport
  simp only [bind, Except.bind]
  rw [hsorted, hrows]
  simp only [countField_ok (Int.natCast_nonneg _)]
  rw [countField_ok hlabeled]

/-! ## Evidence as a multiset -/

/-- A row does not depend on the order of its checks. -/
theorem efficacyMetrics_perm (h : items.Perm items') :
    efficacyMetrics key items = efficacyMetrics key items' := by
  have hlabeled := h.filter (·.expectedAction.isSome)
  unfold efficacyMetrics decided
  simp only [hlabeled.countP_eq, hlabeled.length_eq, h.countP_eq, h.length_eq]

/-- The row of a version does not depend on the order of the evidence. -/
theorem versionRow_perm (h : evidence.Perm evidence') :
    versionRow evidence = versionRow evidence' :=
  funext fun _ => efficacyMetrics_perm (h.filter _)

/-- Which versions there are, and their order, does not depend on the order of the evidence. -/
theorem sortedKeys_perm (h : evidence.Perm evidence') :
    sortedKeys evidence = sortedKeys evidence' := by
  refine eq_of_perm_of_sorted (nodup_sortedKeys.map sortKey_injective) ?_ pairwise_sortedKeys
    pairwise_sortedKeys
  refine (List.perm_ext_iff_of_nodup nodup_sortedKeys nodup_sortedKeys).mpr fun key => ?_
  rw [mem_sortedKeys, mem_sortedKeys]
  exact exists_congr fun e => and_congr_left fun _ => h.mem_iff

/-- Every item is counted in one row. -/
theorem countP_versionRow (evidence : List GuardrailEvidence) (p : GuardrailEvidence → Bool) :
    ((sortedKeys evidence).map fun key =>
      ((evidence.filter (·.versionKey = key)).countP p : ℤ)).sum = evidence.countP p := by
  have hall : ∀ e ∈ evidence, e.versionKey ∈ sortedKeys evidence :=
    fun e he => mem_sortedKeys.mpr ⟨e, he, rfl⟩
  rw [← RowSecurity.sum_countP_visible nodup_sortedKeys hall p]
  refine ((map_list_sum (Nat.castAddMonoidHom ℤ) _).trans ?_).symm
  rw [List.map_map]
  rfl

/-- The labels of the rows are those of the evidence. -/
theorem labeledCount_sum (evidence : List GuardrailEvidence) :
    (((sortedKeys evidence).map (versionRow evidence)).map (·.labeledCount)).sum =
      evidence.countP (·.expectedAction.isSome) := by
  rw [← countP_versionRow evidence, List.map_map]
  refine congrArg List.sum (List.map_congr_left fun key _ => ?_)
  exact congrArg Nat.cast List.countP_eq_length_filter.symm

/-- The sums of one row add up. -/
structure GuardrailEfficacyMetrics.Balanced (m : GuardrailEfficacyMetrics) : Prop where
  sampled : 0 < m.sampleCount
  decided : m.passThroughCount + m.interventionCount = m.sampleCount
  labeled : m.truePositives + m.falsePositives + m.trueNegatives + m.falseNegatives = m.labeledCount
  labeled_le : m.labeledCount ≤ m.sampleCount
  coverage : m.labelCoverage = nearestDouble (m.labeledCount / m.sampleCount)
  accuracy_iff : m.accuracy = none ↔ m.labeledCount = 0

/-- The version a row is about. -/
def GuardrailEfficacyMetrics.versionKey (m : GuardrailEfficacyMetrics) : String × Option Version :=
  (m.configId, m.configVersion)

/-- The row of some checks is balanced. -/
theorem balanced_efficacyMetrics (h : items ≠ []) : (efficacyMetrics key items).Balanced := by
  have hsum := decided_sum items
  have htp := decided_nonneg false .intervention items
  have hfp := decided_nonneg false .passThrough items
  have htn := decided_nonneg true .passThrough items
  have hfn := decided_nonneg true .intervention items
  have hlabeled : (items.filter (·.expectedAction.isSome)).length ≤ items.length :=
    length_labeled_le
  have hpos : 0 < items.length := List.length_pos_iff.mpr h
  refine ⟨?_, ?_, ?_, ?_, ?_, ?_⟩
  · show (0 : ℤ) < items.length
    omega
  · exact sub_add_cancel _ _
  · simp only [efficacyMetrics, decided_labeled]
    exact hsum
  · show ((items.filter (·.expectedAction.isSome)).length : ℤ) ≤ items.length
    omega
  · have hne : (items.length : ℤ) ≠ 0 := by omega
    simp only [efficacyMetrics, ratio, if_neg hne]
  · simp only [efficacyMetrics, optionalRatio]
    split_ifs with hzero
    · exact iff_of_true rfl hzero
    · exact iff_of_false id hzero

/-- **The report adds up**, for any evidence: the constructors accept it; its rows are of different
    versions, in order, and each is balanced; together they count every check and every label once,
    as the totals do; and the order of the evidence does not matter. -/
theorem efficacy_conserved (now : Timestamp) (artifacts : List StoredGuardrailEvidence)
    (windowStart windowEnd : Timestamp) (configId : Option String) :
    ∃ report, buildGuardrailEfficacyReport now artifacts windowStart windowEnd configId =
        .ok report ∧
      (report.versions.map (·.versionKey)).Pairwise (fun key key' => sortKey key < sortKey key') ∧
      (∀ key, key ∈ report.versions.map (·.versionKey) ↔
        ∃ artifact ∈ artifacts, artifact.evidence.versionKey = key) ∧
      (∀ m ∈ report.versions, m.Balanced) ∧
      (report.versions.map (·.sampleCount)).sum = report.totalChecks ∧
      report.totalChecks = artifacts.length ∧
      (report.versions.map (·.labeledCount)).sum = report.labeledChecks ∧
      report.labeledChecks = (artifacts.countP fun a => a.evidence.expectedAction.isSome : ℕ) ∧
      ∀ artifacts', artifacts.Perm artifacts' →
        buildGuardrailEfficacyReport now artifacts' windowStart windowEnd configId = .ok report := by
  have hkeys : ((sortedKeys (artifacts.map (·.evidence))).map
      (versionRow (artifacts.map (·.evidence)))).map (·.versionKey) =
        sortedKeys (artifacts.map (·.evidence)) := by
    rw [List.map_map]
    exact List.map_id _
  refine ⟨_, versions_eq now artifacts windowStart windowEnd configId, ?_, ?_, ?_, ?_, rfl, rfl,
    ?_, ?_⟩
  · rw [hkeys]
    refine (pairwise_sortedKeys.and nodup_sortedKeys).imp fun h => ?_
    exact lt_of_le_of_ne h.1 (sortKey_injective.ne h.2)
  · intro key
    rw [hkeys, mem_sortedKeys]
    exact ⟨fun h => by simpa using h, fun h => by simpa using h⟩
  · intro m hm
    obtain ⟨key, hkey, rfl⟩ := List.mem_map.mp hm
    obtain ⟨e, he, rfl⟩ := mem_sortedKeys.mp hkey
    exact balanced_efficacyMetrics
      (List.ne_nil_of_mem (List.mem_filter.mpr ⟨he, decide_eq_true rfl⟩))
  · have hsum := countP_versionRow (artifacts.map (·.evidence)) fun _ => true
    simp only [List.countP_true, List.length_map] at hsum
    rw [List.map_map]
    exact hsum
  · rw [labeledCount_sum, List.countP_map]
    rfl
  · intro artifacts' hperm
    have hevidence := hperm.map (·.evidence)
    rw [versions_eq, ← sortedKeys_perm hevidence, ← versionRow_perm hevidence, hperm.length_eq]

/-! ## Windows -/

/-- What a row counts. -/
inductive Count where
  | sample
  | labeled
  | passThrough
  | intervention
  | truePositive
  | falsePositive
  | trueNegative
  | falseNegative

/-- The evidence that counts. -/
def Count.of (c : Count) (e : GuardrailEvidence) : Bool :=
  match c with
  | .sample => true
  | .labeled => e.expectedAction.isSome
  | .passThrough => e.passedThrough
  | .intervention => !e.passedThrough
  | .truePositive => !e.passedThrough && e.expectedAction = some .intervention
  | .falsePositive => !e.passedThrough && e.expectedAction = some .passThrough
  | .trueNegative => e.passedThrough && e.expectedAction = some .passThrough
  | .falseNegative => e.passedThrough && e.expectedAction = some .intervention

/-- The field of the row that has the count. -/
def GuardrailEfficacyMetrics.count (m : GuardrailEfficacyMetrics) : Count → ℤ
  | .sample => m.sampleCount
  | .labeled => m.labeledCount
  | .passThrough => m.passThroughCount
  | .intervention => m.interventionCount
  | .truePositive => m.truePositives
  | .falsePositive => m.falsePositives
  | .trueNegative => m.trueNegatives
  | .falseNegative => m.falseNegatives

/-- What the report says of a version: the counts of its row, or zero without one. -/
def GuardrailEfficacyReport.tally (report : GuardrailEfficacyReport)
    (key : String × Option Version) (c : Count) : ℤ :=
  ((report.versions.filter (·.versionKey = key)).map (·.count c)).sum

/-- The store's `guardrail_efficacy_report`. -/
def storedEfficacyReport {C : Crypto} (read : Json → Except StoreError StoredGuardrailEvidence)
    (columns : EvidenceColumns) (keyring : Option (ArtifactKeyring C)) (t : TenantId)
    (configId : Option String) (windowStart windowEnd : Option Timestamp) (utcNow : Timestamp)
    (db : Database) : Except EvidenceError (Except StoreError GuardrailEfficacyReport) :=
  guardrailEfficacyReport columns read (buildGuardrailEfficacyReport utcNow) keyring t configId
    windowStart windowEnd utcNow db

/-- Every field of a row counts evidence. -/
theorem count_efficacyMetrics (c : Count) :
    (efficacyMetrics key items).count c = items.countP c.of := by
  have hlength : items.length =
      items.countP (!·.passedThrough) + items.countP (·.passedThrough) := by
    have h := List.length_eq_countP_add_countP (fun e : GuardrailEvidence => !e.passedThrough)
      (l := items)
    simpa using h
  cases c with
  | sample =>
    show (items.length : ℤ) = items.countP fun _ => true
    rw [List.countP_true]
  | labeled => exact congrArg Nat.cast List.countP_eq_length_filter.symm
  | passThrough =>
    show (items.length : ℤ) - items.countP (!·.passedThrough) = items.countP (·.passedThrough)
    omega
  | intervention => rfl
  | truePositive =>
    refine (decided_labeled _ _ _).trans (congrArg Nat.cast (List.countP_congr fun e _ => ?_))
    simp [Count.of]
  | falsePositive =>
    refine (decided_labeled _ _ _).trans (congrArg Nat.cast (List.countP_congr fun e _ => ?_))
    simp [Count.of]
  | trueNegative =>
    refine (decided_labeled _ _ _).trans (congrArg Nat.cast (List.countP_congr fun e _ => ?_))
    simp [Count.of]
  | falseNegative =>
    refine (decided_labeled _ _ _).trans (congrArg Nat.cast (List.countP_congr fun e _ => ?_))
    simp [Count.of]

section Totals

variable {now windowStart windowEnd : Timestamp} {artifacts : List StoredGuardrailEvidence}
  {configId : Option String} {report : GuardrailEfficacyReport}

/-- The report counts all checks. -/
theorem totalChecks_eq
    (h : buildGuardrailEfficacyReport now artifacts windowStart windowEnd configId = .ok report) :
    report.totalChecks = artifacts.length := by
  rw [versions_eq] at h
  rw [← Except.ok.inj h]

/-- The report counts all labelled checks. -/
theorem labeledChecks_eq
    (h : buildGuardrailEfficacyReport now artifacts windowStart windowEnd configId = .ok report) :
    report.labeledChecks = (artifacts.map (·.evidence)).countP (·.expectedAction.isSome) := by
  rw [versions_eq] at h
  rw [← Except.ok.inj h]
  exact labeledCount_sum _

/-- A version's tally counts the evidence of the version. -/
theorem tally_eq
    (h : buildGuardrailEfficacyReport now artifacts windowStart windowEnd configId = .ok report)
    (key : String × Option Version) (c : Count) :
    report.tally key c =
      ((artifacts.map (·.evidence)).filter (·.versionKey = key)).countP c.of := by
  rw [versions_eq] at h
  obtain rfl := Except.ok.inj h
  unfold GuardrailEfficacyReport.tally
  rw [List.filter_map, List.map_map]
  have hfilter : (sortedKeys (artifacts.map (·.evidence))).filter
      ((fun m : GuardrailEfficacyMetrics => decide (m.versionKey = key)) ∘
        versionRow (artifacts.map (·.evidence))) =
      List.replicate ((sortedKeys (artifacts.map (·.evidence))).count key) key :=
    List.filter_eq _
  show (((sortedKeys (artifacts.map (·.evidence))).filter _).map _).sum = _
  rw [hfilter, List.map_replicate, List.sum_replicate]
  show _ • (efficacyMetrics key _).count c = _
  rw [count_efficacyMetrics]
  by_cases hkey : key ∈ sortedKeys (artifacts.map (·.evidence))
  · rw [List.count_eq_one_of_mem nodup_sortedKeys hkey, one_nsmul]
  · have hnone : (artifacts.map (·.evidence)).filter (·.versionKey = key) = [] := by
      refine List.filter_eq_nil_iff.mpr fun e he hekey => hkey ?_
      exact mem_sortedKeys.mpr ⟨e, he, of_decide_eq_true hekey⟩
    rw [hnone]
    exact nsmul_zero _

end Totals

/-- A window is cut in two at any time in it. -/
theorem efficacyRows_split {columns : EvidenceColumns} {configId : Option String}
    {start mid stop : Timestamp} (hstart : start ≤ mid) (hstop : mid ≤ stop)
    (rows : List ArtifactRow) :
    (efficacyRows columns configId start mid rows ++
      efficacyRows columns configId mid stop rows).Perm
        (efficacyRows columns configId start stop rows) := by
  unfold efficacyRows
  refine ((List.perm_insertionSort _ _).append (List.perm_insertionSort _ _)).trans ?_
  refine List.Perm.trans ?_ (List.perm_insertionSort _ _).symm
  refine List.Perm.trans ?_ (List.filter_append_perm (columns.createdAt · < mid) _)
  rw [List.filter_filter, List.filter_filter]
  refine List.Perm.of_eq (congrArg₂ _ ?_ ?_)
  · refine List.filter_congr fun r _ => ?_
    grind
  · refine List.filter_congr fun r _ => ?_
    grind

section Stored

variable {C : Crypto} {read : Json → Except StoreError StoredGuardrailEvidence}
  {columns : EvidenceColumns} {keyring : Option (ArtifactKeyring C)} {t : TenantId}
  {configId : Option String} {start mid stop utcNow : Timestamp} {db : Database}

/-- The row verifies. -/
def Verifies (keyring : Option (ArtifactKeyring C)) (row : ArtifactRow) : Prop :=
  verifyArtifact keyring "guardrail_evidence" row.artifactId row.payloadSha256 row.payload
    row.envelope = .ok ()

/-- Row and evidence: the row verifies, and the evidence is read from it. -/
def Counts (read : Json → Except StoreError StoredGuardrailEvidence)
    (keyring : Option (ArtifactKeyring C)) (row : ArtifactRow)
    (artifact : StoredGuardrailEvidence) : Prop :=
  Verifies keyring row ∧ read row.payload = .ok artifact

/-- The loop returns evidence exactly if every row counts. -/
theorem verifiedArtifacts_ok {rows : List ArtifactRow} {artifacts : List StoredGuardrailEvidence} :
    verifiedArtifacts keyring read rows = .ok (.ok artifacts) ↔
      List.Forall₂ (Counts read keyring) rows artifacts := by
  induction rows generalizing artifacts with
  | nil =>
    rw [List.forall₂_nil_left_iff]
    exact ⟨fun h => (Except.ok.inj (Except.ok.inj h)).symm, fun h => h ▸ rfl⟩
  | cons row rows ih =>
    rw [List.forall₂_cons_left_iff]
    constructor
    · intro h
      obtain ⟨_, hverify, h⟩ := bind_ok h
      cases hread : read row.payload with
      | error e =>
        rw [hread] at h
        cases Except.ok.inj h
      | ok artifact =>
        rw [hread] at h
        obtain ⟨rest, hrest, h⟩ := bind_ok h
        obtain ⟨counted, rfl, rfl⟩ := map_ok (Except.ok.inj h)
        exact ⟨artifact, counted, ⟨hverify, hread⟩, ih.mp hrest, rfl⟩
    · rintro ⟨artifact, counted, ⟨hverify, hread⟩, hcounts, rfl⟩
      have hrow : verifyArtifact keyring "guardrail_evidence" row.artifactId row.payloadSha256
          row.payload row.envelope = .ok () := hverify
      rw [verifiedArtifacts, hrow]
      simp only [bind, Except.bind, hread, ih.mpr hcounts]
      rfl

/-- A report is built from the rows of its window, if each of them counts. -/
theorem storedEfficacyReport_ok {report : GuardrailEfficacyReport} :
    storedEfficacyReport read columns keyring t configId (some start) (some stop) utcNow db =
        .ok (.ok report) ↔
      start < stop ∧ stop - start ≤ 366 * 86400000000 ∧
        ∃ artifacts, List.Forall₂ (Counts read keyring)
            (efficacyRows columns configId start stop (db.rowsOf t .guardrailEvidence)) artifacts ∧
          buildGuardrailEfficacyReport utcNow artifacts start stop configId = .ok report := by
  unfold storedEfficacyReport guardrailEfficacyReport
  simp only [Option.getD_some]
  split_ifs with horder hlong
  · exact iff_of_false (fun h => nomatch h) fun h => absurd h.1 (not_lt.mpr horder)
  · exact iff_of_false (fun h => nomatch h) fun h => absurd h.2.1 (not_le.mpr hlong)
  constructor
  · intro h
    obtain ⟨artifacts, hartifacts, h⟩ := bind_ok h
    obtain ⟨counted, rfl, hreport⟩ := bind_ok (Except.ok.inj h)
    exact ⟨lt_of_not_ge horder, le_of_not_gt hlong, counted, verifiedArtifacts_ok.mp hartifacts,
      hreport⟩
  · rintro ⟨-, -, artifacts, hcounts, hreport⟩
    show (Except.bind _ _) = _
    rw [verifiedArtifacts_ok.mpr hcounts]
    exact congrArg Except.ok hreport

/-- **Reports of adjacent windows add up.**  Where the report of a window is returned, cut the window
    at any moment inside it: both halves have a report, and checks, labelled checks and, version by
    version, each of the eight counts are the sums of the two. -/
theorem efficacy_windows {report : GuardrailEfficacyReport} (hstart : start < mid)
    (hstop : mid < stop)
    (h : storedEfficacyReport read columns keyring t configId (some start) (some stop) utcNow db =
      .ok (.ok report)) :
    ∃ early late,
      storedEfficacyReport read columns keyring t configId (some start) (some mid) utcNow db =
        .ok (.ok early) ∧
      storedEfficacyReport read columns keyring t configId (some mid) (some stop) utcNow db =
        .ok (.ok late) ∧
      report.totalChecks = early.totalChecks + late.totalChecks ∧
      report.labeledChecks = early.labeledChecks + late.labeledChecks ∧
      ∀ key c, report.tally key c = early.tally key c + late.tally key c := by
  obtain ⟨horder, hlong, artifacts, hcounts, hreport⟩ := storedEfficacyReport_ok.mp h
  obtain ⟨counted, hcounted, hperm⟩ := List.perm_comp_forall₂
    (efficacyRows_split hstart.le hstop.le (db.rowsOf t .guardrailEvidence)) hcounts
  have hbefore := (List.forall₂_take_append _ _ _ hcounted.flip).flip
  have hafter := (List.forall₂_drop_append _ _ _ hcounted.flip).flip
  generalize (efficacyRows columns configId start mid (db.rowsOf t .guardrailEvidence)).length = n
    at hbefore hafter
  -- the report of the window is the one of the two parts together
  rw [← List.take_append_drop n counted] at hperm
  generalize counted.take n = before, counted.drop n = after at hbefore hafter hperm
  have hevidence := hperm.map (·.evidence)
  rw [List.map_append] at hevidence
  have hearly := versions_eq utcNow before start mid configId
  have hlate := versions_eq utcNow after mid stop configId
  have hearlier := storedEfficacyReport_ok.mpr
    ⟨hstart, hlong.trans' (sub_le_sub_right hstop.le start), before, hbefore, hearly⟩
  have hlater := storedEfficacyReport_ok.mpr
    ⟨hstop, hlong.trans' (sub_le_sub_left hstart.le stop), after, hafter, hlate⟩
  refine ⟨_, _, hearlier, hlater, ?_, ?_, ?_⟩
  · rw [totalChecks_eq hreport, ← hperm.length_eq, List.length_append]
    exact Nat.cast_add _ _
  · rw [labeledChecks_eq hreport, ← hevidence.countP_eq, List.countP_append, Nat.cast_add,
      labeledChecks_eq hearly, labeledChecks_eq hlate]
  · intro key c
    rw [tally_eq hreport, tally_eq hearly, tally_eq hlate,
      ← (hevidence.filter _).countP_eq, List.filter_append, List.countP_append, Nat.cast_add]

end Stored

/-! ## Checks of two versions

Four checks with expected actions, of two versions, two of them in each half of the window. -/

namespace Sample

def version (minor : Bool) : Version :=
  ⟨if minor then "2026.2" else "2026.1", by cases minor <;> decide +kernel⟩

/-- The digest of the bundles, and of all payloads. -/
def checkDigest : HexDigest :=
  ⟨"9c86f26f0f12117ed11dc40311e024723eda00872049ed16b7554f2b64f9a9a7", by decide +kernel⟩

def check (evidenceId : UUID) (seconds : ℤ) (minor passedThrough : Bool)
    (expected : ExpectedGuardrailAction) : StoredGuardrailEvidence where
  evidenceId
  createdAt := seconds * 1000000
  evidence :=
    { configId := "pii"
      model := "nemo"
      submittedText := "hi"
      responseText := if passedThrough then "hello" else "no"
      passedThrough
      expectedAction := some expected
      configVersion := some (version minor)
      configBundleSha256 := some checkDigest
      configActivationId := some 9
      activatedRails := .arr []
      stats := [] }

def checks : List StoredGuardrailEvidence :=
  [check 1 15 false false .intervention, check 2 18 true true .intervention,
    check 3 22 false false .passThrough, check 4 25 true true .passThrough]

/-- The first fields of the dump of a check. -/
def payload (check : StoredGuardrailEvidence) : Json := .obj [
  ("evidence_id", .str check.evidenceId.str),
  ("created_at", .str ("1970-01-01T00:00:" ++ toString (check.createdAt / 1000000) ++ "Z")),
  ("evidence", .obj [
    ("config_id", .str check.evidence.configId),
    ("model", .str check.evidence.model),
    ("submitted_text", .str check.evidence.submittedText),
    ("response_text", .str check.evidence.responseText),
    ("passed_through", .bool check.evidence.passedThrough)])]

/-- `StoredGuardrailEvidence.model_validate` on these dumps. -/
def read (payload : Json) : Except StoreError StoredGuardrailEvidence :=
  match payload with
  | .obj (("evidence_id", .str id) :: _) =>
    match checks.find? fun check => check.evidenceId.str = id with
    | some check => .ok check
    | none => .error (.validationError "evidence_id")
  | _ => .error (.validationError "evidence_id")

def crypto : Crypto where
  recursionLimit := 900
  recursionLimit_ge := sample_recursionLimit
  sha256 _ := checkDigest
  hmacSha256 _ _ := ledgerGenesisSha256
  ed25519PublicKey _ := []
  ed25519Sign _ _ := ""
  ed25519Verify _ _ _ := false

def tenant : TenantId := ⟨"default", isTenantId_default⟩

def row (check : StoredGuardrailEvidence) : ArtifactRow :=
  ⟨tenant, check.evidenceId, payload check, checkDigest.val, .unsigned⟩

def store : Database := ⟨fun _ => checks.map row, [], []⟩

def columns : EvidenceColumns where
  createdAt row := ((checks.find? fun check => check.evidenceId = row.artifactId).map
    (·.createdAt)).getD 0
  configId _ := "pii"

/-- Every row of the store counts. -/
theorem row_counts : ∀ check ∈ checks,
    Counts read (none : Option (ArtifactKeyring crypto)) (row check) check := by
  intro check hcheck
  refine ⟨verifyArtifact_of_digest _ _ _ _ ?_ rfl, ?_⟩
  · rfl
  · simp only [checks, List.mem_cons, List.not_mem_nil, or_false] at hcheck
    rcases hcheck with rfl | rfl | rfl | rfl <;> rfl

end Sample

/-- The two halves together: four labelled checks; the older version had one true and one false
    positive, one in each half. -/
theorem efficacy_windows_checks :
    ∃ early late,
      storedEfficacyReport Sample.read Sample.columns
        (none : Option (ArtifactKeyring Sample.crypto)) Sample.tenant none (some 10000000)
        (some 20000000) 0 Sample.store = .ok (.ok early) ∧
      storedEfficacyReport Sample.read Sample.columns
        (none : Option (ArtifactKeyring Sample.crypto)) Sample.tenant none (some 20000000)
        (some 30000000) 0 Sample.store = .ok (.ok late) ∧
      early.totalChecks + late.totalChecks = 4 ∧ early.labeledChecks + late.labeledChecks = 4 ∧
      early.tally ("pii", some (Sample.version false)) .truePositive +
        late.tally ("pii", some (Sample.version false)) .truePositive = 1 ∧
      early.tally ("pii", some (Sample.version false)) .falsePositive +
        late.tally ("pii", some (Sample.version false)) .falsePositive = 1 := by
  have hrows : efficacyRows Sample.columns none 10000000 30000000
      (Sample.store.rowsOf Sample.tenant .guardrailEvidence) = Sample.checks.map Sample.row := rfl
  have hcounts : List.Forall₂ (Counts Sample.read (none : Option (ArtifactKeyring Sample.crypto)))
      (efficacyRows Sample.columns none 10000000 30000000
        (Sample.store.rowsOf Sample.tenant .guardrailEvidence)) Sample.checks := by
    rw [hrows, List.forall₂_map_left_iff, List.forall₂_same]
    exact Sample.row_counts
  have hstart : (10000000 : Timestamp) < 20000000 := by decide
  have hstop : (20000000 : Timestamp) < 30000000 := by decide
  have hbuilt := versions_eq 0 Sample.checks 10000000 30000000 none
  obtain ⟨early, late, hearly, hlate, htotal, hlabeled, htally⟩ := efficacy_windows hstart hstop
    (storedEfficacyReport_ok.mpr ⟨hstart.trans hstop, by decide, Sample.checks, hcounts, hbuilt⟩)
  refine ⟨early, late, hearly, hlate, htotal.symm, ?_, ?_, ?_⟩
  · rw [← hlabeled, labeledChecks_eq hbuilt]
    decide +kernel
  · rw [← htally, tally_eq hbuilt]
    decide +kernel
  · rw [← htally, tally_eq hbuilt]
    decide +kernel

end AEControl.Guardrails
