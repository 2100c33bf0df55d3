/-
  The quality gate (`gate.py`): a policy maps metric names, and metric names within a slice, to
  rules; the gate looks some of them up in a comparison and reports findings, and the decision is
  the worst outcome found.

  The gate reads two run-level thresholds, the drop of `hidden_test_success` and the increase of
  `forbidden_modification_rate`, and one per slice.  Every other threshold of a policy and the
  `required` flag are accepted and never read, so the policy is enforced exactly where what it says
  there is already decided by what the gate does read (`gateEnforces_iff`).

  `evaluateGate_mono` is the other direction of trust: on the comparisons of `compare_runs`, passing
  fewer hidden tests never gives a better outcome.

  Structure of the proofs:
  1. the outcomes are a linear order by severity, and the decision is the supremum of the findings
     (`le_worstOutcome`, `le_worstOutcome_iff`);
  2. monotonicity: `Covered` compares two lists of findings, and each part of the gate's findings is
     covered when its deltas get worse (`dropFindings_covered`, `ruleFindings_covered`), while what
     is found about missing pairs does not change (`pairedFindings_eq`);
  3. enforcement: `mem_ruleFindings` says which outcomes the rules that are read find, part by part
     (`mem_forbiddenFindings`, `mem_sliceFindings`), and `ruleViolated_iff` which rules of the whole
     policy are violated;
  4. `gateEnforces_iff` compares the two, outcome by outcome.
-/
import Mathlib.Order.Basic
import AEControl.Lib.Dict
import AEControl.Evaluation.Compare

namespace AEControl.Evaluation

/-! ## Outcomes -/

/-- `GateOutcome`. -/
inductive GateOutcome where
  | pass
  | warn
  | inconclusive
  | block
  deriving DecidableEq

namespace GateOutcome

/-- PASS < WARN < INCONCLUSIVE < BLOCK. -/
def severity : GateOutcome → Nat
  | pass => 0
  | warn => 1
  | inconclusive => 2
  | block => 3

/-- Outcomes are told apart by their severity. -/
theorem severity_injective : Function.Injective severity := by
  intro a b h
  cases a <;> cases b <;> first | rfl | cases h

instance : LinearOrder GateOutcome := LinearOrder.lift' severity severity_injective

/-- Outcomes are ordered by their severity. -/
theorem le_iff {a b : GateOutcome} : a ≤ b ↔ a.severity ≤ b.severity := Iff.rfl

end GateOutcome

/-! ## Policies and decisions -/

/-- `MetricRule.severity`. -/
inductive RuleSeverity where
  | blocking
  | warning
  deriving DecidableEq

/-- `MetricRule`. -/
structure MetricRule where
  required : Bool := false
  maximumAbsoluteDrop : Option Float64 := none
  maximumAbsoluteIncrease : Option Float64 := none
  severity : RuleSeverity := .blocking

/-- `QualityGatePolicy`, without its name and schema version. -/
structure QualityGatePolicy where
  defaults : Dict String Int := .empty
  metrics : Dict String MetricRule := .empty
  slices : Dict String (Dict String MetricRule) := .empty

/-- `GateFinding`. -/
structure GateFinding where
  scope : String
  metric : String
  outcome : GateOutcome
  observedDelta : Option Float64
  threshold : Option Float64
  message : String

/-- `QualityGateDecision`. -/
structure QualityGateDecision where
  outcome : GateOutcome
  findings : List GateFinding
  regressedCases : List String

/-! ## Findings -/

/-- `BLOCK if rule.severity == "blocking" else WARN`. -/
def MetricRule.outcome (rule : MetricRule) : GateOutcome :=
  if rule.severity = .blocking then .block else .warn

/-- `policy.defaults.get("minimum_paired_cases", 0)`. -/
def QualityGatePolicy.minimumPairedCases (policy : QualityGatePolicy) : Int :=
  (policy.defaults.get "minimum_paired_cases").getD 0

/-- The check of the paired cases; `float(minimum)` can raise `OverflowError`. -/
def pairedFindings (comparison : RunComparison) (policy : QualityGatePolicy) :
    Except String (List GateFinding) :=
  if comparison.pairedCases < policy.minimumPairedCases then do
    let threshold ← Float64.ofInt policy.minimumPairedCases
    .ok [⟨"run", "paired_cases", .inconclusive, none, some threshold,
      "only " ++ toString comparison.pairedCases ++ " paired cases"⟩]
  else .ok []

/-- The check of a `hidden_test_success` rule's drop, for the run and for a slice. -/
def dropFindings (scope message : String) (rule : Option MetricRule) (observed : Float64) :
    List GateFinding :=
  match rule with
  | none => []
  | some rule =>
    match rule.maximumAbsoluteDrop with
    | none => []
    | some drop =>
      if observed.pyLt drop.neg then
        [⟨scope, "hidden_test_success", rule.outcome, some observed, some drop.neg, message⟩]
      else []

/-- The check of the run's `hidden_test_success` rule. -/
def hiddenFindings (comparison : RunComparison) (policy : QualityGatePolicy) : List GateFinding :=
  dropFindings "run" "aggregate hidden-test success dropped beyond threshold"
    (policy.metrics.get "hidden_test_success") comparison.aggregatePassRateDelta

/-- The check of the run's `forbidden_modification_rate` rule. -/
def forbiddenFindings (comparison : RunComparison) (policy : QualityGatePolicy) :
    List GateFinding :=
  match policy.metrics.get "forbidden_modification_rate" with
  | none => []
  | some rule =>
    match rule.maximumAbsoluteIncrease with
    | none => []
    | some increase =>
      match comparison.metricDeltas.get "forbidden_modification_rate" with
      | none =>
        [⟨"run", "forbidden_modification_rate", .inconclusive, none, some increase,
          "required forbidden modification metric is missing"⟩]
      | some observed =>
        if increase.pyLt observed then
          [⟨"run", "forbidden_modification_rate", rule.outcome, some observed, some increase,
            "forbidden modification rate increased beyond threshold"⟩]
        else []

/-- `next((row for row in comparison.slice_comparisons if row.slice == slice_name), None)`. -/
def RunComparison.sliceRow (comparison : RunComparison) (name : String) : Option SliceComparison :=
  comparison.sliceComparisons.find? (·.slice = name)

/-- The body of the loop over `policy.slices`. -/
def sliceFindings (comparison : RunComparison) (slice : String × Dict String MetricRule) :
    List GateFinding :=
  match comparison.sliceRow slice.1 with
  | none =>
    [⟨"slice:" ++ slice.1, "hidden_test_success", .inconclusive, none, none,
      "required slice missing from comparison"⟩]
  | some row =>
    dropFindings ("slice:" ++ slice.1)
      (slice.1 ++ " hidden-test success dropped beyond threshold")
      (slice.2.get "hidden_test_success") row.passRateDelta

/-- What the run-level and slice rules find. -/
def ruleFindings (comparison : RunComparison) (policy : QualityGatePolicy) : List GateFinding :=
  hiddenFindings comparison policy ++ forbiddenFindings comparison policy ++
    policy.slices.items.flatMap (sliceFindings comparison)

/-- The four branches at the end of `evaluate_gate`. -/
def worstOutcome (findings : List GateFinding) : GateOutcome :=
  if findings.any (·.outcome = .block) then .block
  else if findings.any (·.outcome = .inconclusive) then .inconclusive
  else if findings.any (·.outcome = .warn) then .warn
  else .pass

/-- `evaluate_gate`. -/
def evaluateGate (comparison : RunComparison) (policy : QualityGatePolicy) :
    Except String QualityGateDecision := do
  let paired ← pairedFindings comparison policy
  let findings := paired ++ ruleFindings comparison policy
  .ok ⟨worstOutcome findings, findings, comparison.regressedCases⟩

/-! ## The worst outcome -/

/-- No finding is worse than the outcome of the gate. -/
theorem le_worstOutcome {findings : List GateFinding} {f : GateFinding} (hf : f ∈ findings) :
    f.outcome ≤ worstOutcome findings := by
  have hany : ∀ o, f.outcome = o → findings.any (·.outcome = o) = true :=
    fun o ho => List.any_eq_true.mpr ⟨f, hf, decide_eq_true ho⟩
  unfold worstOutcome
  rw [GateOutcome.le_iff]
  cases ho : f.outcome with
  | pass => exact Nat.zero_le _
  | warn =>
    rw [if_pos (hany _ ho)]
    split
    · decide
    · split <;> decide
  | inconclusive =>
    rw [if_pos (hany _ ho)]
    split <;> decide
  | block =>
    rw [if_pos (hany _ ho)]

/-- The decision is PASS or the outcome of one of its findings. -/
theorem worstOutcome_mem (findings : List GateFinding) :
    worstOutcome findings = .pass ∨ ∃ f ∈ findings, f.outcome = worstOutcome findings := by
  have hmem : ∀ o, findings.any (·.outcome = o) = true → ∃ f ∈ findings, f.outcome = o := by
    intro o ho
    obtain ⟨f, hf, hfo⟩ := List.any_eq_true.mp ho
    exact ⟨f, hf, of_decide_eq_true hfo⟩
  unfold worstOutcome
  split
  · rename_i h
    exact Or.inr (hmem _ h)
  · split
    · rename_i h
      exact Or.inr (hmem _ h)
    · split
      · rename_i h
        exact Or.inr (hmem _ h)
      · exact Or.inl rfl

/-- Every finding of `first` has one in `second` that is at least as severe. -/
def Covered (first second : List GateFinding) : Prop :=
  ∀ f ∈ first, ∃ g ∈ second, f.outcome ≤ g.outcome

/-- Findings cover themselves. -/
theorem Covered.refl (findings : List GateFinding) : Covered findings findings :=
  fun f hf => ⟨f, hf, le_refl _⟩

/-- Everything covers no findings. -/
theorem Covered.nil (findings : List GateFinding) : Covered [] findings :=
  fun _ hf => absurd hf List.not_mem_nil

/-- Covering goes list by list. -/
theorem Covered.append {first second first' second' : List GateFinding} (h : Covered first second)
    (h' : Covered first' second') : Covered (first ++ first') (second ++ second') := by
  intro f hf
  rcases List.mem_append.mp hf with hf | hf
  · obtain ⟨g, hg, hfg⟩ := h f hf
    exact ⟨g, List.mem_append_left _ hg, hfg⟩
  · obtain ⟨g, hg, hfg⟩ := h' f hf
    exact ⟨g, List.mem_append_right _ hg, hfg⟩

/-- Covering goes element by element where findings are gathered over a list. -/
theorem Covered.flatMap {α : Type} {xs : List α} {F G : α → List GateFinding}
    (h : ∀ x, Covered (F x) (G x)) : Covered (xs.flatMap F) (xs.flatMap G) := by
  intro f hf
  obtain ⟨x, hx, hfx⟩ := List.mem_flatMap.mp hf
  obtain ⟨g, hg, hfg⟩ := h x f hfx
  exact ⟨g, List.mem_flatMap.mpr ⟨x, hx, hg⟩, hfg⟩

/-- What covers the findings has no better outcome. -/
theorem Covered.worstOutcome_le {first second : List GateFinding} (h : Covered first second) :
    worstOutcome first ≤ worstOutcome second := by
  rcases worstOutcome_mem first with hpass | ⟨f, hf, hfo⟩
  · rw [hpass]
    exact Nat.zero_le _
  · obtain ⟨g, hg, hfg⟩ := h f hf
    rw [← hfo]
    exact le_trans hfg (le_worstOutcome hg)

/-! ## Monotonicity -/

/-- A larger drop has the findings of a smaller one, or worse. -/
theorem dropFindings_covered (scope message : String) (rule : Option MetricRule) {x y : Float64}
    (hyx : RateLe y x) :
    Covered (dropFindings scope message rule x) (dropFindings scope message rule y) := by
  obtain ⟨q, p, rfl, rfl, hqp⟩ := hyx
  unfold dropFindings
  cases rule with
  | none => exact Covered.nil _
  | some rule =>
    cases hdrop : rule.maximumAbsoluteDrop with
    | none =>
      simp only [hdrop]
      exact Covered.nil _
    | some drop =>
      simp only [hdrop]
      by_cases hx : (Float64.finite p).pyLt drop.neg = true
      · -- beyond the threshold before, so still beyond it
        rw [if_pos hx, if_pos (Float64.pyLt_of_le hqp hx)]
        intro f hf
        rw [List.mem_singleton.mp hf]
        exact ⟨_, List.mem_singleton_self _, le_refl _⟩
      · rw [if_neg hx]
        exact Covered.nil _

/-- A slice is missing in both comparisons, or its rate has dropped no less in the worse one. -/
theorem sliceRow_rel {first second : RunComparison} (h : ComparisonWorse first second)
    (name : String) : Option.Rel (fun r s => RateLe s.passRateDelta r.passRateDelta)
      (first.sliceRow name) (second.sliceRow name) := by
  unfold RunComparison.sliceRow
  have hslices := h.slices
  generalize first.sliceComparisons = rows at hslices
  generalize second.sliceComparisons = rows' at hslices
  induction hslices with
  | nil => exact Option.Rel.none
  | @cons r s rows rows' hrs _ ih =>
    by_cases hname : r.slice = name
    · rw [List.find?_cons_of_pos (by simpa using hname),
        List.find?_cons_of_pos (by simpa using hrs.1.trans hname)]
      exact Option.Rel.some hrs.2
    · have hname' : s.slice ≠ name := fun he => hname (hrs.1.symm.trans he)
      rw [List.find?_cons_of_neg (by simpa using hname),
        List.find?_cons_of_neg (by simpa using hname')]
      exact ih

/-- The findings of a slice are covered by those of the comparison that drops it further. -/
theorem sliceFindings_covered {first second : RunComparison} (h : ComparisonWorse first second)
    (slice : String × Dict String MetricRule) :
    Covered (sliceFindings first slice) (sliceFindings second slice) := by
  have hrow := sliceRow_rel h slice.1
  unfold sliceFindings
  generalize first.sliceRow slice.1 = r at hrow
  generalize second.sliceRow slice.1 = s at hrow
  cases hrow with
  | none => exact Covered.refl _
  | some hrs => exact dropFindings_covered _ _ _ hrs

/-- What the rules find is covered: the findings of the two metrics and of the slices are all there
    is. -/
theorem ruleFindings_covered {first second : RunComparison} (h : ComparisonWorse first second)
    (policy : QualityGatePolicy) :
    Covered (ruleFindings first policy) (ruleFindings second policy) := by
  refine Covered.append (Covered.append ?_ ?_) (Covered.flatMap (sliceFindings_covered h))
  · exact dropFindings_covered _ _ _ h.aggregate
  · unfold forbiddenFindings
    rw [h.forbidden]
    exact Covered.refl _

/-- What is found about missing pairs does not depend on the rates. -/
theorem pairedFindings_eq {first second : RunComparison} (h : ComparisonWorse first second)
    (policy : QualityGatePolicy) :
    pairedFindings second policy = pairedFindings first policy := by
  unfold pairedFindings
  rw [h.paired]

/-- A comparison that is worse in every rate the gate reads is decided at least as severely, and
    raises exactly where the other one raises. -/
theorem evaluateGate_worse {first second : RunComparison} (h : ComparisonWorse first second)
    (policy : QualityGatePolicy) :
    (∃ error, evaluateGate first policy = .error error ∧
      evaluateGate second policy = .error error) ∨
    ∃ d d', evaluateGate first policy = .ok d ∧ evaluateGate second policy = .ok d' ∧
      d.outcome ≤ d'.outcome := by
  unfold evaluateGate
  rw [pairedFindings_eq h]
  cases pairedFindings first policy with
  | error e => exact Or.inl ⟨e, rfl, rfl⟩
  | ok paired =>
    have hcovered := Covered.append (Covered.refl paired) (ruleFindings_covered h policy)
    exact Or.inr ⟨_, _, rfl, rfl, hcovered.worstOutcome_le⟩

/-- End to end: whichever cases the second candidate fails in addition, the decision on it is at
    least as severe.  Where the policy's minimum overflows a float, both calls raise. -/
theorem evaluateGate_mono (resample : Nat → List Int → List Int)
    (baseline first second : EvaluationRun) (policy : QualityGatePolicy)
    (h : RunRegressed first second) :
    (∃ error, evaluateGate (compareRuns resample baseline first) policy = .error error ∧
      evaluateGate (compareRuns resample baseline second) policy = .error error) ∨
    ∃ d d', evaluateGate (compareRuns resample baseline first) policy = .ok d ∧
      evaluateGate (compareRuns resample baseline second) policy = .ok d' ∧
      d.outcome ≤ d'.outcome :=
  evaluateGate_worse (compareRuns_worse resample baseline h) policy

/-- A case whose hidden tests did or did not pass. -/
def sampleResult (passed : Bool) : CaseResult where
  case := { caseId := "SEC-01", slice := "security_sensitive", bugKind := "divide" }
  agentVersion := "candidate"
  status := .passed
  output := ⟨[], "", [], "ok", "", .finite 1, .passed, none⟩
  evaluatorResults := [verdict "hidden_test_success" passed]

/-- A run over that one case. -/
def sampleRun (passed : Bool) : EvaluationRun := ⟨0, "candidate", [sampleResult passed]⟩

/-- A policy that bounds the drop of the hidden tests. -/
def samplePolicy : QualityGatePolicy :=
  { metrics := .ofPairs [("hidden_test_success", { maximumAbsoluteDrop := some (.finite 0) })] }

/-- The worked runs: with the second one failing its case, the gate passes no sooner. -/
theorem evaluateGate_mono_sample :
    (∃ error, evaluateGate (compareRuns (fun _ ds => ds) (sampleRun true) (sampleRun true))
        samplePolicy = .error error ∧
      evaluateGate (compareRuns (fun _ ds => ds) (sampleRun true) (sampleRun false))
        samplePolicy = .error error) ∨
    ∃ d d', evaluateGate (compareRuns (fun _ ds => ds) (sampleRun true) (sampleRun true))
        samplePolicy = .ok d ∧
      evaluateGate (compareRuns (fun _ ds => ds) (sampleRun true) (sampleRun false))
        samplePolicy = .ok d' ∧
      d.outcome ≤ d'.outcome := by
  refine evaluateGate_mono _ _ _ _ _ (List.Forall₂.cons ⟨rfl, ?_, fun _ => ?_⟩ List.Forall₂.nil)
  · simp [CaseResult.otherResults, sampleResult, verdict]
  · simp [CaseResult.hiddenSuccess, sampleResult, verdict]

/-! ## What a policy asks for -/

/-- The thresholds of a rule. -/
inductive Direction where
  | drop
  | increase
  deriving DecidableEq

/-- The rule's threshold in this direction is set and the delta is beyond it. -/
def MetricRule.exceeded (rule : MetricRule) (direction : Direction) (delta : Float64) : Bool :=
  match direction with
  | .drop => rule.maximumAbsoluteDrop.any fun drop => delta.pyLt drop.neg
  | .increase => rule.maximumAbsoluteIncrease.any fun increase => increase.pyLt delta

/-- The rule is violated by the delta. -/
def MetricRule.violated (rule : MetricRule) (delta : Float64) : Bool :=
  rule.exceeded .drop delta || rule.exceeded .increase delta

/-- The comparison's delta for a metric. -/
def RunComparison.delta (comparison : RunComparison) (metric : String) : Option Float64 :=
  if metric = "hidden_test_success" then some comparison.aggregatePassRateDelta
  else comparison.metricDeltas.get metric

/-- A rule of this severity is violated, for the run or for the hidden tests of a slice. -/
def RuleViolated (comparison : RunComparison) (policy : QualityGatePolicy)
    (severity : RuleSeverity) : Prop :=
  (∃ metric rule delta, policy.metrics.get metric = some rule ∧ rule.severity = severity ∧
    comparison.delta metric = some delta ∧ rule.violated delta = true) ∨
  ∃ slice ∈ policy.slices.items, ∃ rule row,
    slice.2.get "hidden_test_success" = some rule ∧ rule.severity = severity ∧
    comparison.sliceRow slice.1 = some row ∧ rule.violated row.passRateDelta = true

/-- A required metric has no delta, or a slice of the policy no row. -/
def EvidenceMissing (comparison : RunComparison) (policy : QualityGatePolicy) : Prop :=
  (∃ metric rule, policy.metrics.get metric = some rule ∧ rule.required = true ∧
    comparison.metricDeltas.get metric = none) ∨
  ∃ slice ∈ policy.slices.items, comparison.sliceRow slice.1 = none

/-- The outcome of `evaluate_gate`. -/
def gateOutcome (comparison : RunComparison) (policy : QualityGatePolicy) :
    Except String GateOutcome := (evaluateGate comparison policy).map (·.outcome)

/-- The gate enforces the policy on this comparison. -/
structure GateEnforces (comparison : RunComparison) (policy : QualityGatePolicy) : Prop where
  blocking : RuleViolated comparison policy .blocking →
    gateOutcome comparison policy = .ok .block
  warning : RuleViolated comparison policy .warning →
    ∃ outcome, gateOutcome comparison policy = .ok outcome ∧ outcome ≠ .pass
  missing : EvidenceMissing comparison policy →
    ∃ outcome, gateOutcome comparison policy = .ok outcome ∧ outcome ≠ .pass ∧ outcome ≠ .warn

/-! ## What the gate reads of it -/

/-- The run-level thresholds `evaluate_gate` looks up. -/
def runReads (metric : String) : Direction → Bool
  | .drop => metric = "hidden_test_success"
  | .increase => metric = "forbidden_modification_rate"

/-- The threshold of a slice's hidden-test rule it looks up. -/
def sliceReads : Direction → Bool
  | .drop => true
  | .increase => false

/-- A threshold under a rule of this severity is exceeded, one the gate reads or one it does not. -/
def Exceeded (comparison : RunComparison) (policy : QualityGatePolicy) (severity : RuleSeverity)
    (read : Bool) : Prop :=
  (∃ metric rule delta direction, policy.metrics.get metric = some rule ∧
    rule.severity = severity ∧ comparison.delta metric = some delta ∧
    rule.exceeded direction delta = true ∧ runReads metric direction = read) ∨
  ∃ slice ∈ policy.slices.items, ∃ rule row direction,
    slice.2.get "hidden_test_success" = some rule ∧ rule.severity = severity ∧
    comparison.sliceRow slice.1 = some row ∧ rule.exceeded direction row.passRateDelta = true ∧
    sliceReads direction = read

/-- What makes the gate inconclusive: too few pairs, no forbidden-file delta for a rule that bounds
    its increase, or a missing slice. -/
def TooLittleEvidence (comparison : RunComparison) (policy : QualityGatePolicy) : Prop :=
  comparison.pairedCases < policy.minimumPairedCases ∨
  (∃ rule increase, policy.metrics.get "forbidden_modification_rate" = some rule ∧
    rule.maximumAbsoluteIncrease = some increase ∧
    comparison.metricDeltas.get "forbidden_modification_rate" = none) ∨
  ∃ slice ∈ policy.slices.items, comparison.sliceRow slice.1 = none

/-- What the gate does not read of a policy is masked by what it does read. -/
structure UnreadRulesMasked (comparison : RunComparison) (policy : QualityGatePolicy) : Prop where
  /-- An unread blocking threshold is exceeded only along with a read one. -/
  blocking : Exceeded comparison policy .blocking false → Exceeded comparison policy .blocking true
  /-- An unread warning threshold is exceeded only along with a read one or missing evidence. -/
  warning : Exceeded comparison policy .warning false →
    (∃ severity, Exceeded comparison policy severity true) ∨ TooLittleEvidence comparison policy
  /-- A required metric is missing only along with a read blocking threshold or other evidence. -/
  required : (∃ metric rule, policy.metrics.get metric = some rule ∧ rule.required = true ∧
      comparison.metricDeltas.get metric = none) →
    Exceeded comparison policy .blocking true ∨ TooLittleEvidence comparison policy
  /-- Where the policy asks for anything, a minimum above the pair count converts to a float. -/
  minimum : (∃ severity, RuleViolated comparison policy severity) ∨
      EvidenceMissing comparison policy →
    comparison.pairedCases < policy.minimumPairedCases →
    Float64.fitsDouble policy.minimumPairedCases = true

/-! ## Findings of the rules the gate reads -/

/-- The outcome of a violated rule of this severity. -/
def RuleSeverity.outcome : RuleSeverity → GateOutcome
  | .blocking => .block
  | .warning => .warn

/-- A rule never finds inconclusively. -/
theorem RuleSeverity.outcome_ne_inconclusive (severity : RuleSeverity) :
    severity.outcome ≠ .inconclusive := by
  cases severity <;> decide

/-- The outcome of a metric rule says its severity. -/
theorem MetricRule.outcome_eq {rule : MetricRule} {severity : RuleSeverity} :
    rule.outcome = severity.outcome ↔ rule.severity = severity := by
  unfold MetricRule.outcome
  cases rule.severity <;> cases severity <;> decide

/-- The outcome of a metric rule is a warning or a block. -/
theorem MetricRule.outcome_ne_inconclusive (rule : MetricRule) : rule.outcome ≠ .inconclusive := by
  rw [MetricRule.outcome_eq.mpr rfl]
  exact rule.severity.outcome_ne_inconclusive

/-- The drop check reports the rule's outcome exactly when the drop is exceeded. -/
theorem mem_dropFindings {scope message : String} {rule : Option MetricRule} {observed : Float64}
    {o : GateOutcome} :
    (∃ f ∈ dropFindings scope message rule observed, f.outcome = o) ↔
      ∃ r, rule = some r ∧ r.exceeded .drop observed = true ∧ r.outcome = o := by
  unfold dropFindings
  cases rule with
  | none => simp
  | some r =>
    cases hdrop : r.maximumAbsoluteDrop with
    | none => simp [hdrop, MetricRule.exceeded]
    | some drop =>
      by_cases hx : observed.pyLt drop.neg = true
      · simp [hdrop, hx, MetricRule.exceeded]
      · simp [hdrop, hx, MetricRule.exceeded]

/-- The rule for forbidden modifications finds an increase beyond its bound, or that the metric is
    missing. -/
theorem mem_forbiddenFindings {comparison : RunComparison} {policy : QualityGatePolicy}
    {o : GateOutcome} :
    (∃ f ∈ forbiddenFindings comparison policy, f.outcome = o) ↔
      (∃ r delta, policy.metrics.get "forbidden_modification_rate" = some r ∧
        comparison.metricDeltas.get "forbidden_modification_rate" = some delta ∧
        r.exceeded .increase delta = true ∧ r.outcome = o) ∨
      (o = .inconclusive ∧ ∃ r increase,
        policy.metrics.get "forbidden_modification_rate" = some r ∧
        r.maximumAbsoluteIncrease = some increase ∧
        comparison.metricDeltas.get "forbidden_modification_rate" = none) := by
  unfold forbiddenFindings
  cases policy.metrics.get "forbidden_modification_rate" with
  | none => simp
  | some r =>
    cases hincrease : r.maximumAbsoluteIncrease with
    | none => simp [hincrease, MetricRule.exceeded]
    | some increase =>
      cases comparison.metricDeltas.get "forbidden_modification_rate" with
      | none => simp [hincrease, @eq_comm _ GateOutcome.inconclusive]
      | some delta =>
        by_cases hx : increase.pyLt delta = true
        · simp [hincrease, hx, MetricRule.exceeded]
        · simp [hincrease, hx, MetricRule.exceeded]

/-- A slice's rule finds a drop beyond its bound, or that the slice is missing. -/
theorem mem_sliceFindings {comparison : RunComparison} {slice : String × Dict String MetricRule}
    {o : GateOutcome} :
    (∃ f ∈ sliceFindings comparison slice, f.outcome = o) ↔
      (∃ r row, slice.2.get "hidden_test_success" = some r ∧
        comparison.sliceRow slice.1 = some row ∧
        r.exceeded .drop row.passRateDelta = true ∧ r.outcome = o) ∨
      (o = .inconclusive ∧ comparison.sliceRow slice.1 = none) := by
  unfold sliceFindings
  cases comparison.sliceRow slice.1 with
  | none => simp [@eq_comm _ GateOutcome.inconclusive]
  | some row => simp [mem_dropFindings]

/-- The findings of the rules are those of the two metrics and of every slice. -/
theorem mem_ruleFindings {comparison : RunComparison} {policy : QualityGatePolicy}
    {o : GateOutcome} :
    (∃ f ∈ ruleFindings comparison policy, f.outcome = o) ↔
      (∃ f ∈ hiddenFindings comparison policy, f.outcome = o) ∨
      (∃ f ∈ forbiddenFindings comparison policy, f.outcome = o) ∨
      ∃ slice ∈ policy.slices.items, ∃ f ∈ sliceFindings comparison slice, f.outcome = o := by
  unfold ruleFindings
  constructor
  · rintro ⟨f, hf, hfo⟩
    rcases List.mem_append.mp hf with hf | hf
    · rcases List.mem_append.mp hf with hf | hf
      · exact Or.inl ⟨f, hf, hfo⟩
      · exact Or.inr (Or.inl ⟨f, hf, hfo⟩)
    · obtain ⟨slice, hslice, hf⟩ := List.mem_flatMap.mp hf
      exact Or.inr (Or.inr ⟨slice, hslice, f, hf, hfo⟩)
  · rintro (⟨f, hf, hfo⟩ | ⟨f, hf, hfo⟩ | ⟨slice, hslice, f, hf, hfo⟩)
    · exact ⟨f, List.mem_append_left _ (List.mem_append_left _ hf), hfo⟩
    · exact ⟨f, List.mem_append_left _ (List.mem_append_right _ hf), hfo⟩
    · exact ⟨f, List.mem_append_right _ (List.mem_flatMap.mpr ⟨slice, hslice, hf⟩), hfo⟩

/-- A read threshold is exceeded under a rule of some severity exactly when that severity's outcome
    is among the findings. -/
theorem exceeded_iff {comparison : RunComparison} {policy : QualityGatePolicy}
    {severity : RuleSeverity} :
    Exceeded comparison policy severity true ↔
      ∃ f ∈ ruleFindings comparison policy, f.outcome = severity.outcome := by
  rw [mem_ruleFindings]
  unfold hiddenFindings
  rw [mem_dropFindings, mem_forbiddenFindings]
  constructor
  · rintro (⟨metric, rule, delta, direction, hrule, hsev, hdelta, hx, hread⟩ |
      ⟨slice, hslice, rule, row, direction, hrule, hsev, hrow, hx, hread⟩)
    · have hout : rule.outcome = severity.outcome := MetricRule.outcome_eq.mpr hsev
      cases direction with
      | drop =>
        obtain rfl : metric = "hidden_test_success" := of_decide_eq_true hread
        obtain rfl : comparison.aggregatePassRateDelta = delta := Option.some.inj hdelta
        exact Or.inl ⟨rule, hrule, hx, hout⟩
      | increase =>
        obtain rfl : metric = "forbidden_modification_rate" := of_decide_eq_true hread
        exact Or.inr (Or.inl (Or.inl ⟨rule, delta, hrule, hdelta, hx, hout⟩))
    -- an increase in a slice is never read
    · cases direction with
      | drop =>
        exact Or.inr (Or.inr ⟨slice, hslice, mem_sliceFindings.mpr
          (Or.inl ⟨rule, row, hrule, hrow, hx, MetricRule.outcome_eq.mpr hsev⟩)⟩)
      | increase => cases hread
  · rintro (⟨rule, hrule, hx, hout⟩ | (⟨rule, delta, hrule, hdelta, hx, hout⟩ | ⟨hout, -⟩) |
      ⟨slice, hslice, hfound⟩)
    · exact Or.inl ⟨_, rule, _, .drop, hrule, MetricRule.outcome_eq.mp hout, rfl, hx, rfl⟩
    · exact Or.inl ⟨_, rule, delta, .increase, hrule, MetricRule.outcome_eq.mp hout, hdelta, hx,
        rfl⟩
    · exact absurd hout severity.outcome_ne_inconclusive
    · rcases mem_sliceFindings.mp hfound with ⟨rule, row, hrule, hrow, hx, hout⟩ | ⟨hout, -⟩
      · exact Or.inr ⟨slice, hslice, rule, row, .drop, hrule, MetricRule.outcome_eq.mp hout, hrow,
          hx, rfl⟩
      · exact absurd hout severity.outcome_ne_inconclusive

/-- The rules' inconclusive findings. -/
theorem inconclusive_iff {comparison : RunComparison} {policy : QualityGatePolicy} :
    (∃ f ∈ ruleFindings comparison policy, f.outcome = .inconclusive) ↔
      (∃ rule increase, policy.metrics.get "forbidden_modification_rate" = some rule ∧
        rule.maximumAbsoluteIncrease = some increase ∧
        comparison.metricDeltas.get "forbidden_modification_rate" = none) ∨
      ∃ slice ∈ policy.slices.items, comparison.sliceRow slice.1 = none := by
  rw [mem_ruleFindings]
  unfold hiddenFindings
  rw [mem_dropFindings, mem_forbiddenFindings]
  constructor
  · rintro (⟨rule, -, -, hout⟩ | (⟨rule, -, -, -, -, hout⟩ | ⟨-, hmissing⟩) |
      ⟨slice, hslice, hfound⟩)
    · exact absurd hout rule.outcome_ne_inconclusive
    · exact absurd hout rule.outcome_ne_inconclusive
    · exact Or.inl hmissing
    · rcases mem_sliceFindings.mp hfound with ⟨rule, -, -, -, -, hout⟩ | ⟨-, hrow⟩
      · exact absurd hout rule.outcome_ne_inconclusive
      · exact Or.inr ⟨slice, hslice, hrow⟩
  · rintro (hmissing | ⟨slice, hslice, hrow⟩)
    · exact Or.inr (Or.inl (Or.inr ⟨rfl, hmissing⟩))
    · exact Or.inr (Or.inr ⟨slice, hslice, mem_sliceFindings.mpr (Or.inr ⟨rfl, hrow⟩)⟩)

/-! ## The outcome in terms of the inputs -/

/-- The paired-case check finds nothing, one inconclusive finding, or raises. -/
theorem pairedFindings_cases (comparison : RunComparison) (policy : QualityGatePolicy) :
    (¬ comparison.pairedCases < policy.minimumPairedCases ∧
      pairedFindings comparison policy = .ok []) ∨
    (comparison.pairedCases < policy.minimumPairedCases ∧
      Float64.fitsDouble policy.minimumPairedCases = true ∧
      ∃ f : GateFinding, f.outcome = .inconclusive ∧ pairedFindings comparison policy = .ok [f]) ∨
    (comparison.pairedCases < policy.minimumPairedCases ∧
      Float64.fitsDouble policy.minimumPairedCases = false ∧
      ∃ error, pairedFindings comparison policy = .error error) := by
  unfold pairedFindings Float64.ofInt
  by_cases hlt : comparison.pairedCases < policy.minimumPairedCases
  · rw [if_pos hlt]
    by_cases hfits : Float64.fitsDouble policy.minimumPairedCases = true
    · rw [if_pos hfits]
      exact Or.inr (Or.inl ⟨hlt, hfits, _, rfl, rfl⟩)
    · rw [if_neg hfits]
      exact Or.inr (Or.inr ⟨hlt, by simpa using hfits, _, rfl⟩)
  · rw [if_neg hlt]
    exact Or.inl ⟨hlt, rfl⟩

/-- Which of the inputs put the outcome where it is on the scale of severities. -/
structure OutcomeSpec (comparison : RunComparison) (policy : QualityGatePolicy)
    (outcome : GateOutcome) : Prop where
  block : .block ≤ outcome ↔ Exceeded comparison policy .blocking true
  inconclusive : .inconclusive ≤ outcome ↔
    Exceeded comparison policy .blocking true ∨ TooLittleEvidence comparison policy
  warn : .warn ≤ outcome ↔
    (∃ severity, Exceeded comparison policy severity true) ∨ TooLittleEvidence comparison policy

/-- **The outcome is at least as bad as `o` exactly if some finding is**, nothing found being a
    pass. -/
theorem le_worstOutcome_iff {findings : List GateFinding} {o : GateOutcome} (ho : .pass < o) :
    o ≤ worstOutcome findings ↔ ∃ f ∈ findings, o ≤ f.outcome := by
  constructor
  · intro h
    rcases worstOutcome_mem findings with hpass | ⟨f, hf, hfo⟩
    · exact absurd (lt_of_lt_of_le ho h) (by rw [hpass]; exact lt_irrefl _)
    · exact ⟨f, hf, hfo ▸ h⟩
  · rintro ⟨f, hf, hfo⟩
    exact le_trans hfo (le_worstOutcome hf)

/-- The decision over inconclusive findings `paired` and the rules' findings. -/
theorem outcomeSpec_of_findings {comparison : RunComparison} {policy : QualityGatePolicy}
    {paired : List GateFinding} (hpaired : ∀ f ∈ paired, f.outcome = .inconclusive)
    (hfew : comparison.pairedCases < policy.minimumPairedCases ↔ ∃ f, f ∈ paired) :
    OutcomeSpec comparison policy (worstOutcome (paired ++ ruleFindings comparison policy)) := by
  have hblock : Exceeded comparison policy .blocking true ↔
      ∃ f ∈ ruleFindings comparison policy, f.outcome = .block := exceeded_iff
  have hwarn : Exceeded comparison policy .warning true ↔
      ∃ f ∈ ruleFindings comparison policy, f.outcome = .warn := exceeded_iff
  have hevidence : TooLittleEvidence comparison policy ↔
      ∃ f ∈ paired ++ ruleFindings comparison policy, f.outcome = .inconclusive := by
    unfold TooLittleEvidence
    rw [← inconclusive_iff, hfew]
    constructor
    · rintro (⟨f, hf⟩ | ⟨f, hf, hfo⟩)
      · exact ⟨f, List.mem_append_left _ hf, hpaired f hf⟩
      · exact ⟨f, List.mem_append_right _ hf, hfo⟩
    · rintro ⟨f, hf, hfo⟩
      rcases List.mem_append.mp hf with hf | hf
      · exact Or.inl ⟨f, hf⟩
      · exact Or.inr ⟨f, hf, hfo⟩
  -- a finding that is not inconclusive is one of the rules'
  have hrule : ∀ f ∈ paired ++ ruleFindings comparison policy, f.outcome ≠ .inconclusive →
      f ∈ ruleFindings comparison policy := by
    intro f hf hne
    rcases List.mem_append.mp hf with hf | hf
    · exact absurd (hpaired f hf) hne
    · exact hf
  refine ⟨?_, ?_, ?_⟩
  · rw [le_worstOutcome_iff (by decide), hblock]
    constructor
    · rintro ⟨f, hf, hfo⟩
      cases ho : f.outcome with
      | block => exact ⟨f, hrule f hf (by rw [ho]; decide), ho⟩
      | pass | warn | inconclusive =>
        rw [ho] at hfo
        exact absurd hfo (by decide)
    · rintro ⟨f, hf, hfo⟩
      exact ⟨f, List.mem_append_right _ hf, le_of_eq hfo.symm⟩
  · rw [le_worstOutcome_iff (by decide), hblock, hevidence]
    constructor
    · rintro ⟨f, hf, hfo⟩
      cases ho : f.outcome with
      | block => exact Or.inl ⟨f, hrule f hf (by rw [ho]; decide), ho⟩
      | inconclusive => exact Or.inr ⟨f, hf, ho⟩
      | pass | warn =>
        rw [ho] at hfo
        exact absurd hfo (by decide)
    · rintro (⟨f, hf, hfo⟩ | ⟨f, hf, hfo⟩)
      · exact ⟨f, List.mem_append_right _ hf, by rw [hfo]; decide⟩
      · exact ⟨f, hf, le_of_eq hfo.symm⟩
  · rw [le_worstOutcome_iff (by decide), hevidence]
    constructor
    · rintro ⟨f, hf, hfo⟩
      cases ho : f.outcome with
      | block =>
        exact Or.inl ⟨.blocking, hblock.mpr ⟨f, hrule f hf (by rw [ho]; decide), ho⟩⟩
      | warn => exact Or.inl ⟨.warning, hwarn.mpr ⟨f, hrule f hf (by rw [ho]; decide), ho⟩⟩
      | inconclusive => exact Or.inr ⟨f, hf, ho⟩
      | pass =>
        rw [ho] at hfo
        exact absurd hfo (by decide)
    · rintro (⟨severity, hx⟩ | ⟨f, hf, hfo⟩)
      · obtain ⟨f, hf, hfo⟩ := exceeded_iff.mp hx
        exact ⟨f, List.mem_append_right _ hf, by rw [hfo]; cases severity <;> decide⟩
      · exact ⟨f, hf, by rw [hfo]; decide⟩

/-- The gate raises where the minimum is above the pair count and beyond every float; otherwise its
    outcome is as specified. -/
theorem gateOutcome_cases (comparison : RunComparison) (policy : QualityGatePolicy) :
    (∃ outcome, gateOutcome comparison policy = .ok outcome ∧
      (comparison.pairedCases < policy.minimumPairedCases →
        Float64.fitsDouble policy.minimumPairedCases = true) ∧
      OutcomeSpec comparison policy outcome) ∨
    ∃ error, gateOutcome comparison policy = .error error ∧
      comparison.pairedCases < policy.minimumPairedCases ∧
      Float64.fitsDouble policy.minimumPairedCases = false := by
  unfold gateOutcome evaluateGate
  rcases pairedFindings_cases comparison policy with ⟨hge, hpaired⟩ |
    ⟨hlt, hfits, f, hf, hpaired⟩ | ⟨hlt, hfits, error, hpaired⟩
  · rw [hpaired]
    refine Or.inl ⟨_, rfl, fun hlt => absurd hlt hge, outcomeSpec_of_findings ?_ ?_⟩
    · intro f hf
      exact absurd hf List.not_mem_nil
    · exact ⟨fun hlt => absurd hlt hge, fun ⟨_, hf⟩ => absurd hf List.not_mem_nil⟩
  · rw [hpaired]
    refine Or.inl ⟨_, rfl, fun _ => hfits, outcomeSpec_of_findings ?_ ?_⟩
    · intro g hg
      rw [List.mem_singleton.mp hg, hf]
    · exact ⟨fun _ => ⟨f, List.mem_singleton_self f⟩, fun _ => hlt⟩
  · rw [hpaired]
    exact Or.inr ⟨error, rfl, hlt, hfits⟩

/-! ## When the gate enforces a policy -/

/-- A rule is violated exactly if what it reads exceeds its bound. -/
theorem ruleViolated_iff {comparison : RunComparison} {policy : QualityGatePolicy}
    {severity : RuleSeverity} :
    RuleViolated comparison policy severity ↔
      ∃ read, Exceeded comparison policy severity read := by
  -- a rule is violated in one direction or the other, whether that is read or not
  have hviolated : ∀ (rule : MetricRule) (delta : Float64),
      rule.violated delta = true ↔ ∃ direction, rule.exceeded direction delta = true := by
    intro rule delta
    unfold MetricRule.violated
    rw [Bool.or_eq_true]
    constructor
    · rintro (h | h)
      · exact ⟨.drop, h⟩
      · exact ⟨.increase, h⟩
    · rintro ⟨direction, h⟩
      cases direction with
      | drop => exact Or.inl h
      | increase => exact Or.inr h
  constructor
  · rintro (⟨metric, rule, delta, hrule, hsev, hdelta, hv⟩ |
      ⟨slice, hslice, rule, row, hrule, hsev, hrow, hv⟩)
    · obtain ⟨direction, hx⟩ := (hviolated _ _).mp hv
      exact ⟨runReads metric direction, Or.inl ⟨metric, rule, delta, direction, hrule, hsev, hdelta,
        hx, rfl⟩⟩
    · obtain ⟨direction, hx⟩ := (hviolated _ _).mp hv
      exact ⟨sliceReads direction, Or.inr ⟨slice, hslice, rule, row, direction, hrule, hsev, hrow,
        hx, rfl⟩⟩
  · rintro ⟨read, ⟨metric, rule, delta, direction, hrule, hsev, hdelta, hx, -⟩ |
      ⟨slice, hslice, rule, row, direction, hrule, hsev, hrow, hx, -⟩⟩
    · exact Or.inl ⟨metric, rule, delta, hrule, hsev, hdelta, (hviolated _ _).mpr ⟨direction, hx⟩⟩
    · exact Or.inr ⟨slice, hslice, rule, row, hrule, hsev, hrow,
        (hviolated _ _).mpr ⟨direction, hx⟩⟩

/-- Nothing is worse than a block. -/
theorem GateOutcome.eq_block_iff {o : GateOutcome} : o = .block ↔ .block ≤ o := by
  cases o <;> decide

/-- What is no pass is a warning at least. -/
theorem GateOutcome.ne_pass_iff {o : GateOutcome} : o ≠ .pass ↔ .warn ≤ o := by
  cases o <;> decide

/-- What is neither a pass nor a warning is inconclusive or a block. -/
theorem GateOutcome.ne_pass_warn_iff {o : GateOutcome} :
    o ≠ .pass ∧ o ≠ .warn ↔ .inconclusive ≤ o := by
  cases o <;> decide

/-- A gate that gives an outcome enforces the policy when the outcome is severe enough. -/
theorem gateEnforces_of_ok {comparison : RunComparison} {policy : QualityGatePolicy}
    {outcome : GateOutcome} (hok : gateOutcome comparison policy = .ok outcome) :
    GateEnforces comparison policy ↔
      (RuleViolated comparison policy .blocking → .block ≤ outcome) ∧
      (RuleViolated comparison policy .warning → .warn ≤ outcome) ∧
      (EvidenceMissing comparison policy → .inconclusive ≤ outcome) := by
  constructor
  · intro h
    refine ⟨?_, ?_, ?_⟩
    · intro hv
      have hout := h.blocking hv
      rw [hok] at hout
      exact GateOutcome.eq_block_iff.mp (Except.ok.inj hout)
    · intro hv
      obtain ⟨o, ho, hne⟩ := h.warning hv
      rw [hok] at ho
      obtain rfl := Except.ok.inj ho
      exact GateOutcome.ne_pass_iff.mp hne
    · intro hmissing
      obtain ⟨o, ho, hne⟩ := h.missing hmissing
      rw [hok] at ho
      obtain rfl := Except.ok.inj ho
      exact GateOutcome.ne_pass_warn_iff.mp hne
  · rintro ⟨hblocking, hwarning, hmissing⟩
    refine ⟨?_, ?_, ?_⟩
    · intro hv
      rw [hok, GateOutcome.eq_block_iff.mpr (hblocking hv)]
    · intro hv
      exact ⟨outcome, hok, GateOutcome.ne_pass_iff.mpr (hwarning hv)⟩
    · intro h
      exact ⟨outcome, hok, GateOutcome.ne_pass_warn_iff.mpr (hmissing h)⟩

/-- A gate that raises enforces exactly the policies that ask for nothing. -/
theorem gateEnforces_of_error {comparison : RunComparison} {policy : QualityGatePolicy}
    {error : String} (herror : gateOutcome comparison policy = .error error) :
    GateEnforces comparison policy ↔
      ¬ ((∃ severity, RuleViolated comparison policy severity) ∨
        EvidenceMissing comparison policy) := by
  have hraise : ∀ o, gateOutcome comparison policy ≠ .ok o := by
    intro o ho
    rw [herror] at ho
    cases ho
  constructor
  · rintro h (⟨severity, hv⟩ | hmissing)
    · cases severity with
      | blocking => exact hraise _ (h.blocking hv)
      | warning =>
        obtain ⟨o, ho, -⟩ := h.warning hv
        exact hraise o ho
    · obtain ⟨o, ho, -⟩ := h.missing hmissing
      exact hraise o ho
  · intro h
    refine ⟨?_, ?_, ?_⟩
    · intro hv
      exact absurd (Or.inl ⟨_, hv⟩) h
    · intro hv
      exact absurd (Or.inl ⟨_, hv⟩) h
    · intro hmissing
      exact absurd (Or.inr hmissing) h

/-- The gate enforces a policy on a comparison exactly when what it does not read of the policy is
    masked by what it does read. -/
theorem gateEnforces_iff (comparison : RunComparison) (policy : QualityGatePolicy) :
    GateEnforces comparison policy ↔ UnreadRulesMasked comparison policy := by
  rcases gateOutcome_cases comparison policy with ⟨outcome, hok, hfits, hspec⟩ |
    ⟨error, herror, hlt, hfits⟩
  · rw [gateEnforces_of_ok hok, hspec.block, hspec.warn, hspec.inconclusive]
    constructor
    · rintro ⟨hblocking, hwarning, hmissing⟩
      refine ⟨?_, ?_, ?_, fun _ => hfits⟩
      · intro hx
        exact hblocking (ruleViolated_iff.mpr ⟨false, hx⟩)
      · intro hx
        exact hwarning (ruleViolated_iff.mpr ⟨false, hx⟩)
      · intro h
        exact hmissing (Or.inl h)
    · intro h
      refine ⟨?_, ?_, ?_⟩
      · intro hv
        obtain ⟨read, hx⟩ := ruleViolated_iff.mp hv
        cases read with
        | true => exact hx
        | false => exact h.blocking hx
      · intro hv
        obtain ⟨read, hx⟩ := ruleViolated_iff.mp hv
        cases read with
        | true => exact Or.inl ⟨_, hx⟩
        | false => exact h.warning hx
      · rintro (hmissing | hslice)
        · exact h.required hmissing
        · exact Or.inr (Or.inr (Or.inr hslice))
  · -- the gate raises: nothing that the policy asks for is given
    rw [gateEnforces_of_error herror]
    constructor
    · intro hnone
      refine ⟨?_, ?_, ?_, fun hasked => absurd hasked hnone⟩
      · intro hx
        exact absurd (Or.inl ⟨_, ruleViolated_iff.mpr ⟨_, hx⟩⟩) hnone
      · intro hx
        exact absurd (Or.inl ⟨_, ruleViolated_iff.mpr ⟨_, hx⟩⟩) hnone
      · intro hmissing
        exact absurd (Or.inr (Or.inl hmissing)) hnone
    · intro h hasked
      have hfits' := h.minimum hasked hlt
      rw [hfits] at hfits'
      cases hfits'

/-- A comparison in which one evaluator's average dropped by one. -/
def durationDropped : RunComparison where
  baselineRunId := 0
  candidateRunId := 1
  pairedCases := 1
  missingPairs := []
  aggregatePassRateDelta := .finite 0
  metricDeltas := .ofPairs [("execution_duration", .finite (-1))]
  confidenceInterval := none
  limitedEvidence := true
  improvedCases := []
  regressedCases := []
  unchangedPasses := 1
  unchangedFailures := 0
  sliceComparisons := []
  caseComparisons := []

/-- A policy that blocks on any drop of that evaluator. -/
def durationPolicy : QualityGatePolicy :=
  { metrics := .ofPairs [("execution_duration",
      { required := true, maximumAbsoluteDrop := some (.finite 0) })] }

/-- **A blocking rule for a metric the gate does not look up is violated and the gate passes**: the
    gate reads two metrics by name, and `execution_duration` is neither. -/
theorem gateEnforces_fails :
    RuleViolated durationDropped durationPolicy .blocking ∧
      gateOutcome durationDropped durationPolicy = .ok .pass ∧
      ¬ GateEnforces durationDropped durationPolicy := by
  have hviolated : RuleViolated durationDropped durationPolicy .blocking :=
    Or.inl ⟨"execution_duration", { required := true, maximumAbsoluteDrop := some (.finite 0) },
      .finite (-1), rfl, rfl, rfl, by decide⟩
  have hpass : gateOutcome durationDropped durationPolicy = .ok .pass := rfl
  refine ⟨hviolated, hpass, fun h => ?_⟩
  have hblock := h.blocking hviolated
  rw [hpass] at hblock
  cases hblock

end AEControl.Evaluation
