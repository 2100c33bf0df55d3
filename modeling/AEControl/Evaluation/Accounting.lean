/-
  The books of a comparison (`compare.py`).

  `compare_runs` adds the same pairs up three times: by classification, over all pairs, and slice by
  slice.  `Accounted` says that the three agree: every paired id has one classification, and the
  aggregate delta and the slice deltas, weighted by what they average over, both come to improved
  minus regressed.

  `Exchanged` is what swapping the two runs does to a comparison.  The pairs are the same pairs the
  other way round (`pairs_swap`); from there each aggregation is followed on its own.  Only the
  slices ask for a hypothesis: a shared case takes its slice from the baseline
  (`SharedSlicesAgree`).
-/
import Mathlib.Tactic.Ring
import Mathlib.Tactic.FieldSimp
import AEControl.Evaluation.Gate

namespace AEControl.Evaluation

/-! ## What the books should say -/

/-- The rational a rate is. -/
def rational : Float64 → ℚ
  | .finite q => q
  | _ => 0

/-- `paired_ids`. -/
def pairedIds (baseline candidate : EvaluationRun) : List String :=
  sharedKeys baseline.byId candidate.byId

/-- The ids a comparison puts in a class. -/
def RunComparison.classified (c : RunComparison) (k : Classification) : List String :=
  (c.caseComparisons.filter (·.classification = k)).map (·.caseId)

/-- Improved minus regressed. -/
def RunComparison.netImproved (c : RunComparison) : ℚ :=
  c.improvedCases.length - c.regressedCases.length

/-- The comparison accounts for every one of the paired ids. -/
structure Accounted (ids : List String) (c : RunComparison) : Prop where
  paired : c.pairedCases = ids.length
  /-- Every paired id is in exactly one class, once. -/
  once : ∀ id ∈ ids, ∃! k, id ∈ c.classified k
  nodup : ∀ k, (c.classified k).Nodup
  only : ∀ k, ∀ id ∈ c.classified k, id ∈ ids
  improved : c.improvedCases = c.classified .improved
  regressed : c.regressedCases = c.classified .regressed
  unchangedPasses : c.unchangedPasses = (c.classified .unchangedPass).length
  unchangedFailures : c.unchangedFailures = (c.classified .unchangedFail).length
  aggregateFinite : c.aggregatePassRateDelta.isFinite = true
  aggregate : rational c.aggregatePassRateDelta * c.pairedCases = c.netImproved
  sliceCounts : (c.sliceComparisons.map (·.pairedCases)).sum = c.pairedCases
  slicesFinite : ∀ s ∈ c.sliceComparisons, s.passRateDelta.isFinite = true
  sliceDeltas : (c.sliceComparisons.map fun s => rational s.passRateDelta * s.pairedCases).sum =
    c.netImproved

/-- The same keys in the same order, every value negated. -/
def Negated (d d' : Dict String Float64) : Prop := Dict.Rel (fun v w => w = v.neg) d d'

/-- One slice of the exchanged comparison. -/
structure SliceExchanged (s s' : SliceComparison) : Prop where
  slice : s'.slice = s.slice
  paired : s'.pairedCases = s.pairedCases
  baseline : s'.baselinePassRate = s.candidatePassRate
  candidate : s'.candidatePassRate = s.baselinePassRate
  delta : s'.passRateDelta = s.passRateDelta.neg

/-- One case of the exchanged comparison. -/
structure CaseExchanged (x x' : CaseComparison) : Prop where
  caseId : x'.caseId = x.caseId
  baseline : x'.baselinePassed = x.candidatePassed
  candidate : x'.candidatePassed = x.baselinePassed
  deltas : Negated x.metricDeltas x'.metricDeltas

/-- `c'` compares the runs of `c` the other way round. -/
structure Exchanged (c c' : RunComparison) : Prop where
  improved : c'.improvedCases = c.regressedCases
  regressed : c'.regressedCases = c.improvedCases
  unchangedPasses : c'.unchangedPasses = c.unchangedPasses
  unchangedFailures : c'.unchangedFailures = c.unchangedFailures
  missing : c'.missingPairs = c.missingPairs
  aggregate : c'.aggregatePassRateDelta = c.aggregatePassRateDelta.neg
  metrics : Negated c.metricDeltas c'.metricDeltas
  slices : List.Forall₂ SliceExchanged c.sliceComparisons c'.sliceComparisons
  cases : List.Forall₂ CaseExchanged c.caseComparisons c'.caseComparisons

/-- A case both runs have is in the same slice in both. -/
def SharedSlicesAgree (baseline candidate : EvaluationRun) : Prop :=
  ∀ id b c, baseline.byId.get id = some b → candidate.byId.get id = some c →
    b.case.slice = c.case.slice

/-! ## Sorted names -/

/-- Sorting the names keeps them. -/
theorem mem_sortedNames {names : List String} {name : String} :
    name ∈ sortedNames names ↔ name ∈ names := List.mem_insertionSort _

/-- Sorting forgets the order. -/
theorem sortedNames_congr {l m : List String} (h : l.Perm m) : sortedNames l = sortedNames m := by
  have hperm : (sortedNames l).Perm (sortedNames m) :=
    ((List.perm_insertionSort _ l).trans h).trans (List.perm_insertionSort _ m).symm
  exact hperm.eq_of_pairwise' (List.pairwise_insertionSort _ l) (List.pairwise_insertionSort _ m)

section Keys

variable {α β : Type} {a : Dict String α} {b : Dict String β}

/-- The shared keys are those of both dictionaries. -/
theorem mem_sharedKeys {name : String} :
    name ∈ sharedKeys a b ↔ name ∈ a.keys ∧ name ∈ b.keys := by
  unfold sharedKeys
  rw [mem_sortedNames, List.mem_filter, decide_eq_true_eq]

/-- No key is shared twice. -/
theorem nodup_sharedKeys : (sharedKeys a b).Nodup := by
  have hfilter : (a.keys.filter (· ∈ b.keys)).Nodup := a.nodup.filter _
  exact (List.perm_insertionSort _ _).nodup_iff.mpr hfilter

/-- The shared keys of two dictionaries have no first and second. -/
theorem sharedKeys_comm : sharedKeys b a = sharedKeys a b := by
  refine sortedNames_congr ((List.perm_ext_iff_of_nodup (b.nodup.filter _) (a.nodup.filter _)).mpr ?_)
  intro name
  rw [List.mem_filter, List.mem_filter, decide_eq_true_eq, decide_eq_true_eq]
  exact and_comm

/-- The keys of one dictionary only do not depend on which comes first. -/
theorem unsharedKeys_comm : unsharedKeys b a = unsharedKeys a b :=
  sortedNames_congr List.perm_append_comm

end Keys

/-! ## The pairs -/

/-- A pair the other way round. -/
def Pair.swap (pair : Pair) : Pair := ⟨pair.caseId, pair.candidate, pair.baseline⟩

/-- A pair is made of the results of one case in the two runs. -/
theorem pairAt_some {baselineById candidateById : Dict String CaseResult} {id : String}
    {pair : Pair} (h : pairAt baselineById candidateById id = some pair) :
    pair.caseId = id ∧ baselineById.get id = some pair.baseline ∧
      candidateById.get id = some pair.candidate := by
  unfold pairAt at h
  split at h
  · rename_i base cand hbase hcand
    obtain rfl := Option.some.inj h
    exact ⟨rfl, hbase, hcand⟩
  · cases h

/-- A shared key has its pair. -/
theorem pairAt_isSome {baselineById candidateById : Dict String CaseResult} {id : String}
    (h : id ∈ sharedKeys baselineById candidateById) :
    ∃ pair, pairAt baselineById candidateById id = some pair := by
  obtain ⟨hbase, hcand⟩ := mem_sharedKeys.mp h
  obtain ⟨base, hbase⟩ := Option.ne_none_iff_exists'.mp fun hnone => Dict.get_eq_none.mp hnone hbase
  obtain ⟨cand, hcand⟩ := Option.ne_none_iff_exists'.mp fun hnone => Dict.get_eq_none.mp hnone hcand
  exact ⟨⟨id, base, cand⟩, by unfold pairAt; rw [hbase, hcand]⟩

/-- The pairs are one for each paired id, in their order. -/
theorem map_caseId_pairs (baseline candidate : EvaluationRun) :
    (pairs baseline candidate).map (·.caseId) = pairedIds baseline candidate := by
  have hall : ∀ ids : List String, (∀ id ∈ ids, id ∈ sharedKeys baseline.byId candidate.byId) →
      (ids.filterMap (pairAt baseline.byId candidate.byId)).map (·.caseId) = ids := by
    intro ids hids
    induction ids with
    | nil => rfl
    | cons id ids ih =>
      obtain ⟨hid, hids⟩ := List.forall_mem_cons.mp hids
      obtain ⟨pair, hpair⟩ := pairAt_isSome hid
      rw [List.filterMap_cons_some hpair, List.map_cons, ih hids, (pairAt_some hpair).1]
  exact hall _ fun id hid => hid

/-- Swapping the runs swaps every pair. -/
theorem pairs_swap (baseline candidate : EvaluationRun) :
    pairs candidate baseline = (pairs baseline candidate).map Pair.swap := by
  unfold pairs
  rw [sharedKeys_comm (a := baseline.byId) (b := candidate.byId), List.map_filterMap]
  refine List.filterMap_congr fun id _ => ?_
  unfold pairAt
  cases baseline.byId.get id with
  | none => cases candidate.byId.get id <;> rfl
  | some base => cases candidate.byId.get id <;> rfl

/-- The two results of a pair are those of its id. -/
theorem mem_pairs {baseline candidate : EvaluationRun} {pair : Pair}
    (h : pair ∈ pairs baseline candidate) :
    baseline.byId.get pair.caseId = some pair.baseline ∧
      candidate.byId.get pair.caseId = some pair.candidate := by
  obtain ⟨id, -, hpair⟩ := List.mem_filterMap.mp h
  obtain ⟨rfl, hbase, hcand⟩ := pairAt_some hpair
  exact ⟨hbase, hcand⟩

/-! ## Every pair in one class -/

variable {baseline candidate : EvaluationRun}

/-- The rows of a comparison are one for each paired id. -/
theorem caseIds_eq (resample : Nat → List Int → List Int) :
    ((compareRuns resample baseline candidate).caseComparisons.map (·.caseId)) =
      pairedIds baseline candidate := by
  show ((pairs baseline candidate).map (compareCase baseline candidate)).map (·.caseId) = _
  rw [List.map_map, ← map_caseId_pairs]
  rfl

/-- Rows with distinct ids are split over the classes, each id into one. -/
theorem classified_once {c : RunComparison} {ids : List String}
    (hids : c.caseComparisons.map (·.caseId) = ids) (hnodup : ids.Nodup) :
    (∀ id ∈ ids, ∃! k, id ∈ c.classified k) ∧ (∀ k, (c.classified k).Nodup) ∧
      ∀ k, ∀ id ∈ c.classified k, id ∈ ids := by
  have hsub : ∀ k, (c.classified k).Sublist ids := fun k => by
    rw [← hids]
    exact List.filter_sublist.map _
  refine ⟨fun id hid => ?_, fun k => hnodup.sublist (hsub k), fun k id hid => (hsub k).subset hid⟩
  rw [← hids] at hid
  obtain ⟨row, hrow, rfl⟩ := List.mem_map.mp hid
  refine ⟨row.classification, ?_, ?_⟩
  · exact List.mem_map_of_mem (List.mem_filter.mpr ⟨hrow, by simp⟩)
  · -- two rows of one id are the same row
    intro k hk
    obtain ⟨row', hrow', hid'⟩ := List.mem_map.mp hk
    obtain ⟨hmem', hclass⟩ := List.mem_filter.mp hrow'
    have hsame : row' = row := by
      refine List.inj_on_of_nodup_map ?_ hmem' hrow hid'
      rw [hids]
      exact hnodup
    rw [← hsame]
    exact (of_decide_eq_true hclass).symm

/-! ## The aggregate and the slices -/

/-- What a row adds to the books: one for an improvement, minus one for a regression. -/
def rowDelta (row : CaseComparison) : ℚ :=
  (row.candidatePassed.toInt - row.baselinePassed.toInt : Int)

/-- The rows as `compare_runs` classifies them. -/
def WellClassified (row : CaseComparison) : Prop :=
  row.classification = classify row.baselinePassed row.candidatePassed

/-- Summed over rows, the deltas are improved minus regressed. -/
theorem sum_rowDelta {rows : List CaseComparison} (h : ∀ row ∈ rows, WellClassified row) :
    (rows.map rowDelta).sum = ((rows.filter (·.classification = .improved)).length : ℚ) -
      (rows.filter (·.classification = .regressed)).length := by
  induction rows with
  | nil => simp
  | cons row rows ih =>
    obtain ⟨hrow, hrows⟩ := List.forall_mem_cons.mp h
    have hrow : row.classification = classify row.baselinePassed row.candidatePassed := hrow
    rw [List.map_cons, List.sum_cons, ih hrows, List.filter_cons, List.filter_cons, hrow]
    unfold rowDelta
    cases row.baselinePassed <;> cases row.candidatePassed <;>
      simp [classify, Bool.toInt] <;> ring

/-- Rows in one group: the slice's delta, weighted, is what its rows add. -/
theorem delta_compareSlice (group : String × List CaseComparison) :
    rational (compareSlice group).passRateDelta * (compareSlice group).pairedCases =
      (group.2.map rowDelta).sum := by
  have hcount : ∀ rows : List CaseComparison, (rows.map rowDelta).sum =
      (rows.countP (·.candidatePassed) : ℚ) - rows.countP (·.baselinePassed) := by
    intro rows
    induction rows with
    | nil => simp
    | cons row rows ih =>
      rw [List.map_cons, List.sum_cons, ih, List.countP_cons, List.countP_cons]
      unfold rowDelta
      cases row.baselinePassed <;> cases row.candidatePassed <;> simp [Bool.toInt] <;> ring
  rw [hcount]
  show (passRate (·.candidatePassed) group.2 - passRate (·.baselinePassed) group.2) *
    ((group.2.length : Int) : ℚ) = _
  unfold passRate
  rw [Int.cast_natCast]
  cases hrows : group.2 with
  | nil => simp
  | cons row rows =>
    have hne : ((row :: rows).length : ℚ) ≠ 0 :=
      Nat.cast_ne_zero.mpr (Nat.succ_ne_zero rows.length)
    field_simp

/-- What is summed over the slices of a list of rows is summed over the rows. -/
theorem sum_sliceComparisons {M : Type} [AddCommMonoid M] (rows : List CaseComparison)
    {f : SliceComparison → M} {g : CaseComparison → M}
    (hfg : ∀ group : String × List CaseComparison, f (compareSlice group) = (group.2.map g).sum) :
    ((sliceComparisons rows).map f).sum = (rows.map g).sum := by
  unfold sliceComparisons
  rw [List.map_map]
  have hperm := List.perm_insertionSort (fun a b : String × List CaseComparison => a.1 ≤ b.1)
    (Dict.groupBy (·.slice) rows).items
  rw [(hperm.map (f ∘ compareSlice)).sum_eq, ← Dict.sum_groupBy (·.slice) rows g]
  exact congrArg List.sum (List.map_congr_left fun group _ => hfg group)

/-- The deltas of the pairs, as the rows have them. -/
theorem sum_passDelta (paired : List Pair) :
    (((paired.map passDelta).sum : Int) : ℚ) =
      ((paired.map (compareCase baseline candidate)).map rowDelta).sum := by
  induction paired with
  | nil => rfl
  | cons pair paired ih =>
    rw [List.map_cons, List.sum_cons, Int.cast_add, ih]
    rfl

/-- The aggregate delta, times what it is an average over. -/
theorem aggregateDelta_mul_length (deltas : List Int) :
    aggregateDelta deltas * deltas.length = ((deltas.sum : Int) : ℚ) := by
  unfold aggregateDelta
  cases deltas with
  | nil => simp
  | cons d deltas =>
    have hne : ((d :: deltas).length : ℚ) ≠ 0 :=
      Nat.cast_ne_zero.mpr (Nat.succ_ne_zero deltas.length)
    rw [if_neg (by simp)]
    field_simp

/-- **Every comparison accounts for its pairs**, field by field. -/
theorem accounted_compareRuns (resample : Nat → List Int → List Int)
    (baseline candidate : EvaluationRun) :
    Accounted (pairedIds baseline candidate) (compareRuns resample baseline candidate) := by
  have hids : ((compareRuns resample baseline candidate).caseComparisons.map (·.caseId)) =
      pairedIds baseline candidate := caseIds_eq resample
  obtain ⟨honce, hnodup, honly⟩ := classified_once hids nodup_sharedKeys
  set rows := (pairs baseline candidate).map (compareCase baseline candidate) with hrows
  -- each row is classified by its own delta
  have hclass : ∀ row ∈ rows, WellClassified row := by
    intro row hrow
    obtain ⟨pair, -, rfl⟩ := List.mem_map.mp hrow
    rfl
  have hnet : (compareRuns resample baseline candidate).netImproved = (rows.map rowDelta).sum := by
    rw [sum_rowDelta hclass]
    show (((rows.filter (·.classification = .improved)).map (·.caseId)).length : ℚ) -
      ((rows.filter (·.classification = .regressed)).map (·.caseId)).length = _
    rw [List.length_map, List.length_map]
  have hlength : (pairedIds baseline candidate).length = (pairs baseline candidate).length := by
    rw [← map_caseId_pairs, List.length_map]
  -- counts are lengths of the lists of ids, totals are sums over the slices
  refine ⟨?_, honce, hnodup, honly, rfl, rfl, ?_, ?_, rfl, ?_, ?_, ?_, ?_⟩
  · rw [hlength]
    rfl
  · show ((rows.filter _).length : Int) = ((rows.filter _).map _).length
    rw [List.length_map]
  · show ((rows.filter _).length : Int) = ((rows.filter _).map _).length
    rw [List.length_map]
  · show aggregateDelta ((pairs baseline candidate).map passDelta) *
      (((pairs baseline candidate).length : Int) : ℚ) = _
    have hmul := aggregateDelta_mul_length ((pairs baseline candidate).map passDelta)
    rw [List.length_map] at hmul
    rw [hnet, hrows, ← sum_passDelta, ← hmul, Int.cast_natCast]
  · have hsum := sum_sliceComparisons rows (f := fun s => s.pairedCases) (g := fun _ => 1)
      fun group => by simp [compareSlice]
    show ((sliceComparisons rows).map (·.pairedCases)).sum = ((pairs baseline candidate).length : Int)
    rw [hsum, List.map_const', List.sum_replicate, hrows, List.length_map]
    simp
  · intro s hs
    obtain ⟨group, -, rfl⟩ := List.mem_map.mp hs
    rfl
  · rw [hnet]
    exact sum_sliceComparisons rows delta_compareSlice

/-! ## The runs exchanged -/

/-- An exchanged pair has the opposite change. -/
theorem passDelta_swap (pair : Pair) : passDelta pair.swap = -passDelta pair :=
  (neg_sub _ _).symm

/-- Scores subtracted the other way round. -/
theorem scoreDeltas_swap (a b : Dict String ℚ) :
    Negated (scoreDeltas a b) (scoreDeltas b a) := by
  unfold Negated scoreDeltas
  rw [sharedKeys_comm (a := a) (b := b)]
  refine Dict.rel_ofPairs (List.rel_filterMap (R := Eq) ?_ (List.forall₂_refl _))
  rintro name _ rfl
  dsimp only
  cases a.get name with
  | none => cases b.get name <;> exact Option.Rel.none
  | some base =>
    cases b.get name with
    | none => exact Option.Rel.none
    | some cand =>
      refine Option.Rel.some ⟨rfl, ?_⟩
      show Float64.finite (base - cand) = Float64.finite (-(cand - base))
      rw [neg_sub]

/-- Exchanged runs have the opposite deltas of every metric. -/
theorem runMetricDeltas_swap (baseline candidate : EvaluationRun) :
    Negated (runMetricDeltas baseline candidate) (runMetricDeltas candidate baseline) := by
  refine Dict.Rel.set (scoreDeltas_swap _ _) _ ?_
  show Float64.finite _ = Float64.finite (-_)
  rw [neg_sub]

/-- Opposite deltas have the opposite aggregate. -/
theorem aggregateDelta_neg (deltas : List Int) :
    aggregateDelta (deltas.map fun d => -d) = -aggregateDelta deltas := by
  have hsum : (deltas.map fun d => -d).sum = -deltas.sum := by
    induction deltas with
    | nil => rfl
    | cons d deltas ih => rw [List.map_cons, List.sum_cons, List.sum_cons, ih, neg_add]
  unfold aggregateDelta
  rw [List.isEmpty_map, hsum, List.length_map]
  split
  · rw [neg_zero]
  · rw [Int.cast_neg, neg_div]

/-- The rows of the exchanged comparison, one by one: outcomes swapped, the slice kept. -/
theorem rows_swap (h : SharedSlicesAgree baseline candidate) :
    List.Forall₂ (fun row row' => row'.slice = row.slice ∧ CaseExchanged row row')
      ((pairs baseline candidate).map (compareCase baseline candidate))
      ((pairs candidate baseline).map (compareCase candidate baseline)) := by
  rw [pairs_swap baseline candidate, List.map_map, List.forall₂_map_left_iff,
    List.forall₂_map_right_iff, List.forall₂_same]
  intro pair hpair
  obtain ⟨hbase, hcand⟩ := mem_pairs hpair
  refine ⟨(h pair.caseId pair.baseline pair.candidate hbase hcand).symm, rfl, rfl, rfl, ?_⟩
  exact scoreDeltas_swap pair.baseline.scores pair.candidate.scores

/-- The ids of one class, followed through the exchange. -/
theorem classified_swap {rows rows' : List CaseComparison} {k k' : Classification}
    (hrows : ∀ row ∈ rows, WellClassified row) (hrows' : ∀ row ∈ rows', WellClassified row)
    (h : List.Forall₂ CaseExchanged rows rows')
    (hk : ∀ base cand, classify cand base = k' ↔ classify base cand = k) :
    (rows'.filter (·.classification = k')).map (·.caseId) =
      (rows.filter (·.classification = k)).map (·.caseId) := by
  induction h with
  | nil => rfl
  | @cons row row' rows rows' hrow _ ih =>
    obtain ⟨hclass, hrest⟩ := List.forall_mem_cons.mp hrows
    obtain ⟨hclass', hrest'⟩ := List.forall_mem_cons.mp hrows'
    have hsame : row'.classification = k' ↔ row.classification = k := by
      have hclass' : row'.classification = _ := hclass'
      have hclass : row.classification = _ := hclass
      rw [hclass', hclass, hrow.baseline, hrow.candidate]
      exact hk _ _
    have ih := ih hrest hrest'
    rw [List.filter_cons, List.filter_cons]
    by_cases hmem : row.classification = k
    · rw [if_pos (by simpa using hsame.mpr hmem), if_pos (by simpa using hmem), List.map_cons,
        List.map_cons, ih, hrow.caseId]
    · rw [if_neg (by simpa using fun h => hmem (hsame.mp h)), if_neg (by simpa using hmem), ih]

/-- The slices of exchanged comparisons are exchanged. -/
theorem compareSlice_swap {group group' : String × List CaseComparison}
    (h : Dict.EntryRel (List.Forall₂ CaseExchanged) group group') :
    SliceExchanged (compareSlice group) (compareSlice group') := by
  obtain ⟨hname, hrows⟩ := h
  have hlength : group.2.length = group'.2.length := hrows.length_eq
  -- exchanged rows pass on the other side
  have hcount : group'.2.countP (·.baselinePassed) = group.2.countP (·.candidatePassed) ∧
      group'.2.countP (·.candidatePassed) = group.2.countP (·.baselinePassed) := by
    revert hrows
    generalize group.2 = rows
    generalize group'.2 = rows'
    intro hrows
    induction hrows with
    | nil => exact ⟨rfl, rfl⟩
    | cons hrow _ ih =>
      simp only [List.countP_cons, ih.1, ih.2, hrow.baseline, hrow.candidate, and_self]
  have hbase : passRate (·.baselinePassed) group'.2 = passRate (·.candidatePassed) group.2 := by
    unfold passRate
    rw [hcount.1, hlength]
  have hcand : passRate (·.candidatePassed) group'.2 = passRate (·.baselinePassed) group.2 := by
    unfold passRate
    rw [hcount.2, hlength]
  refine ⟨hname.symm, ?_, ?_, ?_, ?_⟩
  · show (group'.2.length : Int) = group.2.length
    rw [hlength]
  · show Float64.finite _ = Float64.finite _
    rw [hbase]
  · show Float64.finite _ = Float64.finite _
    rw [hcand]
  · show Float64.finite (_ - _) = Float64.finite (-(_ - _))
    rw [hbase, hcand, neg_sub]

/-- **Exchanging the runs exchanges the comparison**, wherever the runs agree on the slices of their
    shared cases. -/
theorem exchanged_compareRuns (resample : Nat → List Int → List Int)
    (h : SharedSlicesAgree baseline candidate) :
    Exchanged (compareRuns resample baseline candidate)
      (compareRuns resample candidate baseline) := by
  have hrows := rows_swap h
  have hcases : List.Forall₂ CaseExchanged
      ((pairs baseline candidate).map (compareCase baseline candidate))
      ((pairs candidate baseline).map (compareCase candidate baseline)) :=
    hrows.imp fun _ _ hrow => hrow.2
  have hclass : ∀ baseline candidate : EvaluationRun,
      ∀ row ∈ (pairs baseline candidate).map (compareCase baseline candidate),
        WellClassified row := by
    intro baseline candidate row hrow
    obtain ⟨pair, -, rfl⟩ := List.mem_map.mp hrow
    rfl
  have hswap : ∀ {k k' : Classification},
      (∀ base cand, classify cand base = k' ↔ classify base cand = k) →
      (((pairs candidate baseline).map (compareCase candidate baseline)).filter
          (·.classification = k')).map (·.caseId) =
        (((pairs baseline candidate).map (compareCase baseline candidate)).filter
          (·.classification = k)).map (·.caseId) :=
    fun hk => classified_swap (hclass baseline candidate) (hclass candidate baseline) hcases hk
  have hkeep : ∀ k : Classification, (∀ base cand, classify cand base = k ↔ classify base cand = k) →
      ((((pairs candidate baseline).map (compareCase candidate baseline)).filter
          (·.classification = k)).length : Int) =
        (((pairs baseline candidate).map (compareCase baseline candidate)).filter
          (·.classification = k)).length := by
    intro k hk
    have hlength := congrArg List.length (hswap hk)
    rw [List.length_map, List.length_map] at hlength
    exact congrArg Int.ofNat hlength
  refine ⟨hswap (by decide), hswap (by decide), hkeep _ (by decide), hkeep _ (by decide),
    unsharedKeys_comm, ?_, runMetricDeltas_swap baseline candidate, ?_, hcases⟩
  · show Float64.finite (aggregateDelta ((pairs candidate baseline).map passDelta)) =
      Float64.finite (-aggregateDelta ((pairs baseline candidate).map passDelta))
    rw [← aggregateDelta_neg, pairs_swap baseline candidate, List.map_map, List.map_map]
    exact congrArg (fun deltas => Float64.finite (aggregateDelta deltas))
      (List.map_congr_left fun pair _ => passDelta_swap pair)
  · -- the same groups, in the same order of names
    refine List.rel_map (R := Dict.EntryRel (List.Forall₂ CaseExchanged)) ?_ ?_
    · intro group group' hgroup
      exact compareSlice_swap hgroup
    · refine forall₂_insertionSort ?_ (Dict.rel_groupBy
        (hrows.imp fun _ _ hrow => ⟨hrow.1.symm, hrow.2⟩))
      rintro a b a' b' ⟨hab, -⟩ ⟨hab', -⟩
      rw [hab, hab']

/-- **Paired comparison accounting.**  The comparison of any two runs accounts for every paired
    case, and comparing them the other way round exchanges it. -/
theorem comparison_accounted (resample : Nat → List Int → List Int)
    (baseline candidate : EvaluationRun) :
    Accounted (pairedIds baseline candidate) (compareRuns resample baseline candidate) ∧
      (SharedSlicesAgree baseline candidate →
        Exchanged (compareRuns resample baseline candidate)
          (compareRuns resample candidate baseline)) :=
  ⟨accounted_compareRuns resample baseline candidate, exchanged_compareRuns resample⟩

/-! ### Two runs -/

/-- The slice of a case, by its id. -/
def sampleSlice (caseId : String) : String :=
  if caseId = "SEC-01" ∨ caseId = "SEC-02" then "security_sensitive" else "edge_case"

/-- The outcome of a case. -/
def sampleOutcome (outcome : String × Bool) : CaseResult :=
  { sampleResult outcome.2 with
    case := { caseId := outcome.1, slice := sampleSlice outcome.1, bugKind := "divide" } }

def sampleOutcomes (agentVersion : String) (outcomes : List (String × Bool)) : EvaluationRun :=
  ⟨0, agentVersion, outcomes.map sampleOutcome⟩

def sampleBaseline : EvaluationRun := sampleOutcomes "baseline"
  [("SEC-01", true), ("SEC-02", false), ("EDGE-01", true), ("EDGE-02", false), ("EDGE-03", true)]

def sampleCandidate : EvaluationRun := sampleOutcomes "candidate"
  [("SEC-02", true), ("SEC-01", false), ("EDGE-02", false), ("EDGE-01", true), ("EDGE-04", true)]

/-- Whatever cases two such runs have, a shared one is in one slice. -/
theorem sharedSlicesAgree_sample (v v' : String) {outcomes outcomes' : List (String × Bool)}
    (h : (outcomes.map Prod.fst).Nodup) (h' : (outcomes'.map Prod.fst).Nodup) :
    SharedSlicesAgree (sampleOutcomes v outcomes) (sampleOutcomes v' outcomes') := by
  have hslice (v : String) {outcomes : List (String × Bool)} (h : (outcomes.map Prod.fst).Nodup)
      {id : String} {result : CaseResult}
      (hget : (sampleOutcomes v outcomes).byId.get id = some result) :
      result.case.slice = sampleSlice id := by
    have hitems : (sampleOutcomes v outcomes).byId.items =
        outcomes.map fun outcome => (outcome.1, sampleOutcome outcome) := by
      unfold EvaluationRun.byId sampleOutcomes
      rw [List.map_map]
      refine Dict.ofPairs_items ?_
      rw [List.map_map]
      exact h
    have hmem := Dict.mem_of_get hget
    rw [hitems] at hmem
    obtain ⟨outcome, -, heq⟩ := List.mem_map.mp hmem
    cases heq
    rfl
  intro id b c hb hc
  rw [hslice v h hb, hslice v' h' hc]

/-- One case improved, one regressed and two unchanged, in two slices, and one case on each side
    that the other run does not have. -/
theorem comparison_accounted_sample :
    Exchanged (compareRuns (fun _ ds => ds) sampleBaseline sampleCandidate)
        (compareRuns (fun _ ds => ds) sampleCandidate sampleBaseline) ∧
      (compareRuns (fun _ ds => ds) sampleBaseline sampleCandidate).improvedCases = ["SEC-02"] ∧
      (compareRuns (fun _ ds => ds) sampleBaseline sampleCandidate).regressedCases = ["SEC-01"] ∧
      (compareRuns (fun _ ds => ds) sampleBaseline sampleCandidate).unchangedPasses = 1 ∧
      (compareRuns (fun _ ds => ds) sampleBaseline sampleCandidate).unchangedFailures = 1 ∧
      (compareRuns (fun _ ds => ds) sampleBaseline sampleCandidate).missingPairs =
        ["EDGE-03", "EDGE-04"] ∧
      (compareRuns (fun _ ds => ds) sampleBaseline sampleCandidate).sliceComparisons.length = 2 := by
  have hagree : SharedSlicesAgree sampleBaseline sampleCandidate :=
    sharedSlicesAgree_sample "baseline" "candidate" (by decide) (by decide)
  exact ⟨(comparison_accounted _ _ _).2 hagree, by decide +kernel⟩

end AEControl.Evaluation
