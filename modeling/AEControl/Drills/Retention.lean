/-
  Which drills a run keeps.

  A run prunes before it creates: of the `n` drills that are listed it removes the
  `n + 1 - max_failed_drills` oldest, so that at most `max_failed_drills - 1` are left beside its
  own.  The bound is `drills_le`.  A drill is safe while fewer than `max_failed_drills - 1` drills
  are younger than it (`not_mem_pruned`), and a run adds one at most: `kept_step` counts that.

  Structure of the proof:
  1. what a deletion does, by what the API answers: accepted, it removes the cluster or the job of
     its name and nothing else (`mem_deleteCluster`, `not_mem_deleteCluster` and their siblings);
  2. the pruning loop passes over the oldest drills and stops at the first deletion that is refused
     (`passed_pruneLoop`); if none is, all of them are gone (`pruneLoop_of_accepted`);
  3. **the inversion lemma**, `course`: every run takes one of the courses of `run`, each with what
     it asks to delete.  What a run spares, keeps and removes is read off it (`spared_of_course`,
     `kept_of_failed`, `gone_of_succeeded`);
  4. `Valid` and `Timely` say that names and times of drills are distinct, in the namespace and of
     the drills to come; a run keeps that (`valid_step`);
  5. `kept_run` follows a failed drill along the later runs by induction, and `retention` is the
     four parts of the policy together.
-/
import AEControl.Lib.Runs
import AEControl.Drills.Orchestrator

namespace AEControl.Drills

/-! ## Removing the oldest of a list -/

section oldest

variable {α : Type*} {key : α → String} {l : List α} {n k : ℕ}

/-- An element with at most `k` after it is not among the first, if more than `k` come after
    those. -/
theorem not_mem_take_of_few_later {x : α} (hl : l.Pairwise fun a b => key a < key b)
    (hx : (l.filter fun y => decide (key x < key y)).length ≤ k) (hn : n = 0 ∨ k < l.length - n) :
    x ∉ l.take n := by
  intro hmem
  rcases hn with rfl | hn
  · simp at hmem
  have hall : ∀ y ∈ l.drop n, key x < key y := by
    rw [← List.take_append_drop n l, List.pairwise_append] at hl
    exact fun y hy => hl.2.2 x hmem y hy
  have hlater : (l.drop n).length ≤ (l.filter fun y => decide (key x < key y)).length := by
    rw [← List.filter_eq_self.mpr fun y hy => decide_eq_true (hall y hy)]
    exact ((List.drop_sublist n l).filter _).length_le
  rw [List.length_drop] at hlater
  omega

end oldest

/-! ## Names -/

/-- A drill's job is that drill's only. -/
theorem jobName_injective : Function.Injective jobName :=
  fun _ _ h => (String.append_left_inj _).mp h

variable (o : RecoveryDrillOrchestrator)

/-- The name of a drill is a Kubernetes name. -/
theorem isDnsLabel_drillId {a : Answers} (h : isNonce a.nonce = true) :
    Promotion.isDnsLabel (drillId o a) = true := by
  obtain ⟨hlen, hdigits⟩ := (o.strftime a.startedAt).property
  unfold isNonce at h
  rw [Bool.and_eq_true, decide_eq_true_eq] at h
  obtain ⟨hsix, hnonce⟩ := h
  have hlabel : ∀ c : Char, (c.isLower || c.isDigit) = true → Promotion.isLabelChar c = true := by
    intro c hc
    unfold Promotion.isLabelChar
    rw [hc, Bool.true_or]
  obtain ⟨init, last, heq⟩ : ∃ init last, a.nonce.toList = init ++ [last] := by
    refine ⟨a.nonce.toList.dropLast, a.nonce.toList.getLast ?_,
      (List.dropLast_concat_getLast _).symm⟩
    exact List.ne_nil_of_length_pos (by omega)
  have hlast : last ≠ '-' := by
    rintro rfl
    rw [heq, List.all_append] at hnonce
    exact absurd hnonce (by simp)
  -- a fixed head, fourteen digits, a hyphen and the nonce
  have hlist : (drillId o a).toList =
      "aecontrol-drill-".toList ++ (o.strftime a.startedAt).val.toList ++ "-".toList ++
        a.nonce.toList := by
    unfold drillId
    rw [String.toList_append, String.toList_append, String.toList_append]
  have hall : (drillId o a).toList.all Promotion.isLabelChar = true := by
    rw [hlist, List.all_append, List.all_append, List.all_append, Bool.and_eq_true,
      Bool.and_eq_true, Bool.and_eq_true]
    refine ⟨⟨⟨by decide, ?_⟩, by decide⟩, ?_⟩
    · rw [List.all_eq_true] at hdigits ⊢
      exact fun c hc => hlabel c (by rw [hdigits c hc, Bool.or_true])
    · rw [List.all_eq_true] at hnonce ⊢
      exact fun c hc => hlabel c (hnonce c hc)
  have hsize : (drillId o a).toList.length = 37 := by
    rw [hlist]
    simp only [List.length_append, hlen, hsix]
    decide
  have hhead : (drillId o a).toList.head? = some 'a' := by
    rw [hlist]
    rfl
  have htail : (drillId o a).toList.getLast? = some last := by
    rw [hlist, heq, ← List.append_assoc]
    exact List.getLast?_concat
  unfold Promotion.isDnsLabel
  simp only [hsize, hall, hhead, htail, Bool.and_eq_true, decide_eq_true_eq]
  refine ⟨⟨⟨⟨by omega, by omega⟩, trivial⟩, by decide⟩, ?_⟩
  exact fun h => hlast (Option.some.inj h)

/-! ## Pruning -/

/-- The requests that remove a cluster: its job first. -/
def removal (c : Cluster) : List Deletion := [.job (jobName c.name), .cluster c.name]

/-- What a pass over `cs` leaves. -/
structure Passed (cs : List Cluster) (w : Namespace) (p : Pruning) : Prop where
  requests : p.requests <+: cs.flatMap removal
  clusters : p.space.clusters.Sublist w.clusters
  spared : ∀ c ∈ w.clusters, c.name ∉ cs.map Cluster.name → c ∈ p.space.clusters
  jobs : ∀ j ∈ w.jobs, j ∉ cs.map (fun c => jobName c.name) → j ∈ p.space.jobs
  gone : p.raised = none → ∀ c ∈ p.space.clusters, c.name ∉ cs.map Cluster.name

section
variable {w : Namespace} {name : String} {reply : Reply}

/-- A deletion removes clusters and adds none. -/
theorem deleteCluster_sublist : (w.deleteCluster name reply).clusters.Sublist w.clusters := by
  unfold Namespace.deleteCluster
  split
  · exact List.filter_sublist
  · exact List.Sublist.refl _

/-- A deletion removes no cluster of another name. -/
theorem mem_deleteCluster {c : Cluster} (hc : c ∈ w.clusters) (hne : c.name ≠ name) :
    c ∈ (w.deleteCluster name reply).clusters := by
  unfold Namespace.deleteCluster
  split
  · exact List.mem_filter.mpr ⟨hc, decide_eq_true hne⟩
  · exact hc

/-- A deletion removes no job of another name. -/
theorem mem_deleteJob {j : String} (hj : j ∈ w.jobs) (hne : j ≠ name) :
    j ∈ (w.deleteJob name reply).jobs := by
  unfold Namespace.deleteJob
  split
  · exact List.mem_filter.mpr ⟨hj, decide_eq_true hne⟩
  · exact hj

@[simp] theorem clusters_deleteJob : (w.deleteJob name reply).clusters = w.clusters := by
  unfold Namespace.deleteJob
  split <;> rfl

@[simp] theorem jobs_deleteCluster : (w.deleteCluster name reply).jobs = w.jobs := by
  unfold Namespace.deleteCluster
  split <;> rfl

/-- A request that does not raise has taken effect. -/
theorem takesEffect_of_raised (h : reply.raised = none) : reply.takesEffect = true := by
  cases reply with
  | accepted => rfl
  | refused e => exact absurd h (by rintro ⟨⟩)
  | lost e => rfl

/-- An accepted deletion removes the cluster of its name. -/
theorem not_mem_deleteCluster (h : reply.raised = none) {c : Cluster}
    (hc : c ∈ (w.deleteCluster name reply).clusters) : c.name ≠ name := by
  unfold Namespace.deleteCluster at hc
  rw [if_pos (takesEffect_of_raised h)] at hc
  exact of_decide_eq_true (List.mem_filter.mp hc).2

/-- An accepted deletion removes the job of its name. -/
theorem not_mem_deleteJob (h : reply.raised = none) : name ∉ (w.deleteJob name reply).jobs := by
  unfold Namespace.deleteJob
  rw [if_pos (takesEffect_of_raised h)]
  exact fun hj => of_decide_eq_true (List.mem_filter.mp hj).2 rfl

end

/-- One pass, over clusters with valid names. -/
theorem passed_pruneLoop (a : Answers) {cs : List Cluster}
    (hcs : ∀ c ∈ cs, Promotion.isDnsLabel c.name = true) (w : Namespace) :
    Passed cs w (pruneLoop a cs w) := by
  induction cs generalizing w with
  | nil =>
    exact ⟨List.nil_prefix, List.Sublist.refl _, fun c hc _ => hc, fun j hj _ => hj,
      fun _ c _ => List.not_mem_nil⟩
  | cons c cs ih =>
    have hname : Promotion.isDnsLabel c.name = true := hcs c List.mem_cons_self
    have ih := ih (fun d hd => hcs d (List.mem_cons_of_mem _ hd))
    unfold pruneLoop
    rw [hname]
    simp only [Bool.not_true, Bool.false_eq_true, if_false]
    -- a request that raises ends the loop, whether it took effect or not
    cases hjob : (a.pruneJob c.name).raised with
    | some e =>
      refine ⟨⟨_, rfl⟩, ?_, ?_, ?_, nofun⟩
      · rw [clusters_deleteJob]
      · intro d hd _
        rwa [clusters_deleteJob]
      · intro j hj hne
        exact mem_deleteJob hj (fun h => hne (by rw [h]; exact List.mem_cons_self))
    | none =>
      cases hcluster : (a.pruneCluster c.name).raised with
      | some e =>
        refine ⟨⟨_, rfl⟩, ?_, ?_, ?_, nofun⟩
        · exact deleteCluster_sublist.trans (by rw [clusters_deleteJob])
        · intro d hd hne
          refine mem_deleteCluster (by rwa [clusters_deleteJob]) fun h => hne ?_
          rw [h]
          exact List.mem_cons_self
        · intro j hj hne
          rw [jobs_deleteCluster]
          exact mem_deleteJob hj (fun h => hne (by rw [h]; exact List.mem_cons_self))
      | none =>
        have pass := ih (((w.deleteJob (jobName c.name) (a.pruneJob c.name))).deleteCluster c.name
          (a.pruneCluster c.name))
        refine ⟨?_, ?_, ?_, ?_, ?_⟩
        · exact (List.prefix_append_right_inj (removal c)).mpr pass.requests
        · exact (pass.clusters.trans deleteCluster_sublist).trans (by rw [clusters_deleteJob])
        · intro d hd hne
          rw [List.map_cons, List.mem_cons, not_or] at hne
          exact pass.spared d (mem_deleteCluster (by rwa [clusters_deleteJob]) hne.1) hne.2
        · intro j hj hne
          rw [List.map_cons, List.mem_cons, not_or] at hne
          refine pass.jobs j ?_ hne.2
          rw [jobs_deleteCluster]
          exact mem_deleteJob hj hne.1
        · intro hraised d hd
          rw [List.map_cons, List.mem_cons, not_or]
          exact ⟨not_mem_deleteCluster hcluster (pass.clusters.subset hd), pass.gone hraised d hd⟩

/-! ## The namespace between runs -/

/-- Names are unique, those of drills are Kubernetes names, and no two drills are of one time. -/
structure Valid (w : Namespace) : Prop where
  unique : (w.clusters.map Cluster.name).Nodup
  labels : ∀ c ∈ w.drills, Promotion.isDnsLabel c.name = true
  distinct : (w.drills.map Cluster.created).Nodup

/-- The time a run's cluster is created at is later than those of the drills there are. -/
def Timely (w : Namespace) (a : Answers) : Prop := ∀ c ∈ w.drills, c.created < a.created

section
variable {o} {w : Namespace} {a : Answers}

/-- Sorting the drills drops none. -/
theorem ordered_perm (w : Namespace) : (ordered w).Perm w.drills := List.perm_insertionSort _ _

/-- The sorted drills are the drills. -/
theorem mem_ordered {c : Cluster} : c ∈ ordered w ↔ c ∈ w.drills := (ordered_perm w).mem_iff

/-- The oldest come first. -/
theorem ordered_pairwise (h : Valid w) :
    (ordered w).Pairwise fun c d => c.created < d.created := by
  have hle : (ordered w).Pairwise fun c d => c.created ≤ d.created := by
    have : Std.Total fun c d : Cluster => c.created ≤ d.created := ⟨fun c d => le_total _ _⟩
    have : IsTrans Cluster fun c d => c.created ≤ d.created := ⟨fun c d e => le_trans⟩
    exact List.pairwise_insertionSort _ _
  have hne : (ordered w).Pairwise fun c d => c.created ≠ d.created :=
    List.pairwise_map.mp (((ordered_perm w).map Cluster.created).nodup_iff.mpr h.distinct)
  exact (hle.and hne).imp fun hcd => lt_of_le_of_ne hcd.1 hcd.2

/-- Only drills are pruned. -/
theorem mem_pruned {c : Cluster} (hc : c ∈ pruned o w) : c ∈ w.drills :=
  mem_ordered.mp (List.mem_of_mem_take hc)

/-- Every drill is a cluster. -/
theorem drills_subset {c : Cluster} (hc : c ∈ w.drills) : c ∈ w.clusters :=
  (List.mem_filter.mp hc).1

/-- In a namespace a name is one cluster. -/
theorem eq_of_name {l : List Cluster} (hl : (l.map Cluster.name).Nodup) {c d : Cluster}
    (hc : c ∈ l) (hd : d ∈ l) (h : c.name = d.name) : c = d :=
  List.inj_on_of_nodup_map hl hc hd h

/-- The pruning of a run is a pass over the oldest drills. -/
theorem passed_pruneFailedDrills (h : Valid w) (a : Answers) :
    Passed (pruned o w) w (pruneFailedDrills o w a) := by
  unfold pruneFailedDrills
  split
  · exact ⟨List.nil_prefix, List.Sublist.refl _, fun c hc _ => hc, fun j hj _ => hj, nofun⟩
  · exact passed_pruneLoop a (fun c hc => h.labels c (mem_pruned hc)) w

/-- A pass whose deletions are all accepted completes. -/
theorem pruneLoop_of_accepted {cs : List Cluster} (h : ∀ c ∈ cs,
    a.pruneJob c.name = .accepted ∧ a.pruneCluster c.name = .accepted) (w : Namespace) :
    (pruneLoop a cs w).raised = none := by
  induction cs generalizing w with
  | nil => rfl
  | cons c cs ih =>
    obtain ⟨⟨hjob, hcluster⟩, hrest⟩ := List.forall_mem_cons.mp h
    unfold pruneLoop
    split
    · exact ih hrest w
    · rw [hjob, hcluster]
      exact ih hrest _

/-- Whether the drills are more than allowed or not, a pruning completes if its deletions are
    accepted. -/
theorem pruneFailedDrills_of_accepted (hlist : a.list = none) (h : ∀ c ∈ pruned o w,
    a.pruneJob c.name = .accepted ∧ a.pruneCluster c.name = .accepted) :
    (pruneFailedDrills o w a).raised = none := by
  unfold pruneFailedDrills
  rw [hlist]
  exact pruneLoop_of_accepted h w

/-- A completed pruning leaves room for one more. -/
theorem drills_lt_of_pruned (h : Valid w) (hp : (pruneFailedDrills o w a).raised = none) :
    (pruneFailedDrills o w a).space.drills.length < o.configuration.maxFailedDrills := by
  have pass := passed_pruneFailedDrills (o := o) h a
  have hnodup : (pruneFailedDrills o w a).space.drills.Nodup :=
    (List.Nodup.of_map _ (h.distinct)).sublist (pass.clusters.filter _)
  have hsub : (pruneFailedDrills o w a).space.drills ⊆
      (ordered w).drop ((ordered w).length + 1 - o.configuration.maxFailedDrills) := by
    intro c hc
    have hmem : c ∈ ordered w := mem_ordered.mpr ((pass.clusters.filter _).subset hc)
    rw [← List.take_append_drop ((ordered w).length + 1 - o.configuration.maxFailedDrills)
      (ordered w), List.mem_append] at hmem
    refine hmem.resolve_left fun htake => ?_
    exact pass.gone hp c (drills_subset hc) (List.mem_map_of_mem htake)
  have hle := (hnodup.subperm hsub).length_le
  have := o.configuration.maxFailedDrills_range
  rw [List.length_drop] at hle
  omega

/-- The drills of `w` that are younger than `c`. -/
def younger (w : Namespace) (c : Cluster) : List Cluster :=
  w.drills.filter fun d => decide (c.created < d.created)

/-- A drill with few younger ones is not pruned. -/
theorem not_mem_pruned (h : Valid w) {c : Cluster}
    (hc : (younger w c).length + 2 ≤ o.configuration.maxFailedDrills) : c ∉ pruned o w := by
  refine not_mem_take_of_few_later (k := (younger w c).length) (ordered_pairwise h) ?_ ?_
  · exact ((ordered_perm w).filter _).length_eq.le
  · omega

/-- Nothing pruned has the name of a drill with few younger ones. -/
theorem name_not_mem_pruned (h : Valid w) {c : Cluster} (hmem : c ∈ w.drills)
    (hc : (younger w c).length + 2 ≤ o.configuration.maxFailedDrills) :
    c.name ∉ (pruned o w).map Cluster.name := by
  rintro hname
  obtain ⟨d, hd, heq⟩ := List.mem_map.mp hname
  have hdc : d = c :=
    eq_of_name h.unique (drills_subset (mem_pruned hd)) (drills_subset hmem) heq
  exact not_mem_pruned h hc (hdc ▸ hd)

end

/-! ## The courses of a run -/

/-- The namespace with the cluster of a run. -/
def withOwn (w : Namespace) (a : Answers) : Namespace :=
  { w with clusters := w.clusters ++ [ownCluster o a] }

/-- No cluster has the name of the run's. -/
def Fresh (w : Namespace) (a : Answers) : Prop := ∀ c ∈ w.clusters, c.name ≠ drillId o a

/-- How a run can go, and what it leaves. -/
inductive Course (w : Namespace) (a : Answers) : DrillRun → Prop
  | invalid (e : DrillError) : isNonce a.nonce = false → Course w a ⟨w, [], .error (.nonce, e)⟩
  | pruning (p : Pruning) (e : DrillError) : isNonce a.nonce = true →
      pruneFailedDrills o w a = p → p.raised = some e →
      Course w a ⟨p.space, p.requests, .error (.prune, e)⟩
  | refused (p : Pruning) (e : DrillError) : isNonce a.nonce = true →
      pruneFailedDrills o w a = p → p.raised = none →
      Course w a ⟨p.space, p.requests, .error (.create, e)⟩
  | lost (p : Pruning) (e : DrillError) : isNonce a.nonce = true →
      pruneFailedDrills o w a = p → p.raised = none → Fresh o p.space a →
      Course w a ⟨withOwn o p.space a, p.requests, .error (.create, e)⟩
  | failed (p : Pruning) (space : Namespace) (failure : Stage × DrillError) :
      isNonce a.nonce = true → pruneFailedDrills o w a = p → p.raised = none →
      Fresh o p.space a → attempt o (withOwn o p.space a) a = (space, some failure) →
      Course w a ⟨space, p.requests, .error failure⟩
  | verified (p : Pruning) (space : Namespace) :
      isNonce a.nonce = true → pruneFailedDrills o w a = p → p.raised = none →
      Fresh o p.space a → attempt o (withOwn o p.space a) a = (space, none) →
      Course w a (cleanup o space a p.requests)

/-- **Every run takes one of the courses**: the branches of `run`, each with what it asks to delete.
    -/
theorem course (w : Namespace) (a : Answers) : Course o w a (run o w a) := by
  unfold run
  cases hnonce : isNonce a.nonce with
  | false => exact .invalid _ hnonce
  | true =>
    simp only [Bool.not_true, Bool.false_eq_true, if_false]
    cases hraised : (pruneFailedDrills o w a).raised with
    | some e => exact .pruning _ e hnonce rfl hraised
    | none =>
      unfold createCluster
      by_cases htaken : ((pruneFailedDrills o w a).space.clusters.any
          fun c => c.name = (ownCluster o a).name) = true
      · rw [if_pos htaken]
        exact .refused _ _ hnonce rfl hraised
      rw [if_neg htaken]
      have hfresh : Fresh o (pruneFailedDrills o w a).space a := by
        intro c hc hname
        exact htaken (List.any_eq_true.mpr ⟨c, hc, decide_eq_true hname⟩)
      cases hcreate : a.create with
      | refused e => exact .refused _ e hnonce rfl hraised
      | lost e => exact .lost _ e hnonce rfl hraised hfresh
      | accepted =>
        simp only [Reply.takesEffect, Reply.raised, if_true]
        split
        · rename_i heq
          exact .failed _ _ _ hnonce rfl hraised hfresh heq
        · rename_i heq
          exact .verified _ _ hnonce rfl hraised hfresh heq

/-- What the `try` block does to the namespace. -/
structure Attempted (w : Namespace) (a : Answers)
    (result : Namespace × Option (Stage × DrillError)) : Prop where
  clusters : result.1.clusters = w.clusters
  jobs : ∀ j ∈ w.jobs, j ∈ result.1.jobs
  stage : ∀ s e, result.2 = some (s, e) → s = .restore ∨
    s = .verify ∧ (a.createJob.takesEffect = true → jobName (drillId o a) ∈ result.1.jobs)
  created : result.2 = none → jobName (drillId o a) ∉ w.jobs

/-- The attempt creates its cluster and its job, or fails before it has. -/
theorem attempted (w : Namespace) (a : Answers) : Attempted o w a (attempt o w a) := by
  unfold attempt
  split
  · refine ⟨rfl, fun _ hj => hj, ?_, nofun⟩
    rintro s e ⟨⟩
    exact .inl rfl
  unfold createJob
  by_cases htaken : w.jobs.contains (jobName (drillId o a)) = true
  · rw [if_pos htaken]
    refine ⟨rfl, fun _ hj => hj, ?_, nofun⟩
    rintro s e ⟨⟩
    exact .inr ⟨rfl, fun _ => List.contains_iff_mem.mp htaken⟩
  rw [if_neg htaken]
  have hnew : jobName (drillId o a) ∉ w.jobs := fun h => htaken (List.contains_iff_mem.mpr h)
  have hmem : jobName (drillId o a) ∈ w.jobs ++ [jobName (drillId o a)] :=
    List.mem_append_right _ List.mem_cons_self
  cases hcreate : a.createJob with
  | refused e =>
    refine ⟨rfl, fun _ hj => hj, ?_, nofun⟩
    rintro s e ⟨⟩
    refine .inr ⟨rfl, fun heffect => ?_⟩
    rw [hcreate] at heffect
    exact absurd heffect Bool.false_ne_true
  | lost e =>
    refine ⟨rfl, fun _ hj => List.mem_append_left _ hj, ?_, nofun⟩
    rintro s e ⟨⟩
    exact .inr ⟨rfl, fun _ => hmem⟩
  | accepted =>
    simp only [Reply.takesEffect, Reply.raised, if_true]
    split
    · refine ⟨rfl, fun _ hj => List.mem_append_left _ hj, ?_, nofun⟩
      rintro s e ⟨⟩
      exact .inr ⟨rfl, fun _ => hmem⟩
    · exact ⟨rfl, fun _ hj => List.mem_append_left _ hj, nofun, fun _ => hnew⟩

/-- What the end of a run leaves. -/
structure CleanedUp (w : Namespace) (a : Answers) (requests : List Deletion) (r : DrillRun) :
    Prop where
  requests : ∃ sent, r.requests = requests ++ sent ∧ sent <+: removal (ownCluster o a)
  clusters : r.space.clusters.Sublist w.clusters
  spared : ∀ c ∈ w.clusters, c.name ≠ drillId o a → c ∈ r.space.clusters
  jobs : ∀ j ∈ w.jobs, j ≠ jobName (drillId o a) → j ∈ r.space.jobs
  stage : ∀ s e, r.result = .error (s, e) → s = .cleanup
  gone : ∀ outcome, r.result = .ok outcome →
    (∀ c ∈ r.space.clusters, c.name ≠ drillId o a) ∧ jobName (drillId o a) ∉ r.space.jobs

/-- The clean-up asks for both to be deleted, by success or failure. -/
theorem cleanedUp (w : Namespace) (a : Answers) (requests : List Deletion) :
    CleanedUp o w a requests (cleanup o w a requests) := by
  unfold cleanup
  cases hjob : a.deleteJob.raised with
  | some e =>
    refine ⟨⟨_, rfl, _, rfl⟩, ?_, ?_, fun j hj hne => mem_deleteJob hj hne, ?_, nofun⟩
    · rw [clusters_deleteJob]
    · intro c hc _
      rwa [clusters_deleteJob]
    · rintro s e ⟨⟩
      rfl
  | none =>
    have hspared : ∀ c ∈ w.clusters, c.name ≠ drillId o a →
        c ∈ ((w.deleteJob (jobName (drillId o a)) a.deleteJob).deleteCluster (drillId o a)
          a.deleteCluster).clusters :=
      fun c hc hne => mem_deleteCluster (by rwa [clusters_deleteJob]) hne
    have hjobs : ∀ j ∈ w.jobs, j ≠ jobName (drillId o a) →
        j ∈ ((w.deleteJob (jobName (drillId o a)) a.deleteJob).deleteCluster (drillId o a)
          a.deleteCluster).jobs := by
      intro j hj hne
      rw [jobs_deleteCluster]
      exact mem_deleteJob hj hne
    have hsub := (@deleteCluster_sublist (w.deleteJob (jobName (drillId o a)) a.deleteJob)
      (drillId o a) a.deleteCluster).trans (by rw [clusters_deleteJob])
    cases hcluster : a.deleteCluster.raised with
    | some e =>
      refine ⟨⟨_, rfl, _, rfl⟩, hsub, hspared, hjobs, ?_, nofun⟩
      rintro s e ⟨⟩
      rfl
    | none =>
      refine ⟨⟨_, rfl, List.prefix_rfl⟩, hsub, hspared, hjobs, nofun, fun _ _ => ⟨?_, ?_⟩⟩
      · exact fun c hc => not_mem_deleteCluster hcluster hc
      · rw [jobs_deleteCluster]
        exact not_mem_deleteJob hjob

/-! ## What a run does -/

section
variable {o} {w : Namespace} {a : Answers} {r : DrillRun}

/-- The clusters after a run: those the pruning left, and its own beside them. -/
theorem clusters_of_course (h : Course o w a r) :
    isNonce a.nonce = false ∧ r.space.clusters = w.clusters ∨ isNonce a.nonce = true ∧
      (r.space.clusters.Sublist (pruneFailedDrills o w a).space.clusters ∨
        Fresh o (pruneFailedDrills o w a).space a ∧ r.space.clusters.Sublist
          ((pruneFailedDrills o w a).space.clusters ++ [ownCluster o a])) := by
  cases h with
  | invalid e hn => exact .inl ⟨hn, rfl⟩
  | pruning p e hn hp hr => exact .inr ⟨hn, .inl (hp ▸ List.Sublist.refl _)⟩
  | refused p e hn hp hr => exact .inr ⟨hn, .inl (hp ▸ List.Sublist.refl _)⟩
  | lost p e hn hp hr hf => exact .inr ⟨hn, .inr ⟨hp ▸ hf, hp ▸ List.Sublist.refl _⟩⟩
  | failed p space failure hn hp hr hf hatt =>
    have att := attempted o (withOwn o p.space a) a
    rw [hatt] at att
    refine .inr ⟨hn, .inr ⟨hp ▸ hf, ?_⟩⟩
    rw [hp, att.clusters]
    exact List.Sublist.refl _
  | verified p space hn hp hr hf hatt =>
    have att := attempted o (withOwn o p.space a) a
    rw [hatt] at att
    refine .inr ⟨hn, .inr ⟨hp ▸ hf, ?_⟩⟩
    rw [hp]
    exact (cleanedUp o space a p.requests).clusters.trans (by rw [att.clusters]; rfl)

/-- The requests of a run: those of the pruning, then those for its own cluster and job. -/
theorem requests_of_course (h : Course o w a r) :
    r.requests = [] ∨ r.requests = (pruneFailedDrills o w a).requests ∨
      Fresh o (pruneFailedDrills o w a).space a ∧
        ∃ sent, r.requests = (pruneFailedDrills o w a).requests ++ sent ∧
          sent <+: removal (ownCluster o a) := by
  cases h with
  | invalid e hn => exact .inl rfl
  | pruning p e hn hp hr => exact .inr (.inl (by rw [hp]))
  | refused p e hn hp hr => exact .inr (.inl (by rw [hp]))
  | lost p e hn hp hr hf => exact .inr (.inl (by rw [hp]))
  | failed p space failure hn hp hr hf hatt => exact .inr (.inl (by rw [hp]))
  | verified p space hn hp hr hf hatt =>
    rw [hp]
    exact .inr (.inr ⟨hf, (cleanedUp o space a p.requests).requests⟩)

/-- A cluster that is not pruned stays, and a job that is not of a pruned one. -/
theorem spared_of_course (hv : Valid w) (h : Course o w a r) :
    (∀ c ∈ w.clusters, c.name ∉ (pruned o w).map Cluster.name → c ∈ r.space.clusters) ∧
      ∀ j ∈ w.jobs, j ∉ (pruned o w).map (fun c => jobName c.name) → j ∈ r.space.jobs := by
  have pass := passed_pruneFailedDrills (o := o) hv a
  cases h with
  | invalid e hn => exact ⟨fun c hc _ => hc, fun j hj _ => hj⟩
  | pruning p e hn hp hr => exact hp ▸ ⟨pass.spared, pass.jobs⟩
  | refused p e hn hp hr => exact hp ▸ ⟨pass.spared, pass.jobs⟩
  | lost p e hn hp hr hf =>
    rw [hp] at pass
    exact ⟨fun c hc hne => List.mem_append_left _ (pass.spared c hc hne), pass.jobs⟩
  | failed p space failure hn hp hr hf hatt =>
    have att := attempted o (withOwn o p.space a) a
    rw [hatt] at att
    rw [hp] at pass
    refine ⟨fun c hc hne => ?_, fun j hj hne => att.jobs j (pass.jobs j hj hne)⟩
    rw [att.clusters]
    exact List.mem_append_left _ (pass.spared c hc hne)
  | verified p space hn hp hr hf hatt =>
    have att := attempted o (withOwn o p.space a) a
    rw [hatt] at att
    rw [hp] at pass
    have clean := cleanedUp o space a p.requests
    refine ⟨fun c hc hne => ?_, fun j hj hne => ?_⟩
    · have hkept := pass.spared c hc hne
      refine clean.spared c ?_ (hf c hkept)
      rw [att.clusters]
      exact List.mem_append_left _ hkept
    · have hkept := pass.jobs j hj hne
      exact clean.jobs j (att.jobs j hkept) fun heq => att.created rfl (heq ▸ hkept)

/-- No request names a cluster that is not pruned, nor its job. -/
theorem not_requested_of_course (hv : Valid w) (h : Course o w a r) {c : Cluster}
    (hc : c ∈ w.clusters) (hne : c.name ∉ (pruned o w).map Cluster.name) :
    .cluster c.name ∉ r.requests ∧ .job (jobName c.name) ∉ r.requests := by
  have pass := passed_pruneFailedDrills (o := o) hv a
  have hprune : ∀ d ∈ pruned o w, .cluster c.name ∉ removal d ∧
      .job (jobName c.name) ∉ removal d := by
    intro d hd
    have hdc : c.name ≠ d.name := fun heq => hne (List.mem_map.mpr ⟨d, hd, heq.symm⟩)
    have hjob : jobName c.name ≠ jobName d.name := fun heq => hdc (jobName_injective heq)
    simp [removal, hdc, hjob]
  have hpruned : .cluster c.name ∉ (pruneFailedDrills o w a).requests ∧
      .job (jobName c.name) ∉ (pruneFailedDrills o w a).requests := by
    constructor
    · intro hmem
      obtain ⟨d, hd, hin⟩ := List.mem_flatMap.mp (pass.requests.subset hmem)
      exact (hprune d hd).1 hin
    · intro hmem
      obtain ⟨d, hd, hin⟩ := List.mem_flatMap.mp (pass.requests.subset hmem)
      exact (hprune d hd).2 hin
  rcases requests_of_course h with hr | hr | ⟨hfresh, sent, hr, hsent⟩
  · rw [hr]
    exact ⟨List.not_mem_nil, List.not_mem_nil⟩
  · rwa [hr]
  · have hown : c.name ≠ drillId o a := hfresh c (pass.spared c hc hne)
    have hjob : jobName c.name ≠ jobName (drillId o a) := fun heq => hown (jobName_injective heq)
    rw [hr, List.mem_append, List.mem_append, not_or, not_or]
    refine ⟨⟨hpruned.1, fun hmem => ?_⟩, hpruned.2, fun hmem => ?_⟩
    · exact absurd (hsent.subset hmem) (by simp [removal, ownCluster, hown])
    · exact absurd (hsent.subset hmem) (by simp [removal, ownCluster, hjob])

/-- A run that fails in the restore or the verification sends no request of its own, and leaves its
    cluster, and its job if that was created. -/
theorem kept_of_failed (h : Course o w a r) {s : Stage} {e : DrillError}
    (hr : r.result = .error (s, e)) (hs : s = .restore ∨ s = .verify) :
    r.requests = (pruneFailedDrills o w a).requests ∧ ownCluster o a ∈ r.space.clusters ∧
      (s = .verify → a.createJob.takesEffect = true → jobName (drillId o a) ∈ r.space.jobs) := by
  have hstage : s ≠ .nonce ∧ s ≠ .prune ∧ s ≠ .create ∧ s ≠ .cleanup := by
    rcases hs with rfl | rfl <;> exact ⟨nofun, nofun, nofun, nofun⟩
  cases h with
  | invalid e hn => cases hr; exact absurd rfl hstage.1
  | pruning p e hn hp hraised => cases hr; exact absurd rfl hstage.2.1
  | refused p e hn hp hraised => cases hr; exact absurd rfl hstage.2.2.1
  | lost p e hn hp hraised hf => cases hr; exact absurd rfl hstage.2.2.1
  | failed p space failure hn hp hraised hf hatt =>
    have att := attempted o (withOwn o p.space a) a
    rw [hatt] at att
    cases hr
    refine ⟨by rw [hp], ?_, fun hverify heffect => ?_⟩
    · rw [att.clusters]
      exact List.mem_append_right _ List.mem_cons_self
    · rcases att.stage _ _ rfl with hrestore | ⟨-, hjob⟩
      · exact absurd (hrestore.symm.trans hverify) nofun
      · exact hjob heffect
  | verified p space hn hp hraised hf hatt =>
    exact absurd ((cleanedUp o space a p.requests).stage s e hr) hstage.2.2.2

/-- A run that succeeds leaves neither its cluster nor its job. -/
theorem gone_of_succeeded (h : Course o w a r) {outcome : RecoveryDrillOutcome}
    (hr : r.result = .ok outcome) :
    (∀ c ∈ r.space.clusters, c.name ≠ drillId o a) ∧ jobName (drillId o a) ∉ r.space.jobs := by
  cases h with
  | invalid e hn => cases hr
  | pruning p e hn hp hraised => cases hr
  | refused p e hn hp hraised => cases hr
  | lost p e hn hp hraised hf => cases hr
  | failed p space failure hn hp hraised hf hatt => cases hr
  | verified p space hn hp hraised hf hatt =>
    exact (cleanedUp o space a p.requests).gone outcome hr

end

/-! ## From run to run -/

section
variable {o} {w : Namespace} {a : Answers}

/-- The run's own cluster is a drill, the newest one. -/
theorem drills_append_own (l : List Cluster) (a : Answers) :
    (l ++ [ownCluster o a]).filter Cluster.drill = l.filter Cluster.drill ++ [ownCluster o a] := by
  rw [List.filter_append]
  rfl

/-- The clusters after a run are some of those before it, and perhaps one with a new name. -/
theorem clusters_step (hv : Valid w) :
    (step o w a).clusters.Sublist w.clusters ∨ isNonce a.nonce = true ∧
      ∃ q : List Cluster, q.Sublist w.clusters ∧ (∀ c ∈ q, c.name ≠ drillId o a) ∧
        (step o w a).clusters.Sublist (q ++ [ownCluster o a]) := by
  have pass := passed_pruneFailedDrills (o := o) hv a
  rcases clusters_of_course (course o w a) with ⟨-, h⟩ | ⟨hn, h | ⟨hf, h⟩⟩
  · exact .inl (by unfold step; rw [h])
  · exact .inl (h.trans pass.clusters)
  · exact .inr ⟨hn, _, pass.clusters, hf, h⟩

/-- A run keeps the namespace valid. -/
theorem valid_step (hv : Valid w) (ht : Timely w a) : Valid (step o w a) := by
  rcases clusters_step (o := o) (a := a) hv with h | ⟨hn, q, hq, hfresh, h⟩
  · have hd := h.filter Cluster.drill
    exact ⟨hv.unique.sublist (h.map _), fun c hc => hv.labels c (hd.subset hc),
      hv.distinct.sublist (hd.map _)⟩
  · have hd := h.filter Cluster.drill
    rw [drills_append_own] at hd
    have hqd := hq.filter Cluster.drill
    refine ⟨List.Nodup.sublist (h.map _) ?_, fun c hc => ?_, List.Nodup.sublist (hd.map _) ?_⟩
    · rw [List.map_append, List.nodup_append]
      refine ⟨hv.unique.sublist (hq.map _), List.nodup_singleton _, ?_⟩
      rintro _ hx _ hy rfl
      obtain ⟨c, hc, hcname⟩ := List.mem_map.mp hx
      exact hfresh c hc (hcname.trans (List.mem_singleton.mp hy))
    · rcases List.mem_append.mp (hd.subset hc) with hc | hc
      · exact hv.labels c (hqd.subset hc)
      · rw [List.mem_singleton.mp hc]
        exact isDnsLabel_drillId o hn
    · rw [List.map_append, List.nodup_append]
      refine ⟨hv.distinct.sublist (hqd.map _), List.nodup_singleton _, ?_⟩
      rintro _ hx _ hy rfl
      obtain ⟨c, hc, hctime⟩ := List.mem_map.mp hx
      exact absurd (hctime.trans (List.mem_singleton.mp hy)) (ht c (hqd.subset hc)).ne

/-- **The bound.**  After a run whose pruning completed there are at most `max_failed_drills`. -/
theorem drills_le (hv : Valid w) (hn : isNonce a.nonce = true)
    (hp : (pruneFailedDrills o w a).raised = none) :
    (step o w a).drills.length ≤ o.configuration.maxFailedDrills := by
  have hlt := drills_lt_of_pruned hv hp
  rcases clusters_of_course (course o w a) with ⟨hinvalid, -⟩ | ⟨-, h | ⟨-, h⟩⟩
  · rw [hn] at hinvalid
    exact absurd hinvalid nofun
  · exact (h.filter Cluster.drill).length_le.trans hlt.le
  · have hd := (h.filter Cluster.drill).length_le
    rw [drills_append_own, List.length_append] at hd
    exact hd.trans hlt

/-- `c` is a drill with at most `k` younger ones. -/
def Kept (w : Namespace) (c : Cluster) (k : ℕ) : Prop := c ∈ w.drills ∧ (younger w c).length ≤ k

/-- A run leaves a drill with few younger ones, and makes one more at most. -/
theorem kept_step (hv : Valid w) {c : Cluster} {k : ℕ} (hc : Kept w c k)
    (hk : k + 2 ≤ o.configuration.maxFailedDrills) : Kept (step o w a) c (k + 1) := by
  obtain ⟨hmem, hyounger⟩ := hc
  have hne := name_not_mem_pruned hv hmem (Nat.le_trans (Nat.add_le_add_right hyounger 2) hk)
  refine ⟨?_, ?_⟩
  · exact List.mem_filter.mpr ⟨(spared_of_course hv (course o w a)).1 c (drills_subset hmem) hne,
      (List.mem_filter.mp hmem).2⟩
  · have hlen : (younger (step o w a) c).length ≤ (younger w c).length + 1 := by
      rcases clusters_step (o := o) (a := a) hv with h | ⟨hn, q, hq, hfresh, h⟩
      · exact Nat.le_succ_of_le ((h.filter _).filter _).length_le
      · have hd := (h.filter Cluster.drill).filter fun d => decide (c.created < d.created)
        rw [drills_append_own, List.filter_append] at hd
        have hqd := (hq.filter Cluster.drill).filter fun d => decide (c.created < d.created)
        have hone := List.length_filter_le (fun d => decide (c.created < d.created))
          [ownCluster o a]
        have hlen := hd.length_le
        have hqlen := hqd.length_le
        rw [List.length_append] at hlen
        simp only [List.length_singleton] at hone
        unfold younger Namespace.drills step at *
        omega
    omega

/-- After a run that fails in the restore or the verification its cluster is the youngest drill. -/
theorem kept_own (hv : Valid w) (ht : Timely w a) {s : Stage} {e : DrillError}
    (hr : (run o w a).result = .error (s, e)) (hs : s = .restore ∨ s = .verify) :
    Kept (step o w a) (ownCluster o a) 0 := by
  have hown := (kept_of_failed (course o w a) hr hs).2.1
  refine ⟨List.mem_filter.mpr ⟨hown, rfl⟩, Nat.le_of_eq ?_⟩
  refine List.length_eq_zero_iff.mpr (List.filter_eq_nil_iff.mpr fun d hd hyounger => ?_)
  have hyounger : a.created < d.created := of_decide_eq_true hyounger
  have hold : d ∈ w.drills ∨ d = ownCluster o a := by
    rcases clusters_step (o := o) (a := a) hv with h | ⟨hn, q, hq, hfresh, h⟩
    · exact .inl ((h.filter Cluster.drill).subset hd)
    · have hmem := (h.filter Cluster.drill).subset hd
      rw [drills_append_own, List.mem_append, List.mem_singleton] at hmem
      exact hmem.imp (fun h => (hq.filter Cluster.drill).subset h) id
  rcases hold with hold | rfl
  · exact lt_asymm hyounger (ht d hold)
  · exact lt_irrefl _ hyounger

/-- A valid namespace stays valid over runs that create in time. -/
theorem valid_run (hv : Valid w) {as : List Answers} (ht : Runs.Along (step o) Timely w as) :
    Valid (Runs.run (step o) w as) := by
  refine Runs.Throughout.last (Runs.throughout_of_along (step o) (fun _ => True)
    (fun _ _ _ => trivial) (fun _ _ _ hv ht => valid_step hv ht) trivial hv ht)

/-- A drill outlasts as many runs as there are drills that may be younger. -/
theorem kept_run (hv : Valid w) {c : Cluster} {k : ℕ} (hc : Kept w c k) {as : List Answers}
    (ht : Runs.Along (step o) Timely w as)
    (hk : k + as.length + 1 ≤ o.configuration.maxFailedDrills) :
    Kept (Runs.run (step o) w as) c (k + as.length) := by
  induction as generalizing w k with
  | nil => exact hc
  | cons a as ih =>
    rw [List.length_cons] at hk ⊢
    have hnext := ih (valid_step hv ht.1) (kept_step hv hc (by omega)) ht.2 (by omega)
    rwa [Nat.add_right_comm] at hnext

end

/-- A run sends no request for a cluster or its job, and leaves them. -/
structure Spares (w : Namespace) (a : Answers) (c : Cluster) : Prop where
  cluster_not_requested : .cluster c.name ∉ (run o w a).requests
  job_not_requested : .job (jobName c.name) ∉ (run o w a).requests
  cluster : c ∈ (step o w a).clusters
  job : jobName c.name ∈ w.jobs → jobName c.name ∈ (step o w a).jobs

/-- A drill that is kept with few younger ones is spared by the next run. -/
theorem spares_of_kept {o : RecoveryDrillOrchestrator} {w : Namespace} {a : Answers} {c : Cluster}
    {k : ℕ} (hv : Valid w) (hc : Kept w c k) (hk : k + 2 ≤ o.configuration.maxFailedDrills) :
    Spares o w a c := by
  obtain ⟨hmem, hyounger⟩ := hc
  have hne := name_not_mem_pruned hv hmem (Nat.le_trans (Nat.add_le_add_right hyounger 2) hk)
  have hjob : jobName c.name ∉ (pruned o w).map fun d => jobName d.name := by
    intro hj
    obtain ⟨d, hd, heq⟩ := List.mem_map.mp hj
    exact hne (List.mem_map.mpr ⟨d, hd, jobName_injective heq⟩)
  have hspared := spared_of_course hv (course o w a)
  have hrequests := not_requested_of_course hv (course o w a) (drills_subset hmem) hne
  exact ⟨hrequests.1, hrequests.2, hspared.1 c (drills_subset hmem) hne,
    fun hj => hspared.2 _ hj hjob⟩

/-- Retention.  In any sequence of runs, a run whose pruning completes leaves at most
    `max_failed_drills` drills; one that fails in the restore or the verification removes nothing
    of its own, and the next `max_failed_drills - 1` runs spare it; one that succeeds leaves
    nothing of its own; and what the pruning removes are listed drills, the oldest first. -/
theorem retention {w : Namespace} (hw : Valid w) (before : List Answers) (a : Answers)
    (after : List Answers) (ht : Runs.Along (step o) Timely w (before ++ a :: after)) :
    let s := Runs.run (step o) w before
    (isNonce a.nonce = true → (pruneFailedDrills o s a).raised = none →
      (step o s a).drills.length ≤ o.configuration.maxFailedDrills) ∧
    (∀ stage e, (run o s a).result = .error (stage, e) → stage = .restore ∨ stage = .verify →
      (run o s a).requests = (pruneFailedDrills o s a).requests ∧
      ownCluster o a ∈ (step o s a).clusters ∧
      (stage = .verify → a.createJob.takesEffect = true →
        jobName (drillId o a) ∈ (step o s a).jobs) ∧
      ∀ between b later, after = between ++ b :: later →
        between.length < o.configuration.maxFailedDrills - 1 →
        Spares o (Runs.run (step o) (step o s a) between) b (ownCluster o a)) ∧
    (∀ outcome, (run o s a).result = .ok outcome →
      (∀ c ∈ (step o s a).clusters, c.name ≠ drillId o a) ∧
      jobName (drillId o a) ∉ (step o s a).jobs) ∧
    (ordered s).Perm s.drills ∧ ((ordered s).Pairwise fun c d => c.created < d.created) ∧
      (pruneFailedDrills o s a).requests <+: (ordered s).flatMap removal := by
  intro s
  obtain ⟨hbefore, hta, hafter⟩ := Runs.along_append.mp ht
  have hv : Valid s := valid_run hw hbefore
  refine ⟨drills_le hv, fun stage e hr hstage => ?_, fun outcome hr => ?_, ordered_perm s,
    ordered_pairwise hv, ?_⟩
  · obtain ⟨hrequests, hcluster, hjob⟩ := kept_of_failed (course o s a) hr hstage
    refine ⟨hrequests, hcluster, hjob, fun between b later hsplit hlength => ?_⟩
    rw [hsplit] at hafter
    have hbetween := (Runs.along_append.mp hafter).1
    have hkept := kept_run (valid_step hv hta) (kept_own hv hta hr hstage) hbetween (by omega)
    exact spares_of_kept (valid_run (valid_step hv hta) hbetween) hkept (by omega)
  · exact gone_of_succeeded (course o s a) hr
  · have pass := passed_pruneFailedDrills (o := o) hv a
    refine pass.requests.trans ?_
    conv_rhs => rw [← List.take_append_drop
      ((ordered s).length + 1 - o.configuration.maxFailedDrills) (ordered s), List.flatMap_append]
    exact List.prefix_append _ _

/-! ### Three runs -/

theorem sampleDigits_valid : "20260714040000".toList.length = 14 ∧
    "20260714040000".toList.all Char.isDigit = true := by
  decide

def sampleConfiguration : RecoveryDrillConfiguration where
  clusterTimeoutSeconds := 3600
  verificationTimeoutSeconds := 1800
  maxFailedDrills := 2
  clusterTimeout_range := by omega
  verificationTimeout_range := by omega
  maxFailedDrills_range := by omega

def sampleOrchestrator : RecoveryDrillOrchestrator where
  configuration := sampleConfiguration
  strftime := fun _ => ⟨"20260714040000", sampleDigits_valid⟩
  intOfText := fun _ => .error (.other "invalid literal for int() with base 10")
  intOfFloat := fun _ => .error (.other "cannot convert float NaN to integer")

/-- The answer of a poll: a condition that is true, and how many pods have succeeded. -/
def sampleTurn (condition : String) (succeeded : ℤ) : Turn :=
  ⟨1, .ok [("status", .obj [("succeeded", .int succeeded),
    ("conditions", .arr [.obj [("type", .str condition), ("status", .str "True")]])])]⟩

/-- A run whose requests are all accepted, and whose cluster is polled with these answers. -/
def sampleAnswers (nonce created : String) (clusterTurns : List Turn) : Answers where
  startedAt := 0
  completedAt := 60000000
  nonce := nonce
  list := none
  pruneJob := fun _ => .accepted
  pruneCluster := fun _ => .accepted
  create := .accepted
  created := created
  clusterStart := 0
  clusterTurns := clusterTurns
  createJob := .accepted
  jobStart := 0
  jobTurns := [sampleTurn "Complete" 0, sampleTurn "Complete" 1]
  deleteJob := .accepted
  deleteCluster := .accepted

/-- The cluster becomes ready at the second poll, and the verification succeeds. -/
def sampleSuccess : Answers :=
  sampleAnswers "abc123" "4" [sampleTurn "Progressing" 0, sampleTurn "Ready" 0]

/-- The cluster never becomes ready. -/
def sampleFailure : Answers := sampleAnswers "abc124" "5" [sampleTurn "Progressing" 0]

def sampleNext : Answers := sampleAnswers "abc125" "6" [sampleTurn "Ready" 0]

/-- One failed drill more than are kept, and the verification job of the oldest. -/
def sampleNamespace : Namespace :=
  ⟨[⟨"older", "1", true⟩, ⟨"old", "2", true⟩, ⟨"recent", "3", true⟩], ["older-verify"]⟩

/-- The drills of the sample namespace have distinct names and times. -/
theorem sampleNamespace_valid : Valid sampleNamespace := by
  refine ⟨by decide, ?_, by decide⟩
  decide +kernel

/-- A run that succeeds prunes the two oldest drills; it, and the run after it that fails in the
    restore, keep the bound; and the next run spares the failed drill. -/
theorem retention_sample :
    let s := step sampleOrchestrator sampleNamespace sampleSuccess
    s.drills.length ≤ 2 ∧ (∀ c ∈ s.clusters, c.name ≠ drillId sampleOrchestrator sampleSuccess) ∧
      (step sampleOrchestrator s sampleFailure).drills.length ≤ 2 ∧
      Spares sampleOrchestrator (step sampleOrchestrator s sampleFailure) sampleNext
        (ownCluster sampleOrchestrator sampleFailure) := by
  intro s
  have haccepted (w : Namespace) (nonce created : String) (turns : List Turn) :
      (pruneFailedDrills sampleOrchestrator w (sampleAnswers nonce created turns)).raised = none :=
    pruneFailedDrills_of_accepted rfl fun _ _ => ⟨rfl, rfl⟩
  have htimely : Runs.Along (step sampleOrchestrator) Timely sampleNamespace
      [sampleSuccess, sampleFailure, sampleNext] := by
    refine ⟨?_, ?_, ?_, trivial⟩ <;> unfold Timely <;> decide +kernel
  obtain ⟨hbound, -, hgone, -⟩ := retention sampleOrchestrator sampleNamespace_valid []
    sampleSuccess [sampleFailure, sampleNext] htimely
  obtain ⟨hbound', hkept, -⟩ := retention sampleOrchestrator sampleNamespace_valid [sampleSuccess]
    sampleFailure [sampleNext] htimely
  have hsucceeds : (run sampleOrchestrator sampleNamespace sampleSuccess).result =
      .ok (outcomeOf sampleOrchestrator sampleSuccess) := by with_unfolding_all rfl
  have hfails : (run sampleOrchestrator s sampleFailure).result =
      .error (.restore, .recoveryDrill "recovery cluster readiness timed out") := by
    with_unfolding_all rfl
  exact ⟨hbound (by decide) (haccepted _ _ _ _), (hgone _ hsucceeds).1,
    hbound' (by decide) (haccepted _ _ _ _),
    (hkept .restore _ hfails (.inl rfl)).2.2.2 [] _ [] rfl (by decide)⟩

end AEControl.Drills
