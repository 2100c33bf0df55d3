/-
  The API calls of one Kubernetes test, in order (`kubernetes_sandbox.py`): what each answers, what
  each does to the cluster, and what `run_test` and `_cleanup` make of the answers.

  `Sandbox.lean` models a test by the results of these calls (`KubernetesExecution`); here a call
  is its answer, an error may hide a request that took effect, and the job's deletion is followed
  by its confirmations.  `toExecution` reads the results off, and `trace` is the sequence of calls
  that are made for them.

  The network policy is to outlive the candidate.  It does up to the cleanup, which goes on to
  delete the policy also when the job's deletion failed: `denialKept_iff` says for every pattern of
  answers whether the candidate was ever left without it.

  Structure of the proof:
  1. `DenialKept`: in every state of the cluster along the trace, a job is only there together with
     the policy that denies it everything (`networkPolicy_deniesAll`);
  2. up to the cleanup the policy is there (`UnderPolicy`, `underPolicy_throughout`), for the job is
     created behind it and nothing before the cleanup deletes either;
  3. in the cleanup the job goes first.  **The crux**, `denied_after_cleanup`: what follows is
     denied exactly if the deletion of the job was confirmed (`DeletionConfirmed`), or the deletion
     of the policy has no effect either;
  4. `denied_throughout_iff` and `denialKept_iff` put the two together, the latter also for tests
     that never attempted to create a job.
-/
import AEControl.Lib.Runs
import AEControl.Models
import AEControl.Evaluation.Sandbox

namespace AEControl.Evaluation

/-! ## Answers of the Kubernetes API -/

/-- The answer to a create or delete call: success, an `ApiException` with its status, or another
    exception.  `applied` tells whether a request that was answered by an error took effect. -/
inductive ApiAnswer where
  | ok
  | apiError (status : Option Nat) (applied : Bool)
  | otherError (applied : Bool)
  deriving DecidableEq

/-- The request took effect. -/
def ApiAnswer.applied : ApiAnswer → Bool
  | .ok => true
  | .apiError _ applied => applied
  | .otherError applied => applied

/-- `getattr(error, 'status', 'unknown')` of an `ApiException`. -/
def statusText : Option Nat → String
  | some status => toString status
  | none => "None"

/-- The answer is an `ApiException` with status 404. -/
def ApiAnswer.absent : ApiAnswer → Bool
  | .apiError status _ => status = some 404
  | _ => false

/-- `OfficialKubernetesSandboxAPI._call`. -/
def ApiAnswer.call (operation : String) : ApiAnswer → Except String Unit
  | .ok => .ok ()
  | .apiError status _ => .error (operation ++ " failed with HTTP " ++ statusText status)
  | .otherError _ => .error (operation ++ " request failed")

/-- `OfficialKubernetesSandboxAPI._delete`: an absent object counts as deleted. -/
def ApiAnswer.delete (operation : String) : ApiAnswer → Except String Unit
  | .ok => .ok ()
  | .apiError status _ =>
    if status = some 404 then .ok ()
    else .error (operation ++ " failed with HTTP " ++ statusText status)
  | .otherError _ => .error (operation ++ " request failed")

/-- The answer to `read_namespaced_job`. -/
inductive ReadAnswer where
  | found
  | apiError (status : Option Nat)
  | otherError
  deriving DecidableEq

/-- The confirmation loop of `delete_job`, over the reads that fall before its deadline. -/
def confirmDeletion : List ReadAnswer → Except String Unit
  | [] => .error "Kubernetes sandbox Job deletion did not complete"
  | .found :: reads => confirmDeletion reads
  | .apiError status :: _ =>
    if status = some 404 then .ok ()
    else .error ("verify sandbox Job deletion failed with HTTP " ++ statusText status)
  | .otherError :: _ => .error "verify sandbox Job deletion request failed"

/-- `OfficialKubernetesSandboxAPI.delete_job`. -/
def deleteJob (answer : ApiAnswer) (reads : List ReadAnswer) : Except String Unit :=
  match answer with
  | .ok => confirmDeletion reads
  | .apiError status _ =>
    if status = some 404 then .ok ()
    else .error ("delete sandbox Job failed with HTTP " ++ statusText status)
  | .otherError _ => .error "delete sandbox Job request failed"

/-- Every API answer of one `run_test`. -/
structure KubernetesScript where
  createConfigMap : ApiAnswer
  createNetworkPolicy : ApiAnswer
  createJob : ApiAnswer
  polls : List JobSnapshot
  deleteJob : ApiAnswer
  confirmations : List ReadAnswer
  deleteNetworkPolicy : ApiAnswer
  deleteConfigMap : ApiAnswer

/-- What the executor sees of the answers. -/
def KubernetesScript.toExecution (x : KubernetesScript) : KubernetesExecution where
  createConfigMap := x.createConfigMap.call "create sandbox ConfigMap"
  createNetworkPolicy := x.createNetworkPolicy.call "create sandbox NetworkPolicy"
  createJob := x.createJob.call "create sandbox Job"
  polls := x.polls
  deleteJob := Evaluation.deleteJob x.deleteJob x.confirmations
  deleteNetworkPolicy := x.deleteNetworkPolicy.delete "delete sandbox NetworkPolicy"
  deleteConfigMap := x.deleteConfigMap.delete "delete sandbox ConfigMap"

/-! ## Manifests -/

/-- The labels of `run_test`; `runId` is `uuid4().hex`. -/
def sandboxLabels (runId : String) : Labels :=
  [("app.kubernetes.io/name", "aecontrol-sandbox"), ("aecontrol.dev/run-id", runId)]

/-- The specification of a NetworkPolicy; its rules are peers to be allowed. -/
structure NetworkPolicy where
  podSelector : Labels
  policyTypes : List String
  ingress : List String
  egress : List String

/-- `KubernetesJobTestExecutor._network_policy`. -/
def networkPolicy (runId : String) : NetworkPolicy :=
  ⟨[("aecontrol.dev/run-id", runId)], ["Ingress", "Egress"], [], []⟩

/-- The policy selects pods with these labels and allows them no traffic. -/
def NetworkPolicy.DeniesAll (policy : NetworkPolicy) (podLabels : Labels) : Prop :=
  podLabels.contain policy.podSelector = true ∧ "Ingress" ∈ policy.policyTypes ∧
    "Egress" ∈ policy.policyTypes ∧ policy.ingress = [] ∧ policy.egress = []

/-- The policy of a run denies all traffic to the pods of its Job, whose template carries the
    run's labels. -/
theorem networkPolicy_deniesAll (runId : String) :
    (networkPolicy runId).DeniesAll (sandboxLabels runId) := by
  have hlookup : (sandboxLabels runId).lookup "aecontrol.dev/run-id" = some runId := rfl
  refine ⟨?_, by simp [networkPolicy], by simp [networkPolicy], rfl, rfl⟩
  simp [networkPolicy, Labels.contain, hlookup]

/-! ## The calls and their effects -/

/-- A call with its answer. -/
inductive ApiCall where
  | createConfigMap (answer : ApiAnswer)
  | createNetworkPolicy (policy : NetworkPolicy) (answer : ApiAnswer)
  | createJob (podLabels : Labels) (answer : ApiAnswer)
  | poll (snapshot : JobSnapshot)
  | deleteJob (answer : ApiAnswer)
  | readJob (answer : ReadAnswer)
  | deleteNetworkPolicy (answer : ApiAnswer)
  | deleteConfigMap (answer : ApiAnswer)

/-- What matters of the cluster: the pod labels of the Job once its creation was attempted, whether
    its deletion was confirmed since, and the policy. -/
structure SandboxCluster where
  job : Option Labels := none
  jobDeleted : Bool := false
  policy : Option NetworkPolicy := none

/-- The effect of one call. -/
def SandboxCluster.step (c : SandboxCluster) : ApiCall → SandboxCluster
  | .createNetworkPolicy policy answer =>
    if answer.applied then { c with policy := some policy } else c
  | .createJob podLabels _ => { c with job := some podLabels, jobDeleted := false }
  | .deleteJob answer => if answer.absent then { c with jobDeleted := true } else c
  | .readJob answer => if answer = .apiError (some 404) then { c with jobDeleted := true } else c
  | .deleteNetworkPolicy answer => if answer.applied then { c with policy := none } else c
  | _ => c

/-- A candidate that may be running is under a policy that denies it all traffic. -/
def SandboxCluster.Denied (c : SandboxCluster) : Prop :=
  ∀ podLabels, c.job = some podLabels → c.jobDeleted = false →
    ∃ policy, c.policy = some policy ∧ policy.DeniesAll podLabels

/-! ## The calls of one test -/

/-- The polls up to the first outcome or error. -/
def pollCalls : List JobSnapshot → List ApiCall
  | [] => []
  | s :: polls =>
    .poll s :: match jobOutcome s with
      | .ok none => pollCalls polls
      | _ => []

/-- The calls of the `try` block. -/
def bodyCalls (runId : String) (x : KubernetesScript) : List ApiCall :=
  .createConfigMap x.createConfigMap :: match x.toExecution.createConfigMap with
    | .error _ => []
    | .ok () =>
      .createNetworkPolicy (networkPolicy runId) x.createNetworkPolicy ::
        match x.toExecution.createNetworkPolicy with
        | .error _ => []
        | .ok () =>
          .createJob (sandboxLabels runId) x.createJob :: match x.toExecution.createJob with
            | .error _ => []
            | .ok () => pollCalls x.polls

/-- The reads of the confirmation loop, up to the first error. -/
def confirmCalls : List ReadAnswer → List ApiCall
  | [] => []
  | .found :: reads => .readJob .found :: confirmCalls reads
  | read :: _ => [.readJob read]

/-- The calls of `delete_job`. -/
def deleteJobCalls (answer : ApiAnswer) (reads : List ReadAnswer) : List ApiCall :=
  .deleteJob answer :: match answer with
    | .ok => confirmCalls reads
    | _ => []

/-- The calls of `_cleanup`: each attempted resource is deleted, whatever the others answered. -/
def cleanupCalls (x : KubernetesScript) (attempted : List String) : List ApiCall :=
  (if attempted.contains "job" then deleteJobCalls x.deleteJob x.confirmations else []) ++
  (if attempted.contains "network_policy" then [.deleteNetworkPolicy x.deleteNetworkPolicy]
    else []) ++
  (if attempted.contains "config_map" then [.deleteConfigMap x.deleteConfigMap] else [])

/-- The calls of `run_test`. -/
def trace (maxOutputBytes : Nat) (runId : String) (x : KubernetesScript) : List ApiCall :=
  bodyCalls runId x ++ cleanupCalls x (runKubernetesJob maxOutputBytes x.toExecution).2

/-! ## What is asked of the calls -/

/-- The policy outlives the candidate, and a Job that may exist is deleted. -/
structure DenialKept (maxOutputBytes : Nat) (runId : String) (x : KubernetesScript) : Prop where
  denied : ∀ before after, trace maxOutputBytes runId x = before ++ after →
    (Runs.run SandboxCluster.step {} before).Denied
  deleted : (∃ podLabels answer, .createJob podLabels answer ∈ trace maxOutputBytes runId x) →
    ∃ answer, .deleteJob answer ∈ trace maxOutputBytes runId x

/-- The creation of the Job is attempted: the calls before it succeeded. -/
def JobAttempted (x : KubernetesScript) : Prop :=
  x.createConfigMap = .ok ∧ x.createNetworkPolicy = .ok

/-- A read answers 404 after reads that found the Job. -/
def ReadsAbsent (reads : List ReadAnswer) : Prop :=
  ∃ n rest, reads = List.replicate n .found ++ .apiError (some 404) :: rest

/-- The Job's deletion is confirmed: the delete call answers 404, or succeeds and the Job is read
    as absent before the deadline and before any other error. -/
def DeletionConfirmed (x : KubernetesScript) : Prop :=
  (∃ applied, x.deleteJob = .apiError (some 404) applied) ∨
    (x.deleteJob = .ok ∧ ReadsAbsent x.confirmations)

/-! ## Deleting the Job -/

theorem readsAbsent_found {reads : List ReadAnswer} :
    ReadsAbsent (.found :: reads) ↔ ReadsAbsent reads := by
  constructor
  · rintro ⟨n, rest, h⟩
    cases n with
    | zero => cases h
    | succ n => exact ⟨n, rest, (List.cons.inj h).2⟩
  · rintro ⟨n, rest, rfl⟩
    exact ⟨n + 1, rest, rfl⟩

theorem readsAbsent_error {read : ReadAnswer} {reads : List ReadAnswer} (hread : read ≠ .found) :
    ReadsAbsent (read :: reads) ↔ read = .apiError (some 404) := by
  constructor
  · rintro ⟨n, rest, h⟩
    cases n with
    | zero => exact (List.cons.inj h).1
    | succ n => exact absurd (List.cons.inj h).1 hread
  · rintro rfl
    exact ⟨0, reads, rfl⟩

/-- The confirming reads change nothing but whether the deletion is confirmed. -/
theorem run_confirmCalls (reads : List ReadAnswer) (c : SandboxCluster) :
    (ReadsAbsent reads ∧
      Runs.run SandboxCluster.step c (confirmCalls reads) = { c with jobDeleted := true }) ∨
    (¬ ReadsAbsent reads ∧ Runs.run SandboxCluster.step c (confirmCalls reads) = c) := by
  induction reads with
  | nil =>
    refine Or.inr ⟨?_, rfl⟩
    rintro ⟨n, rest, h⟩
    exact absurd h.symm (List.append_ne_nil_of_right_ne_nil _ (List.cons_ne_nil _ _))
  | cons read reads ih =>
    cases read with
    | found =>
      rw [readsAbsent_found]
      exact ih
    | apiError status =>
      rw [readsAbsent_error (by simp)]
      by_cases hstatus : status = some 404
      · exact Or.inl ⟨by rw [hstatus], if_pos (by rw [hstatus])⟩
      · exact Or.inr ⟨by simpa using hstatus, if_neg (by simpa using hstatus)⟩
    | otherError =>
      rw [readsAbsent_error (by simp)]
      exact Or.inr ⟨by simp, rfl⟩

/-- After `delete_job` the Job counts as gone exactly when its deletion is confirmed. -/
theorem run_deleteJobCalls (x : KubernetesScript) (c : SandboxCluster) :
    (DeletionConfirmed x ∧ Runs.run SandboxCluster.step c
      (deleteJobCalls x.deleteJob x.confirmations) = { c with jobDeleted := true }) ∨
    (¬ DeletionConfirmed x ∧ Runs.run SandboxCluster.step c
      (deleteJobCalls x.deleteJob x.confirmations) = c) := by
  unfold deleteJobCalls DeletionConfirmed
  cases x.deleteJob with
  | ok =>
    have hstep : c.step (.deleteJob .ok) = c := rfl
    simpa [hstep] using run_confirmCalls x.confirmations c
  | apiError status applied =>
    by_cases hstatus : status = some 404
    · exact Or.inl ⟨Or.inl ⟨applied, by rw [hstatus]⟩, if_pos (decide_eq_true hstatus)⟩
    · exact Or.inr ⟨by simpa using hstatus, if_neg (by simpa [ApiAnswer.absent] using hstatus)⟩
  | otherError applied => exact Or.inr ⟨by simp, rfl⟩

/-! ## Before the Job -/

/-- The polls of a test, whatever they answer. -/
def PollsOnly (calls : List ApiCall) : Prop := ∀ call ∈ calls, ∃ s, call = .poll s

theorem pollCalls_pollsOnly (polls : List JobSnapshot) : PollsOnly (pollCalls polls) := by
  induction polls with
  | nil => exact fun _ h => absurd h List.not_mem_nil
  | cons s polls ih =>
    intro call hcall
    unfold pollCalls at hcall
    rcases List.mem_cons.mp hcall with rfl | hcall
    · exact ⟨s, rfl⟩
    · split at hcall
      · exact ih call hcall
      · exact absurd hcall List.not_mem_nil

/-- Where the Job's creation is attempted, the test makes these calls. -/
theorem trace_of_attempted (maxOutputBytes : Nat) (runId : String) {x : KubernetesScript}
    (h : JobAttempted x) : ∃ polls, PollsOnly polls ∧ trace maxOutputBytes runId x =
      [.createConfigMap .ok, .createNetworkPolicy (networkPolicy runId) .ok,
        .createJob (sandboxLabels runId) x.createJob] ++
      (polls ++ deleteJobCalls x.deleteJob x.confirmations) ++
      [.deleteNetworkPolicy x.deleteNetworkPolicy, .deleteConfigMap x.deleteConfigMap] := by
  obtain ⟨hconfig, hpolicy⟩ := h
  unfold trace bodyCalls runKubernetesJob KubernetesScript.toExecution
  simp only [hconfig, hpolicy, ApiAnswer.call]
  cases hjob : x.createJob with
  | ok => exact ⟨pollCalls x.polls, pollCalls_pollsOnly _, by simp [cleanupCalls]⟩
  | apiError status applied =>
    exact ⟨[], fun _ h => absurd h List.not_mem_nil, by simp [cleanupCalls]⟩
  | otherError applied =>
    exact ⟨[], fun _ h => absurd h List.not_mem_nil, by simp [cleanupCalls]⟩

/-- Where it is not, no call creates the Job. -/
theorem trace_of_not_attempted (maxOutputBytes : Nat) (runId : String) {x : KubernetesScript}
    (h : ¬ JobAttempted x) (podLabels : Labels) (answer : ApiAnswer) :
    .createJob podLabels answer ∉ trace maxOutputBytes runId x := by
  unfold trace bodyCalls runKubernetesJob KubernetesScript.toExecution
  by_cases hconfig : x.createConfigMap = .ok
  · have hpolicy : x.createNetworkPolicy ≠ .ok := fun he => h ⟨hconfig, he⟩
    simp only [hconfig, ApiAnswer.call]
    cases hanswer : x.createNetworkPolicy with
    | ok => exact absurd hanswer hpolicy
    | apiError status applied => simp [cleanupCalls]
    | otherError applied => simp [cleanupCalls]
  · cases hanswer : x.createConfigMap with
    | ok => exact absurd hanswer hconfig
    | apiError status applied => simp [cleanupCalls, ApiAnswer.call]
    | otherError applied => simp [cleanupCalls, ApiAnswer.call]

/-! ## Throughout a test -/

/-- Without a Job there is nothing to deny. -/
theorem denied_of_no_job {c : SandboxCluster} (h : c.job = none) : c.Denied := by
  intro podLabels hjob
  rw [h] at hjob
  cases hjob

theorem step_job {c : SandboxCluster} {call : ApiCall}
    (h : ∀ podLabels answer, call ≠ .createJob podLabels answer) : (c.step call).job = c.job := by
  cases call with
  | createJob podLabels answer => exact absurd rfl (h podLabels answer)
  | createNetworkPolicy policy answer =>
    simp only [SandboxCluster.step]
    split <;> rfl
  | deleteNetworkPolicy answer =>
    simp only [SandboxCluster.step]
    split <;> rfl
  | deleteJob answer =>
    simp only [SandboxCluster.step]
    split <;> rfl
  | readJob answer =>
    simp only [SandboxCluster.step]
    split <;> rfl
  | createConfigMap answer => rfl
  | poll snapshot => rfl
  | deleteConfigMap answer => rfl

/-- The run's Job is under the run's policy. -/
def UnderPolicy (runId : String) (c : SandboxCluster) : Prop :=
  c.job = some (sandboxLabels runId) ∧ c.policy = some (networkPolicy runId)

theorem UnderPolicy.denied {runId : String} {c : SandboxCluster} (h : UnderPolicy runId c) : c.Denied := by
  intro podLabels hjob _
  rw [h.1] at hjob
  obtain rfl := Option.some.inj hjob
  exact ⟨networkPolicy runId, h.2, networkPolicy_deniesAll runId⟩

/-- Polling and deleting the Job leave it under its policy. -/
theorem underPolicy_throughout {runId : String} {x : KubernetesScript} {polls : List ApiCall}
    (hpolls : PollsOnly polls) {c : SandboxCluster} (hc : UnderPolicy runId c) :
    Runs.Throughout SandboxCluster.step (UnderPolicy runId) c
      (polls ++ deleteJobCalls x.deleteJob x.confirmations) := by
  -- confirming a deletion only reads the Job
  have hreads : ∀ (reads : List ReadAnswer), ∀ call ∈ confirmCalls reads,
      ∃ read, call = .readJob read := by
    intro reads
    induction reads with
    | nil => exact fun _ h => absurd h List.not_mem_nil
    | cons read reads ih =>
      intro call hcall
      cases read with
      | found =>
        rcases List.mem_cons.mp hcall with rfl | hcall
        · exact ⟨_, rfl⟩
        · exact ih call hcall
      | apiError status => exact ⟨_, List.mem_singleton.mp hcall⟩
      | otherError => exact ⟨_, List.mem_singleton.mp hcall⟩
  refine Runs.throughout_of_preserved ?_ hc
  intro call hcall c hc
  rcases List.mem_append.mp hcall with hcall | hcall
  · obtain ⟨s, rfl⟩ := hpolls call hcall
    exact hc
  · rcases List.mem_cons.mp hcall with rfl | hcall
    · simp only [SandboxCluster.step]
      split <;> exact hc
    · cases hanswer : x.deleteJob with
      | ok =>
        rw [hanswer] at hcall
        obtain ⟨read, rfl⟩ := hreads _ call hcall
        simp only [SandboxCluster.step]
        split <;> exact hc
      | apiError status applied =>
        rw [hanswer] at hcall
        exact absurd hcall List.not_mem_nil
      | otherError applied =>
        rw [hanswer] at hcall
        exact absurd hcall List.not_mem_nil

theorem run_pollsOnly {polls : List ApiCall} (hpolls : PollsOnly polls) (c : SandboxCluster) :
    Runs.run SandboxCluster.step c polls = c := by
  induction polls with
  | nil => rfl
  | cons call polls ih =>
    obtain ⟨s, rfl⟩ := hpolls call List.mem_cons_self
    exact ih fun call hcall => hpolls call (List.mem_cons_of_mem _ hcall)

/-- Deleting the policy leaves the candidate uncovered unless its deletion is confirmed or the
    policy's had no effect. -/
theorem denied_after_cleanup {runId : String} {x : KubernetesScript} {c : SandboxCluster}
    (hc : UnderPolicy runId c) :
    Runs.Throughout SandboxCluster.step SandboxCluster.Denied c
      [.deleteNetworkPolicy x.deleteNetworkPolicy, .deleteConfigMap x.deleteConfigMap] ↔
      (c.jobDeleted = true ∨ x.deleteNetworkPolicy.applied = false) := by
  show c.Denied ∧ (c.step (.deleteNetworkPolicy x.deleteNetworkPolicy)).Denied ∧
    (c.step (.deleteNetworkPolicy x.deleteNetworkPolicy)).Denied ↔ _
  rw [and_self, and_iff_right hc.denied]
  show (if x.deleteNetworkPolicy.applied then { c with policy := none } else c).Denied ↔ _
  cases happlied : x.deleteNetworkPolicy.applied with
  | false => exact ⟨fun _ => Or.inr rfl, fun _ => hc.denied⟩
  | true =>
    constructor
    · intro h
      by_contra hnot
      have hrunning : c.jobDeleted = false := by
        cases hd : c.jobDeleted with
        | false => rfl
        | true => exact absurd (Or.inl hd) hnot
      obtain ⟨policy, hpolicy, -⟩ := h _ hc.1 hrunning
      cases hpolicy
    · rintro (hdeleted | hkept)
      · intro podLabels _ hrunning
        exact absurd hdeleted (by rw [show c.jobDeleted = false from hrunning]; decide)
      · cases hkept

/-- The candidate is under its policy throughout a test exactly when the Job's deletion is
    confirmed or the deletion of the policy had no effect, once the Job's creation was attempted. -/
theorem denied_throughout_iff (maxOutputBytes : Nat) (runId : String) (x : KubernetesScript) :
    Runs.Throughout SandboxCluster.step SandboxCluster.Denied {} (trace maxOutputBytes runId x) ↔
      (JobAttempted x → DeletionConfirmed x ∨ x.deleteNetworkPolicy.applied = false) := by
  by_cases hattempted : JobAttempted x
  · obtain ⟨polls, hpolls, htrace⟩ := trace_of_attempted maxOutputBytes runId hattempted
    -- the cluster once the Job's creation was attempted
    let c : SandboxCluster := ⟨some (sandboxLabels runId), false, some (networkPolicy runId)⟩
    have hc : UnderPolicy runId c := ⟨rfl, rfl⟩
    have hstart : Runs.Throughout SandboxCluster.step SandboxCluster.Denied {}
        [.createConfigMap .ok, .createNetworkPolicy (networkPolicy runId) .ok,
          .createJob (sandboxLabels runId) x.createJob] :=
      ⟨denied_of_no_job rfl, denied_of_no_job rfl, denied_of_no_job rfl, hc.denied⟩
    have hmiddle := underPolicy_throughout (x := x) hpolls hc
    rw [htrace, Runs.throughout_append, Runs.throughout_append, Runs.run_append]
    show ((_ ∧ Runs.Throughout _ _ c _) ∧ Runs.Throughout _ _ (Runs.run _ c _) _) ↔ _
    rw [and_iff_right ⟨hstart, hmiddle.imp fun _ h => h.denied⟩, denied_after_cleanup hmiddle.last,
      Runs.run_append, run_pollsOnly hpolls]
    rcases run_deleteJobCalls x c with ⟨hconfirmed, hrun⟩ | ⟨hconfirmed, hrun⟩
    · rw [hrun]
      exact ⟨fun _ _ => Or.inl hconfirmed, fun _ => Or.inl rfl⟩
    · rw [hrun]
      constructor
      · rintro (hdeleted | hkept)
        · cases hdeleted
        · exact fun _ => Or.inr hkept
      · intro h
        rcases h hattempted with hc' | hkept
        · exact absurd hc' hconfirmed
        · exact Or.inr hkept
  · refine ⟨fun _ h => absurd h hattempted, fun _ => ?_⟩
    refine (Runs.throughout_of_preserved (P := fun c : SandboxCluster => c.job = none) ?_ rfl).imp
      fun _ h => denied_of_no_job h
    intro call hcall c hc
    refine (step_job fun podLabels answer he => ?_).trans hc
    exact trace_of_not_attempted maxOutputBytes runId hattempted podLabels answer (he ▸ hcall)

/-- Every Job whose creation was attempted gets a deletion attempt. -/
theorem deleteJob_attempted (maxOutputBytes : Nat) (runId : String) (x : KubernetesScript)
    (h : ∃ podLabels answer, .createJob podLabels answer ∈ trace maxOutputBytes runId x) :
    ∃ answer, .deleteJob answer ∈ trace maxOutputBytes runId x := by
  by_cases hattempted : JobAttempted x
  · obtain ⟨polls, -, htrace⟩ := trace_of_attempted maxOutputBytes runId hattempted
    refine ⟨x.deleteJob, ?_⟩
    rw [htrace]
    simp [deleteJobCalls]
  · obtain ⟨podLabels, answer, hmem⟩ := h
    exact absurd hmem (trace_of_not_attempted maxOutputBytes runId hattempted podLabels answer)

/-- For every pattern of answers: the denial is kept exactly when, once the Job's creation was
    attempted, its deletion is confirmed or the policy's own deletion has no effect. -/
theorem denialKept_iff (maxOutputBytes : Nat) (runId : String) (x : KubernetesScript) :
    DenialKept maxOutputBytes runId x ↔
      (JobAttempted x → DeletionConfirmed x ∨ x.deleteNetworkPolicy.applied = false) := by
  rw [← denied_throughout_iff maxOutputBytes runId, Runs.throughout_iff_prefix]
  exact ⟨fun h => h.denied, fun h => ⟨h, deleteJob_attempted maxOutputBytes runId x⟩⟩

/-- A poll that finds the first container terminated with exit code 0. -/
def passedSnapshot : JobSnapshot :=
  ⟨.ok ⟨none, []⟩, .ok (some ⟨some (.terminated (some 0)), some "Succeeded"⟩), .ok "1 passed"⟩

/-- The test passes at the second poll, and everything succeeds but the request that deletes the
    Job, which is refused with HTTP 500. -/
def jobDeletionRefused : KubernetesScript where
  createConfigMap := .ok
  createNetworkPolicy := .ok
  createJob := .ok
  polls := [⟨.ok ⟨none, []⟩, .ok none, .ok ""⟩, passedSnapshot]
  deleteJob := .apiError (some 500) false
  confirmations := []
  deleteNetworkPolicy := .ok
  deleteConfigMap := .ok

/-- **The policy of a Job whose deletion was refused is deleted**: the pod is still there, and
    nothing denies it the network any more. -/
theorem denialKept_fails : ¬ DenialKept 8192 "run" jobDeletionRefused := by
  intro h
  have hlast := h.denied _ [] (List.append_nil _).symm
  obtain ⟨policy, hpolicy, -⟩ := hlast (sandboxLabels "run") rfl rfl
  cases hpolicy

end AEControl.Evaluation
