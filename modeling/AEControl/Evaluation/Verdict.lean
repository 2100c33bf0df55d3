/-
  The sandbox's verdict and the evaluators' verdict.

  The sandbox decides on the exit code, the evaluators on the text `"ok"`, which the executors
  put in place of an empty output.  So a silent failure scores as a pass, and a passing test that
  prints scores as a failure.  The two verdicts agree on a run exactly if every test that was
  executed exits with 0 precisely when its text reads `"ok"` (`Backend.Faithful`).

  Structure of the proof:
  1. a truncated output reads `"ok"` exactly if it was empty or `"ok"` (`truncate_orOk`), and no
     text about a timeout does (`timeout_text_ne_ok`);
  2. one lemma for each executor (`subprocessVerdict_faithful`, `jobOutcome_faithful`), put together
     in `runTest_faithful`;
  3. the sandbox and the engine hand the text on: through `sandbox_faithful`, the two hidden-test
     evaluators and their score (`hiddenSuccess_runCase`);
  4. `score_faithful` for one case, `verdictAgreement_iff` for a whole run.
-/
import AEControl.Lib.Except
import AEControl.Evaluation.Engine

namespace AEControl.Evaluation

open Text Raising

/-! ## One case, from repair to score -/

/-- What a run needs to know of one case: the repair and what happened to its two tests. -/
structure Attempt (b : Backend) where
  case : DatasetCase
  repair : Repair
  durationSeconds : Float64
  publicTest : b.Execution
  hiddenTest : b.Execution

/-- The source a repair hands to the sandbox. -/
def Repair.source : Repair → Option String
  | .deterministic source | .generated source => some source
  | .failed _ _ => none

/-- What a case leaves: the sandbox result, unless the model failed, and the scored case. -/
structure Scored where
  sandbox : Option SandboxResult
  result : CaseResult

/-- The fixed surroundings of a run. -/
structure Setup where
  policy : SandboxPolicy
  parse : String → Except String (List PyNode)
  unifiedDiff : String → String → String
  evaluators : List String
  agentVersion : String

/-- The sandbox on one attempt. -/
def Attempt.sandbox {b : Backend} (u : Setup) (a : Attempt b) (source : String) :
    Except String SandboxResult :=
  CodingSandbox.run b.executor u.policy u.parse u.unifiedDiff a.case source a.publicTest
    a.hiddenTest

/-- `run_case`: execute the attempt and evaluate the output. -/
def Attempt.score {b : Backend} (u : Setup) (a : Attempt b) : Except String Scored := do
  let sandbox ← a.repair.source.mapM (a.sandbox u)
  let output ← execute a.repair a.durationSeconds (a.sandbox u)
  let result ← runCase u.evaluators u.agentVersion a.case output
  .ok ⟨sandbox, result⟩

/-- The evaluators see what the sandbox found. -/
def Agrees (case : DatasetCase) (result : SandboxResult) (output : AgentOutput) : Prop :=
  (hiddenTestSuccess case output).passed = result.hiddenPassed ∧
    (publicTestSuccess case output).passed = result.publicPassed ∧
    (output.status = .passed ↔
      (publicTestSuccess case output).passed = true ∧
        (hiddenTestSuccess case output).passed = true)

/-! ## Executions whose text tells the exit code -/

/-- The stripped text comes out as `"ok"`: it is empty or `ok`, and the limit leaves room. -/
def ReadsOk (policy : SandboxPolicy) (text : String) : Prop :=
  (text = "" ∨ text = "ok") ∧ 2 ≤ policy.maxOutputBytes

/-- The process ran out of time, or its exit code and its text agree. -/
def ProcessOutcome.Faithful (policy : SandboxPolicy) : ProcessOutcome → Prop
  | .timeoutExpired => True
  | .completed returncode stdout stderr =>
    returncode = 0 ↔ ReadsOk policy (strip (stdout ++ stderr))

/-- If a snapshot shows a terminated container, its exit code and its log agree. -/
def JobSnapshot.Faithful (policy : SandboxPolicy) (s : JobSnapshot) : Prop :=
  ∀ job pod code podLog, s.job = .ok job → job.deadlineExceeded = false →
    s.pod = .ok (some pod) → pod.container = some (.terminated (some code)) →
    s.podLog = .ok podLog → (code = 0 ↔ ReadsOk policy (strip podLog))

/-- The snapshot decides nothing yet and the loop polls again. -/
def JobSnapshot.pending (s : JobSnapshot) : Bool :=
  match jobOutcome s with
  | .ok none => true
  | _ => false

/-- The snapshot that ends the polling is faithful. -/
def KubernetesExecution.Faithful (policy : SandboxPolicy) (x : KubernetesExecution) : Prop :=
  ∀ s ∈ x.polls.find? (!·.pending), s.Faithful policy

/-- An execution whose text tells its exit code. -/
def Backend.Faithful (policy : SandboxPolicy) : (b : Backend) → b.Execution → Prop
  | .process => ProcessOutcome.Faithful policy
  | .podman => ProcessOutcome.Faithful policy
  | .kubernetesRuntimeclass _ => KubernetesExecution.Faithful policy

/-! ## The text of a verdict -/

/-- Truncation never produces `"ok"` out of something else. -/
theorem truncate_eq_ok {value : String} {n : Nat} :
    truncate value n = "ok" ↔ value = "ok" ∧ 2 ≤ n := by
  unfold truncate
  split_ifs with h
  · constructor
    · rintro rfl
      exact ⟨rfl, h⟩
    · exact fun hv => hv.1
  · refine iff_of_false (fun hcut => ?_) ?_
    · have := congrArg String.length hcut
      rw [String.length_append, show "\n[output truncated]".length = 19 by decide,
        show "ok".length = 2 by decide] at this
      omega
    · rintro ⟨rfl, hn⟩
      exact h hn

theorem truncate_orOk {policy : SandboxPolicy} {text : String} :
    truncate (orOk text) policy.maxOutputBytes = "ok" ↔ ReadsOk policy text := by
  rw [truncate_eq_ok, ReadsOk, orOk]
  split_ifs with h <;> simp [h]

/-- A timeout message is never `"ok"`. -/
theorem timeout_text_ne_ok {message seconds : String} (h : 2 ≤ message.length) :
    s!"{message} {seconds}s" ≠ "ok" := by
  intro hok
  have hlen : (message ++ " " ++ seconds ++ "s").length = "ok".length := congrArg String.length hok
  simp only [String.length_append, show " ".length = 1 by decide, show "s".length = 1 by decide,
    show "ok".length = 2 by decide] at hlen
  omega

theorem subprocessVerdict_faithful {message : String} (hm : 2 ≤ message.length)
    (policy : SandboxPolicy) (outcome : ProcessOutcome) {passed : Bool} {text : String}
    (h : subprocessVerdict message policy outcome = (passed, text)) :
    decide (text = "ok") = passed ↔ outcome.Faithful policy := by
  cases outcome with
  | timeoutExpired =>
    obtain ⟨rfl, rfl⟩ := Prod.mk.inj h
    refine iff_of_true ?_ trivial
    rw [decide_eq_false (timeout_text_ne_ok hm)]
  | completed returncode stdout stderr =>
    obtain ⟨rfl, rfl⟩ := Prod.mk.inj h
    rw [decide_eq_decide, truncate_orOk]
    exact Iff.comm

/-! ## The Kubernetes executor -/

/-- A pod decides only by a terminated container with an exit code, whose log could be read. -/
theorem podOutcome_some {podLog : Except String String} {pod : SandboxPod}
    {outcome : KubernetesJobOutcome} (h : podOutcome podLog pod = .ok (some outcome)) :
    ∃ code text, pod.container = some (.terminated (some code)) ∧ podLog = .ok text ∧
      outcome = ⟨code = 0, orOk (strip text)⟩ := by
  have hphase : phaseOutcome pod ≠ .ok (some outcome) := by
    unfold phaseOutcome
    split_ifs <;> simp
  unfold podOutcome at h
  split at h
  · rename_i exitCode hc
    obtain ⟨text, htext, h⟩ := bind_ok h
    cases exitCode with
    | none => cases h
    | some code => exact ⟨code, text, hc, htext, (Option.some.inj (Except.ok.inj h)).symm⟩
  · split_ifs at h
    exact absurd h hphase
  · exact absurd h hphase

/-- A poll that decides: the deadline message, or the exit code of a terminated container. -/
theorem jobOutcome_faithful {policy : SandboxPolicy} {s : JobSnapshot}
    {outcome : KubernetesJobOutcome} (h : jobOutcome s = .ok (some outcome)) :
    decide (truncate outcome.output policy.maxOutputBytes = "ok") = outcome.passed ↔
      s.Faithful policy := by
  obtain ⟨job, hjob, h⟩ := bind_ok h
  -- the deadline has its own message, which is not `ok`
  by_cases hdead : job.deadlineExceeded = true
  · rw [if_pos hdead] at h
    obtain rfl := Option.some.inj (Except.ok.inj h)
    refine iff_of_true (decide_eq_false fun hok => ?_) fun job' _ _ _ hjob' hlive => ?_
    · exact absurd (truncate_eq_ok.mp hok).1 (by decide)
    · obtain rfl := Except.ok.inj (hjob.symm.trans hjob')
      rw [hdead] at hlive
      cases hlive
  · rw [if_neg hdead] at h
    obtain ⟨pod, hpod, h⟩ := bind_ok h
    cases pod with
    | none =>
      have hno : (if job.hasFailed = true then
          (.error "Kubernetes sandbox Job failed before pod creation" :
            Except String (Option KubernetesJobOutcome)) else .ok none) = .ok (some outcome) := h
      split_ifs at hno
      cases Except.ok.inj hno
    | some pod =>
      obtain ⟨code, text, hc, htext, rfl⟩ := podOutcome_some h
      dsimp only
      rw [decide_eq_decide, truncate_orOk]
      constructor
      · intro hiff job' pod' code' text' _ _ hpod' hc' htext'
        obtain rfl := Option.some.inj (Except.ok.inj (hpod.symm.trans hpod'))
        obtain rfl : code = code' := by simpa using hc.symm.trans hc'
        obtain rfl := Except.ok.inj (htext.symm.trans htext')
        exact hiff.symm
      · intro hf
        exact (hf job pod code text hjob (by simpa using hdead) hpod hc htext).symm

/-- The polling loop ends with the first snapshot that is not pending. -/
theorem pollJob_ok {polls : List JobSnapshot} {outcome : KubernetesJobOutcome}
    (h : pollJob polls = .ok outcome) :
    ∃ s, polls.find? (!·.pending) = some s ∧ jobOutcome s = .ok (some outcome) := by
  induction polls with
  | nil => cases h
  | cons s polls ih =>
    unfold pollJob at h
    cases hs : jobOutcome s with
    | error e => rw [hs] at h; cases h
    | ok o =>
      rw [hs] at h
      cases o with
      | none =>
        obtain ⟨t, ht, hout⟩ := ih h
        have hpending : s.pending = true := by simp [JobSnapshot.pending, hs]
        exact ⟨t, by simpa [List.find?_cons, hpending] using ht, hout⟩
      | some o =>
        have hdone : s.pending = false := by simp [JobSnapshot.pending, hs]
        obtain rfl := Except.ok.inj h
        exact ⟨s, by simp [hdone], hs⟩

/-- A verdict of the cluster is the outcome of the polling loop. -/
theorem runKubernetesJob_ok {n : Nat} {x : KubernetesExecution} {v : Bool × String}
    (h : (runKubernetesJob n x).1 = .ok v) :
    ∃ outcome, pollJob x.polls = .ok outcome ∧ v = (outcome.passed, truncate outcome.output n) := by
  unfold runKubernetesJob at h
  cases hmap : x.createConfigMap with
  | error e => simp [hmap] at h
  | ok u₁ =>
    cases hnet : x.createNetworkPolicy with
    | error e => simp [hmap, hnet] at h
    | ok u₂ =>
      cases hjob : x.createJob with
      | error e => simp [hmap, hnet, hjob] at h
      | ok u₃ =>
        simp only [hmap, hnet, hjob] at h
        obtain ⟨outcome, hpoll, hv⟩ := map_ok h
        exact ⟨outcome, hpoll, hv.symm⟩

/-- A `finally` clause keeps the result or raises. -/
theorem tryFinally_ok {α : Type} {body : Except String α} {final : Except String Unit} {v : α}
    (h : tryFinally body final = .ok v) : body = .ok v := by
  cases final with
  | error e => cases h
  | ok u => exact h

/-- **The executors.**  A test's text reads `"ok"` exactly when its verdict says so, if and only
    if the execution is faithful. -/
theorem runTest_faithful {policy : SandboxPolicy} {b : Backend} {x : b.Execution} {passed : Bool}
    {text : String} (h : b.executor.runTest policy x = .ok (passed, text)) :
    decide (text = "ok") = passed ↔ b.Faithful policy x := by
  cases b with
  | process => exact subprocessVerdict_faithful (by decide) policy x (Except.ok.inj h)
  | podman => exact subprocessVerdict_faithful (by decide) policy x (Except.ok.inj h)
  | kubernetesRuntimeclass runtimeClass =>
    obtain ⟨outcome, hpoll, hv⟩ := runKubernetesJob_ok (tryFinally_ok h)
    obtain ⟨rfl, rfl⟩ := Prod.mk.inj hv
    obtain ⟨s, hs, hout⟩ := pollJob_ok hpoll
    rw [jobOutcome_faithful hout]
    constructor
    · intro hf t ht
      obtain rfl := Option.some.inj (hs.symm.trans ht)
      exact hf
    · intro hf
      exact hf s hs

/-! ## The sandbox -/

/-- No rejection reads `"ok"`. -/
theorem validateSource_ne_ok {parse : String → Except String (List PyNode)} {source text : String}
    {policy : SandboxPolicy} (h : validateSource parse source policy = some text) :
    text ≠ "ok" := by
  have hlong : ∀ head rest : String, 2 < head.length → head ++ rest ≠ "ok" := by
    intro head rest hhead hok
    have := congrArg String.length hok
    rw [String.length_append, show "ok".length = 2 by decide] at this
    omega
  unfold validateSource at h
  split_ifs at h with hsize
  · obtain rfl := Option.some.inj h
    show "source rejected: exceeds " ++ toString policy.maxSourceBytes ++ " byte limit" ≠ "ok"
    rw [String.append_assoc]
    exact hlong _ _ (by decide)
  · split at h
    · obtain rfl := Option.some.inj h
      exact hlong _ _ (by decide)
    · obtain ⟨node, -, hnode⟩ := List.exists_of_findSome?_eq_some h
      simp only [PyNode.rejection] at hnode
      split at hnode
      · obtain rfl := Option.some.inj hnode
        exact hlong _ _ (by decide)
      · split_ifs at hnode
        obtain rfl := Option.some.inj hnode
        exact hlong _ _ (by decide)
      · cases hnode

/-- What the sandbox found agrees with its texts, if and only if both tests were faithful or the
    source was rejected before they ran. -/
theorem sandbox_faithful {b : Backend} {u : Setup} {a : Attempt b} {source : String}
    {result : SandboxResult} (h : a.sandbox u source = .ok result) :
    (decide (result.hiddenTestOutput = "ok") = result.hiddenPassed ∧
        decide (result.publicTestOutput = "ok") = result.publicPassed) ↔
      (validateSource u.parse source u.policy = none →
        b.Faithful u.policy a.publicTest ∧ b.Faithful u.policy a.hiddenTest) := by
  unfold Attempt.sandbox CodingSandbox.run at h
  cases hv : validateSource u.parse source u.policy with
  | some rejection =>
    rw [hv] at h
    obtain rfl := Except.ok.inj h
    refine iff_of_true ⟨?_, ?_⟩ (fun hno => by cases hno)
    · rfl
    · exact decide_eq_false (validateSource_ne_ok hv)
  | none =>
    rw [hv] at h
    obtain ⟨before, -, h⟩ := bind_ok h
    obtain ⟨⟨publicPassed, publicOutput⟩, hpublic, h⟩ := bind_ok h
    obtain ⟨⟨hiddenPassed, hiddenOutput⟩, hhidden, h⟩ := bind_ok h
    obtain rfl := Except.ok.inj h
    rw [runTest_faithful hpublic, runTest_faithful hhidden]
    exact ⟨fun ⟨hh, hp⟩ _ => ⟨hp, hh⟩, fun hf => ⟨(hf rfl).2, (hf rfl).1⟩⟩

/-- The output copies the texts and derives its status from the two verdicts, so the evaluators
    agree with the sandbox exactly if the texts agree with the verdicts. -/
theorem agrees_outputOfSandbox (case : DatasetCase) (steps : List TrajectoryStep)
    (durationSeconds : Float64) (result : SandboxResult) :
    Agrees case result (outputOfSandbox steps durationSeconds result) ↔
      decide (result.hiddenTestOutput = "ok") = result.hiddenPassed ∧
        decide (result.publicTestOutput = "ok") = result.publicPassed := by
  constructor
  · rintro ⟨hhidden, hpublic, -⟩
    exact ⟨hhidden, hpublic⟩
  · rintro ⟨hhidden, hpublic⟩
    refine ⟨hhidden, hpublic, ?_⟩
    show (if result.publicPassed && result.hiddenPassed then ExecutionStatus.passed
      else ExecutionStatus.failed) = .passed ↔
        decide (result.publicTestOutput = "ok") = true ∧
          decide (result.hiddenTestOutput = "ok") = true
    rw [hhidden, hpublic]
    cases result.publicPassed <;> cases result.hiddenPassed <;> decide

/-! ## The engine -/

/-- Every evaluator reports under its own name. -/
theorem evaluate_name {e : Evaluator} (he : e ∈ evaluatorClasses) (case : DatasetCase)
    (output : AgentOutput) : (e.evaluate case output).name = e.name := by
  simp only [evaluatorClasses, List.mem_cons, List.not_mem_nil, or_false] at he
  rcases he with rfl | rfl | rfl | rfl | rfl | rfl | rfl | rfl | rfl | rfl | rfl
  · rfl
  · rfl
  · rfl
  · rfl
  · rfl
  · rfl
  · simp only [patchScopeScore]
    split <;> rfl
  · rfl
  · rfl
  · rfl
  · rfl

theorem evaluatorNamed_ok {name : String} {e : Evaluator} (h : evaluatorNamed name = .ok e) :
    e ∈ evaluatorClasses ∧ e.name = name := by
  unfold evaluatorNamed at h
  split at h
  · rename_i x hx
    obtain rfl := Except.ok.inj h
    exact ⟨List.mem_of_find?_eq_some hx, by simpa using List.find?_some hx⟩
  · cases h

/-- The evaluator names are distinct: only `HiddenTestSuccess` decides the hidden test. -/
theorem hidden_unique {e : Evaluator} (he : e ∈ evaluatorClasses)
    (hname : e.name = "hidden_test_success") : e.evaluate = hiddenTestSuccess := by
  simp only [evaluatorClasses, List.mem_cons, List.not_mem_nil, or_false] at he
  rcases he with rfl | rfl | rfl | rfl | rfl | rfl | rfl | rfl | rfl | rfl | rfl
  · exact absurd hname (by decide)
  · rfl
  all_goals exact absurd hname (by decide)

/-- A case counts as a hidden success exactly if its hidden output reads `"ok"`. -/
theorem hiddenSuccess_runCase {evaluators : List String} {agentVersion : String}
    {case : DatasetCase} {output : AgentOutput} {r : CaseResult}
    (h : runCase evaluators agentVersion case output = .ok r)
    (hmem : "hidden_test_success" ∈ evaluators) :
    r.hiddenSuccess = (hiddenTestSuccess case output).passed := by
  obtain ⟨selected, hsel, hr⟩ := bind_ok h
  obtain rfl := Except.ok.inj hr
  have hall := mapM_ok hsel
  have hnamed : ∀ e ∈ selected, e ∈ evaluatorClasses := by
    intro e he
    obtain ⟨name, -, hname⟩ := forall₂_mem_right hall he
    exact (evaluatorNamed_ok hname).1
  rw [Bool.eq_iff_iff]
  simp only [CaseResult.hiddenSuccess, List.any_map, List.any_eq_true, Function.comp,
    Bool.and_eq_true, decide_eq_true_eq]
  constructor
  · rintro ⟨e, he, hname, hpass⟩
    rw [evaluate_name (hnamed e he)] at hname
    rwa [hidden_unique (hnamed e he) hname] at hpass
  · intro hpass
    obtain ⟨e, he, hname⟩ := forall₂_mem_left hall hmem
    obtain ⟨hclass, hname⟩ := evaluatorNamed_ok hname
    refine ⟨e, he, ?_, ?_⟩
    · rw [evaluate_name hclass, hname]
    · rwa [hidden_unique hclass hname]

/-! ## A whole run -/

/-- Evaluators and sandbox agree on every case that reached the sandbox, and the hidden passes a
    run is saved with are the cases whose hidden test the sandbox found to pass. -/
def VerdictsAgree (scored : List Scored) : Prop :=
  (∀ s ∈ scored, ∀ result ∈ s.sandbox, Agrees s.result.case result s.result.output) ∧
    hiddenPasses (scored.map (·.result)) = scored.countP (·.sandbox.any (·.hiddenPassed))

/-- Both tests were faithful, unless the source was rejected before they ran. -/
def Attempt.Faithful {b : Backend} (u : Setup) (a : Attempt b) : Prop :=
  ∀ source ∈ a.repair.source, validateSource u.parse source u.policy = none →
    b.Faithful u.policy a.publicTest ∧ b.Faithful u.policy a.hiddenTest

/-- What `score` leaves: a failed model has neither a sandbox result nor a hidden success. -/
theorem score_ok {b : Backend} {u : Setup} {a : Attempt b} {s : Scored}
    (h : a.score u = .ok s) :
    (a.repair.source = none ∧ s.sandbox = none ∧ s.result.output.hiddenTestOutput = "not run" ∧
        runCase u.evaluators u.agentVersion a.case s.result.output = .ok s.result) ∨
      ∃ source steps result, a.repair.source = some source ∧
        a.sandbox u source = .ok result ∧ s.sandbox = some result ∧
        s.result.output = outputOfSandbox steps a.durationSeconds result ∧
        runCase u.evaluators u.agentVersion a.case s.result.output = .ok s.result := by
  obtain ⟨sandbox, hsandbox, h⟩ := bind_ok h
  obtain ⟨output, houtput, h⟩ := bind_ok h
  obtain ⟨result, hresult, h⟩ := bind_ok h
  obtain rfl := Except.ok.inj h
  have hout : result.output = output := by
    obtain ⟨selected, -, hr⟩ := bind_ok hresult
    rw [← Except.ok.inj hr]
  -- either kind of source is run in the sandbox
  have hgood : ∀ source steps, a.repair.source = some source →
      (a.sandbox u source).map (outputOfSandbox steps a.durationSeconds) = .ok output →
      ∃ found, a.sandbox u source = .ok found ∧ sandbox = some found ∧
        result.output = outputOfSandbox steps a.durationSeconds found := by
    intro source steps hsource hmap
    obtain ⟨found, hfound, hbuilt⟩ := map_ok hmap
    refine ⟨found, hfound, ?_, hout.trans hbuilt.symm⟩
    rw [hsource] at hsandbox
    obtain ⟨found', hfound', hsome⟩ := bind_ok hsandbox
    rw [hfound] at hfound'
    rw [← Except.ok.inj hsome, Except.ok.inj hfound']
  cases hrepair : a.repair with
  | failed errorType message =>
    rw [hrepair] at houtput hsandbox
    refine Or.inl ⟨rfl, (Except.ok.inj hsandbox).symm, ?_, hout.symm ▸ hresult⟩
    rw [hout, ← Except.ok.inj houtput]
  | deterministic source =>
    rw [hrepair] at houtput
    obtain ⟨found, hfound, hsome, hbuilt⟩ := hgood source _ (by rw [hrepair]; rfl) houtput
    exact Or.inr ⟨source, _, found, rfl, hfound, hsome, hbuilt, hout.symm ▸ hresult⟩
  | generated source =>
    rw [hrepair] at houtput
    obtain ⟨found, hfound, hsome, hbuilt⟩ := hgood source _ (by rw [hrepair]; rfl) houtput
    exact Or.inr ⟨source, _, found, rfl, hfound, hsome, hbuilt, hout.symm ▸ hresult⟩

/-- A case keeps its case in its result. -/
theorem runCase_case {evaluators : List String} {agentVersion : String} {case : DatasetCase}
    {output : AgentOutput} {r : CaseResult} (h : runCase evaluators agentVersion case output = .ok r) :
    r.case = case := by
  obtain ⟨selected, -, hr⟩ := bind_ok h
  rw [← Except.ok.inj hr]

/-- **One case.**  The verdicts agree exactly if the attempt was faithful. -/
theorem score_faithful {b : Backend} {u : Setup} {a : Attempt b} {s : Scored}
    (h : a.score u = .ok s) :
    (∀ result ∈ s.sandbox, Agrees s.result.case result s.result.output) ↔ a.Faithful u := by
  rcases score_ok h with ⟨hsource, hnone, -, -⟩ | ⟨source, steps, result, hsource, hrun, hsome,
    hbuilt, -⟩
  · simp [hnone, Attempt.Faithful, hsource]
  · rw [hsome, hbuilt]
    unfold Attempt.Faithful
    rw [hsource]
    constructor
    · intro hagree x hx hvalid
      obtain rfl := Option.some.inj hx
      exact (sandbox_faithful hrun).mp ((agrees_outputOfSandbox _ _ _ _).mp (hagree _ rfl)) hvalid
    · intro hf x hx
      obtain rfl := Option.some.inj hx
      exact (agrees_outputOfSandbox _ _ _ _).mpr ((sandbox_faithful hrun).mpr (hf source rfl))

/-- Where the verdicts agree, a hidden success is a hidden test the sandbox found to pass. -/
theorem hiddenSuccess_eq {b : Backend} {u : Setup} (hhidden : "hidden_test_success" ∈ u.evaluators)
    {a : Attempt b} {s : Scored} (h : a.score u = .ok s)
    (hagree : ∀ result ∈ s.sandbox, Agrees s.result.case result s.result.output) :
    s.result.hiddenSuccess = s.sandbox.any (·.hiddenPassed) := by
  rcases score_ok h with ⟨-, hnone, hnot, hrun⟩ | ⟨-, -, result, -, -, hsome, -, hrun⟩
  · rw [hiddenSuccess_runCase hrun hhidden, hnone]
    show decide (s.result.output.hiddenTestOutput = "ok") = false
    rw [hnot]
    rfl
  · rw [hiddenSuccess_runCase hrun hhidden, hsome, ← runCase_case hrun]
    exact (hagree result hsome).1

/-- **Verdict agreement.**  Over any run of any backend, evaluators and sandbox agree exactly if
    every attempt that reached the sandbox was faithful. -/
theorem verdictAgreement_iff (b : Backend) (u : Setup)
    (hhidden : "hidden_test_success" ∈ u.evaluators) (attempts : List (Attempt b))
    (scored : List Scored) (h : attempts.mapM (Attempt.score u) = .ok scored) :
    VerdictsAgree scored ↔ ∀ a ∈ attempts, a.Faithful u := by
  have hall := mapM_ok h
  constructor
  · rintro ⟨hagree, -⟩ a ha
    obtain ⟨s, hs, hscore⟩ := forall₂_mem_left hall ha
    exact (score_faithful hscore).mp (hagree s hs)
  · intro hf
    have hagree : ∀ s ∈ scored, ∀ result ∈ s.sandbox,
        Agrees s.result.case result s.result.output := by
      intro s hs
      obtain ⟨a, ha, hscore⟩ := forall₂_mem_right hall hs
      exact (score_faithful hscore).mpr (hf a ha)
    refine ⟨hagree, ?_⟩
    unfold hiddenPasses
    rw [List.countP_map]
    refine List.countP_congr fun s hs => ?_
    obtain ⟨a, -, hscore⟩ := forall₂_mem_right hall hs
    rw [Function.comp, hiddenSuccess_eq hhidden hscore (hagree s hs)]

/-! ## Two runs of a division bug -/

/-- The two test evaluators, over a parser that finds nothing to object to. -/
def testSetup : Setup where
  policy := {}
  parse := fun _ => .ok []
  unifiedDiff := fun before after => before ++ after
  evaluators := ["public_test_success", "hidden_test_success"]
  agentVersion := "baseline"

/-- An attempt at a division bug, with how its two tests ended. -/
def divideAttempt (publicTest hiddenTest : ProcessOutcome) : Attempt .process where
  case := { caseId := "DIV-01", slice := "divide", bugKind := "divide" }
  repair := .deterministic "def solve(a, b):\n    return a / b\n"
  durationSeconds := .finite 1
  publicTest := publicTest
  hiddenTest := hiddenTest

theorem readsOk_empty : ReadsOk testSetup.policy (strip ("" ++ "")) :=
  ⟨Or.inl (by decide), by decide⟩

/-- Two silent passes score as two passes. -/
theorem verdictAgreement_iff_silent_pass :
    ∃ scored, [divideAttempt (.completed 0 "" "") (.completed 0 "" "")].mapM
      (Attempt.score testSetup) = .ok scored ∧ VerdictsAgree scored := by
  have hok : ([divideAttempt (.completed 0 "" "") (.completed 0 "" "")].mapM
      (Attempt.score testSetup)).isOk = true := by decide +kernel
  cases h : [divideAttempt (.completed 0 "" "") (.completed 0 "" "")].mapM
      (Attempt.score testSetup) with
  | error e => rw [h] at hok; cases hok
  | ok scored =>
    refine ⟨scored, rfl, (verdictAgreement_iff .process testSetup (by decide) _ scored h).mpr ?_⟩
    intro a ha source _ _
    obtain rfl := List.mem_singleton.mp ha
    exact ⟨iff_of_true rfl readsOk_empty, iff_of_true rfl readsOk_empty⟩

/-- A hidden test that exits with 1 and prints nothing: the sandbox says failed, the evaluator
    says passed. -/
theorem silent_failure_scores_as_pass :
    ∃ scored, [divideAttempt (.completed 0 "" "") (.completed 1 "" "")].mapM
      (Attempt.score testSetup) = .ok scored ∧ ¬ VerdictsAgree scored := by
  have hok : ([divideAttempt (.completed 0 "" "") (.completed 1 "" "")].mapM
      (Attempt.score testSetup)).isOk = true := by decide +kernel
  cases h : [divideAttempt (.completed 0 "" "") (.completed 1 "" "")].mapM
      (Attempt.score testSetup) with
  | error e => rw [h] at hok; cases hok
  | ok scored =>
    refine ⟨scored, rfl, fun hagree => ?_⟩
    obtain ⟨s, hs, hscore⟩ := forall₂_mem_left (mapM_ok h) List.mem_cons_self
    have hfaithful := (score_faithful hscore).mp (hagree.1 s hs)
    have hexit := (hfaithful _ rfl rfl).2.mpr readsOk_empty
    exact absurd hexit (by decide)

end AEControl.Evaluation
