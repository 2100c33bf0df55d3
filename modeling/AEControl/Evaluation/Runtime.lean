/-
  `DeterministicCodingRuntime.execute` (`runtime.py`).

  The agent version picks a deterministic agent or one of four model providers.  What the `except`
  clause of a client catches becomes an output with the status `error`; a source goes to the
  sandbox.  `execute_escapes` lists the exceptions nothing catches, `execute_routed` says what is
  sent, run and returned.

  Structure of the proofs:
  1. `routeOf` tries the prefixes one after the other, but a version is of one family and names one
     model (`family_unique`, `append_inj`), so the order does not matter (`routeOf_append`);
  2. `execute` is one of three computations (`execute_refused`, `execute_deterministic`,
     `execute_model`), in the effects and results of `Lib.Attempted`;
  3. what a client raises is caught or one of the few `Unhandled` exceptions
     (`modelRepair_unhandled`), and `execute_raises_model` and `execute_raises_other` say which of
     them come out;
  4. `Repaired` is what `execute` arrives at, a source or a failure, at most one of them
     (`Repaired.unique`); each is turned into its output (`Routed.of_source`, `Routed.of_failure`).
-/
import AEControl.Evaluation.Engine
import AEControl.Evaluation.Providers

namespace AEControl.Evaluation.Runtime

open Text

/-! ## Routes -/

/-- Who repairs a case. -/
inductive Route where
  | deterministic
  | model (provider : Provider) (name : String)

/-- The four versions `execute` parses, and the branch it takes. -/
def routeOf (version : String) : Except Raised Route := do
  let ollama ← parseOllamaAgentVersion version
  let openai ← parseOpenaiAgentVersion version
  let nim ← parseNimAgentVersion version
  let bedrock ← parseBedrockAgentVersion version
  match ollama, bedrock, nim, openai with
  | some name, _, _, _ => .ok (.model .ollama name)
  | none, some name, _, _ => .ok (.model .bedrock name)
  | none, none, some name, _ => .ok (.model .nim name)
  | none, none, none, some name => .ok (.model .openai name)
  | none, none, none, none => .ok .deterministic

/-! ## `execute` -/

/-- The `except` clause around each client. -/
def caught (provider : Provider) (e : Raised) : Bool :=
  match provider, e.kind with
  | .ollama, .ollamaError => true
  | .openai, .openAICompatibleError | .nim, .openAICompatibleError => true
  | .bedrock, .bedrockError => true
  | _, .valueError => true
  | _, _ => false

/-- `"provider"` in the metadata of a failed repair. -/
def providerName : Provider → String
  | .ollama => "ollama"
  | .openai => "openai-compatible"
  | .nim => "nvidia-nim"
  | .bedrock => "aws-bedrock"

/-- `TrajectoryStep`, without its id and time. -/
structure Step where
  kind : StepKind
  data : Fields

/-- `AgentOutput` with the data of its steps. -/
structure Output where
  finalResponse : String
  trajectory : List Step
  patch : String
  modifiedFiles : List String
  publicTestOutput : String
  hiddenTestOutput : String
  durationSeconds : Float64
  status : ExecutionStatus
  error : Option (String × String)
  runtimeMetadata : Fields

/-- The output of a repair that failed. -/
def failedOutput (durationSeconds : Float64) (steps : List Step) (provider : Provider)
    (model : String) (e : Raised) : Output where
  finalResponse := "Model repair failed."
  trajectory := steps ++
    [⟨.error, [("error_type", .str e.typeName), ("message", .str e.message)]⟩]
  patch := ""
  modifiedFiles := []
  publicTestOutput := e.message
  hiddenTestOutput := "not run"
  durationSeconds
  status := .error
  error := some (e.typeName, e.message)
  runtimeMetadata := [("provider", .str (providerName provider)), ("model", .str model)]

/-- The step of a call of a tool in the sandbox. -/
def callStep (call : ToolCall) : Step :=
  ⟨.toolCall, [("name", .str call.name),
    ("arguments", .obj (call.arguments.map fun p => (p.1, .str p.2)))]⟩

/-- The step of its result. -/
def resultStep (result : ToolResult) : Step :=
  ⟨.toolResult, [("name", .str result.name), ("ok", .bool result.ok),
    ("output", .str result.output)]⟩

/-- The end of `execute`: `self._sandbox.run` on a source, and the output. -/
def runSandbox (durationSeconds : Float64) (sandbox : String → Except Raised SandboxResult)
    (steps : List Step) (metadata : Fields) (source : String) : Attempted Effect Raised Output := do
  let result ← Attempted.effect (.sandbox source) (sandbox source)
  let status : ExecutionStatus :=
    if result.publicPassed && result.hiddenPassed then .passed else .failed
  return {
    finalResponse := "Applied candidate repair."
    trajectory := steps ++ result.toolCalls.map callStep ++ result.toolResults.map resultStep ++
      [⟨.final, [("status", .str status.value)]⟩]
    patch := result.patch
    modifiedFiles := result.modifiedFiles
    publicTestOutput := result.publicTestOutput
    hiddenTestOutput := result.hiddenTestOutput
    durationSeconds
    status
    error := none
    runtimeMetadata := metadata ++ [("sandbox_backend", .str result.backend)] }

/-- The first step. -/
def askStep (case : TitledCase) : Step :=
  ⟨.message, [("role", .str "user"), ("content", .str s!"repair {case.caseId}")]⟩

/-- The step before a model is asked. -/
def modelStep (model : String) : Step :=
  ⟨.toolCall, [("name", .str "model_generate"), ("model", .str model)]⟩

/-- The step after it has answered. -/
def answerStep (model : String) : Step :=
  ⟨.toolResult, [("name", .str "model_generate"), ("ok", .bool true), ("model", .str model)]⟩

/-- What follows the `try` around the repair of a model. -/
def answered (durationSeconds : Float64) (sandbox : String → Except Raised SandboxResult)
    (case : TitledCase) (provider : Provider) (model : String) :
    Except Raised ModelRepair → Attempted Effect Raised Output
  | .error e =>
    return failedOutput durationSeconds [askStep case, modelStep model] provider model e
  | .ok repair =>
    runSandbox durationSeconds sandbox [askStep case, modelStep model, answerStep model]
      repair.metadata repair.source

/-- `DeterministicCodingRuntime.execute`; `sandbox` is `self._sandbox.run` on the case. -/
def execute (P : Providers) (version : String) (case : TitledCase) (durationSeconds : Float64)
    (sandbox : String → Except Raised SandboxResult) : Attempted Effect Raised Output := do
  match ← Attempted.of (routeOf version) with
  | .deterministic =>
    let agent ← Attempted.of (getCodingAgent (P.repr version) version)
    let source ← Attempted.of (agent.repair case)
    runSandbox durationSeconds sandbox [askStep case] [("provider", .str "deterministic")] source
  | .model provider model =>
    let outcome ← (modelRepair P provider model case).attempt (caught provider)
    answered durationSeconds sandbox case provider model outcome

/-! ## What a version names -/

namespace Provider

/-- The prefix of the provider's versions. -/
def family : Provider → String
  | ollama => "ollama/"
  | openai => "openai/"
  | nim => "nim/"
  | bedrock => "bedrock/"

/-- What its parser says of a version with nothing after the prefix. -/
def noModel : Provider → String
  | ollama => "Ollama agent version must include a model name"
  | openai => "OpenAI-compatible agent version must include a model name"
  | nim => "NVIDIA NIM agent version must include a model name"
  | bedrock => "Amazon Bedrock agent version must include a model ID"

/-- Its parser. -/
def parse (p : Provider) : String → Except Raised (Option String) :=
  parseAgentVersion p.family p.noModel

end Provider

/-- No version is of two families. -/
theorem family_unique {p q : Provider} {version : List Char} (hp : p.family.toList <+: version)
    (hq : q.family.toList <+: version) : p = q := by
  have hnot : ∀ p q : Provider, p.family.toList <+: q.family.toList → p = q := by
    intro p q h
    cases p <;> cases q <;> first | rfl | exact absurd h (by decide)
  obtain h | h := List.prefix_or_prefix_of_prefix hp hq
  · exact hnot p q h
  · exact (hnot q p h).symm

/-- A version without the family's prefix is none of the provider's. -/
theorem parse_other {p : Provider} {version : String}
    (h : ¬ p.family.toList <+: version.toList) : p.parse version = .ok none :=
  if_neg (fun hp => h (List.isPrefixOf_iff_prefix.mp hp))

/-- A version with the prefix names the model behind it, and raises without one. -/
theorem parse_append (p : Provider) (rest : String) :
    p.parse (p.family ++ rest) =
      if strip rest = "" then .error (valueError p.noModel) else .ok (some (strip rest)) := by
  unfold Provider.parse parseAgentVersion
  rw [if_pos (by simp [List.isPrefixOf_iff_prefix])]
  simp

/-- A version of no family is deterministic. -/
theorem routeOf_other {version : String}
    (h : ∀ p : Provider, ¬ p.family.toList <+: version.toList) :
    routeOf version = .ok .deterministic := by
  have hparse := fun p => parse_other (h p)
  have hollama : parseOllamaAgentVersion version = .ok none := hparse .ollama
  have hopenai : parseOpenaiAgentVersion version = .ok none := hparse .openai
  have hnim : parseNimAgentVersion version = .ok none := hparse .nim
  have hbedrock : parseBedrockAgentVersion version = .ok none := hparse .bedrock
  unfold routeOf
  rw [hollama, hopenai, hnim, hbedrock]
  rfl

/-- A version of a family is routed to its provider, whatever the order in which the families are
    tried. -/
theorem routeOf_append (p : Provider) (rest : String) :
    routeOf (p.family ++ rest) =
      if strip rest = "" then .error (valueError p.noModel) else .ok (.model p (strip rest)) := by
  have hself := parse_append p rest
  have hother : ∀ q : Provider, q ≠ p → q.parse (p.family ++ rest) = .ok none := by
    intro q hq
    refine parse_other fun hprefix => hq (family_unique hprefix ?_)
    simp
  have hollama : parseOllamaAgentVersion = Provider.ollama.parse := rfl
  have hopenai : parseOpenaiAgentVersion = Provider.openai.parse := rfl
  have hnim : parseNimAgentVersion = Provider.nim.parse := rfl
  have hbedrock : parseBedrockAgentVersion = Provider.bedrock.parse := rfl
  unfold routeOf
  rw [hollama, hopenai, hnim, hbedrock]
  by_cases hrest : strip rest = ""
  · rw [if_pos hrest] at hself ⊢
    cases p <;> simp [hself, hother] <;> rfl
  · rw [if_neg hrest] at hself ⊢
    cases p <;> simp [hself, hother] <;> rfl

/-- The version is of the provider's family and names a model. -/
def Names (version : String) (provider : Provider) (model : String) : Prop :=
  ∃ rest, version = provider.family ++ rest ∧ strip rest = model ∧ model ≠ ""

/-- A version is of no family, or is a family's prefix and the rest. -/
theorem family_cases (version : String) :
    (∀ p : Provider, ¬ p.family.toList <+: version.toList) ∨
      ∃ (p : Provider) (rest : String), version = p.family ++ rest := by
  by_cases h : ∃ p : Provider, p.family.toList <+: version.toList
  · obtain ⟨p, rest, hrest⟩ := h
    refine Or.inr ⟨p, String.ofList rest, String.toList_inj.mp ?_⟩
    rw [String.toList_append, String.toList_ofList, hrest]
  · exact Or.inl (not_exists.mp h)

/-- A version is of one family, and names one model. -/
theorem append_inj {p q : Provider} {rest rest' : String}
    (h : p.family ++ rest = q.family ++ rest') : p = q ∧ rest = rest' := by
  have hp : p.family.toList <+: (p.family ++ rest).toList := by simp
  have hq : q.family.toList <+: (p.family ++ rest).toList := by
    rw [h]
    simp
  obtain rfl := family_unique hp hq
  have hlist : p.family.toList ++ rest.toList = p.family.toList ++ rest'.toList := by
    rw [← String.toList_append, ← String.toList_append, h]
  exact ⟨rfl, String.toList_inj.mp (List.append_cancel_left hlist)⟩

/-- A version is refused exactly when it is a family's prefix and blanks. -/
theorem routeOf_error {version : String} {e : Raised} : routeOf version = .error e ↔
    ∃ (p : Provider) (rest : String), version = p.family ++ rest ∧ strip rest = "" ∧
      e = valueError p.noModel := by
  obtain h | ⟨p, rest, rfl⟩ := family_cases version
  · rw [routeOf_other h]
    constructor
    · intro h'
      cases h'
    · rintro ⟨p, rest, rfl, -⟩
      exact absurd (by simp) (h p)
  · rw [routeOf_append]
    by_cases hrest : strip rest = ""
    · rw [if_pos hrest]
      constructor
      · intro h
        exact ⟨p, rest, rfl, hrest, (Except.error.inj h).symm⟩
      · rintro ⟨q, rest', h, -, rfl⟩
        obtain ⟨rfl, -⟩ := append_inj h
        rfl
    · rw [if_neg hrest]
      constructor
      · intro h
        cases h
      · rintro ⟨q, rest', h, hrest', -⟩
        obtain ⟨rfl, rfl⟩ := append_inj h
        exact absurd hrest' hrest

/-- A model is asked exactly when the version names it. -/
theorem routeOf_model {version : String} {provider : Provider} {model : String} :
    routeOf version = .ok (.model provider model) ↔ Names version provider model := by
  obtain h | ⟨p, rest, rfl⟩ := family_cases version
  · rw [routeOf_other h]
    constructor
    · intro h'
      cases h'
    · rintro ⟨rest, rfl, -⟩
      exact absurd (by simp) (h provider)
  · rw [routeOf_append]
    by_cases hrest : strip rest = ""
    · rw [if_pos hrest]
      constructor
      · intro h
        cases h
      · rintro ⟨rest', h, rfl, hmodel⟩
        obtain ⟨rfl, rfl⟩ := append_inj h
        exact absurd hrest hmodel
    · rw [if_neg hrest]
      constructor
      · intro h
        cases h
        exact ⟨rest, rfl, rfl, hrest⟩
      · rintro ⟨rest', h, rfl, -⟩
        obtain ⟨rfl, rfl⟩ := append_inj h
        rfl

/-- A deterministic agent is looked up exactly when the version is of no family. -/
theorem routeOf_deterministic {version : String} : routeOf version = .ok .deterministic ↔
    ∀ p : Provider, ¬ p.family.toList <+: version.toList := by
  refine ⟨fun h => ?_, routeOf_other⟩
  obtain hother | ⟨p, rest, rfl⟩ := family_cases version
  · exact hother
  · rw [routeOf_append] at h
    split at h <;> cases h

/-! ## What no `except` clause catches -/

/-- The exceptions of a model repair that no `except` clause of `execute` catches. -/
inductive Unhandled (P : Providers) (provider : Provider) (model : String) (case : TitledCase) :
    Raised → Prop
  | client {e} : P.client provider = .error e → caught provider e = false →
      Unhandled P provider model case e
  | server {prompt e} : P.client provider = .ok () → repairPrompt case = .ok prompt →
      P.send provider model prompt = .error e → caught provider e = false →
      Unhandled P provider model case e
  | usage {prompt response usage} : provider = .openai ∨ provider = .nim →
      P.client provider = .ok () → repairPrompt case = .ok prompt →
      P.send provider model prompt = .ok (.obj response) → BadUsage P response usage →
      Unhandled P provider model case (attributeError usage)

/-- A `ValueError` is caught for every provider. -/
theorem caught_valueError {e : Raised} (h : e.kind = .valueError) (provider : Provider) :
    caught provider e = true := by
  unfold caught
  cases provider <;> rw [h]

/-- What passes the `except` clause of a client, for readers that raise the client's own error or,
    of an OpenAI-compatible answer, trip over its `usage`. -/
theorem clientRepair_unhandled {ρ : Type} {P : Providers} {provider : Provider}
    {send : String → String → Except Raised ρ}
    {read : String → String → ρ → Except Raised ModelRepair} {model : String} {case : TitledCase}
    (json : ρ → Json)
    (hsend : ∀ prompt, P.send provider model prompt = (send model prompt).map json)
    (hread : ∀ prompt response e, read model prompt response = .error e → caught provider e = true ∨
      (provider = .openai ∨ provider = .nim) ∧ ∃ fields usage, json response = .obj fields ∧
        BadUsage P fields usage ∧ e = attributeError usage)
    (husage : ∀ prompt response fields usage, provider = .openai ∨ provider = .nim →
      json response = .obj fields → BadUsage P fields usage →
      read model prompt response = .error (attributeError usage)) {e : Raised} :
    (clientRepair provider (P.client provider) send read model case).Raises e ∧
      caught provider e = false ↔ Unhandled P provider model case e := by
  rw [clientRepair_raises]
  constructor
  · rintro ⟨hclient | ⟨hclient, hprompt | ⟨prompt, hprompt, herror | ⟨response, hresponse, h⟩⟩⟩, he⟩
    · exact .client hclient he
    · rw [caught_valueError (repairPrompt_error hprompt)] at he
      cases he
    · exact .server hclient hprompt (by rw [hsend, herror]; rfl) he
    · obtain h | ⟨hprovider, fields, usage, hfields, hbad, rfl⟩ := hread prompt response e h
      · rw [h] at he
        cases he
      · exact .usage hprovider hclient hprompt (by rw [hsend, hresponse, ← hfields]; rfl) hbad
  · intro h
    cases h with
    | client hclient he => exact ⟨Or.inl hclient, he⟩
    | server hclient hprompt herror he =>
      rw [hsend] at herror
      exact ⟨Or.inr ⟨hclient, Or.inr ⟨_, hprompt, Or.inl (Raising.map_error herror)⟩⟩, he⟩
    | usage hprovider hclient hprompt hanswer hbad =>
      rw [hsend] at hanswer
      obtain ⟨response, hresponse, hfields⟩ := Raising.map_ok hanswer
      refine ⟨Or.inr ⟨hclient, Or.inr ⟨_, hprompt, Or.inr ⟨response, hresponse, ?_⟩⟩⟩, ?_⟩
      · exact husage _ _ _ _ hprovider hfields hbad
      · obtain rfl | rfl := hprovider <;> rfl

/-- What passes the `except` clause around the repair of a model. -/
theorem modelRepair_unhandled {P : Providers} {provider : Provider} {model : String}
    {case : TitledCase} {e : Raised} :
    (modelRepair P provider model case).Raises e ∧ caught provider e = false ↔
      Unhandled P provider model case e := by
  have hcompatible : ∀ {provider : Provider} {name baseUrl prompt : String} {response : Fields}
      {e : Raised}, provider = .openai ∨ provider = .nim →
      readCompatible P name baseUrl model prompt response = .error e → caught provider e = true ∨
      (provider = .openai ∨ provider = .nim) ∧ ∃ fields usage, Json.obj response = .obj fields ∧
        BadUsage P fields usage ∧ e = attributeError usage := by
    intro provider name baseUrl prompt response e hprovider h
    obtain h | ⟨usage, hbad, rfl⟩ := readCompatible_error h
    · left
      obtain rfl | rfl := hprovider <;> simp [caught, h]
    · exact Or.inr ⟨hprovider, response, usage, rfl, hbad, rfl⟩
  have hbad : ∀ {name baseUrl prompt : String} {response fields : Fields} {usage : Json},
      Json.obj response = .obj fields → BadUsage P fields usage →
      readCompatible P name baseUrl model prompt response = .error (attributeError usage) := by
    intro name baseUrl prompt response fields usage hfields hbad
    obtain rfl := Json.obj.inj hfields
    exact readCompatible_of_badUsage hbad _ _ _ _
  cases provider with
  | ollama =>
    refine clientRepair_unhandled Json.obj (fun _ => rfl) ?_ (by simp)
    intro prompt response e h
    left
    simp [caught, readOllama_error h]
  | openai =>
    refine clientRepair_unhandled Json.obj (fun _ => rfl) ?_ ?_
    · intro prompt response e h
      exact hcompatible (Or.inl rfl) h
    · intro prompt response fields usage _ hfields husage
      exact hbad hfields husage
  | nim =>
    refine clientRepair_unhandled Json.obj (fun _ => rfl) ?_ ?_
    · intro prompt response e h
      exact hcompatible (Or.inr rfl) h
    · intro prompt response fields usage _ hfields husage
      exact hbad hfields husage
  | bedrock =>
    refine clientRepair_unhandled id ?_ ?_ (by simp)
    · intro prompt
      cases h : P.converse model prompt <;> simp [Providers.send, h, Except.map]
    · intro prompt response e h
      left
      simp [caught, readBedrock_error h]

/-! ## What `execute` does -/

section Execute

variable {P : Providers} {version : String} {case : TitledCase} {durationSeconds : Float64}
  {sandbox : String → Except Raised SandboxResult}

/-- The candidate repair: what an agent or a model gives, or what was caught. -/
inductive Repaired (P : Providers) (version : String) (case : TitledCase) : Repair → Prop
  | deterministic {agent source} : (∀ p : Provider, ¬ p.family.toList <+: version.toList) →
      getCodingAgent (P.repr version) version = .ok agent → agent.repair case = .ok source →
      Repaired P version case (.deterministic source)
  | generated {provider model repair} : Names version provider model →
      (modelRepair P provider model case).Returns repair →
      Repaired P version case (.generated repair.source)
  | failed {provider model e} : Names version provider model →
      (modelRepair P provider model case).Raises e → caught provider e = true →
      Repaired P version case (.failed e.typeName e.message)

/-- The source a repair hands to the sandbox. -/
def sourceOf : Repair → Option String
  | .deterministic source | .generated source => some source
  | .failed _ _ => none

/-- The exceptions that leave `execute`. -/
inductive Escapes (P : Providers) (version : String) (case : TitledCase)
    (sandbox : String → Except Raised SandboxResult) : Raised → Prop
  | noModel {provider : Provider} {rest : String} : version = provider.family ++ rest →
      strip rest = "" → Escapes P version case sandbox (valueError provider.noModel)
  | unknownAgent : (∀ p : Provider, ¬ p.family.toList <+: version.toList) →
      version ∉ agentVersions → Escapes P version case sandbox
        ⟨.other, "KeyError", s!"unknown coding agent version {P.repr version}; expected one of: " ++
          "baseline, candidate_fixed, candidate_regressed"⟩
  | unknownKind : version ∈ agentVersions → case.bugKind ∉ bugKinds →
      Escapes P version case sandbox (valueError s!"unknown bug kind: {case.bugKind}")
  | model {provider model e} : Names version provider model → Unhandled P provider model case e →
      Escapes P version case sandbox e
  | sandbox {repair source e} : Repaired P version case repair → sourceOf repair = some source →
      sandbox source = .error e → Escapes P version case sandbox e

/-- A version that cannot be routed raises before anything is asked. -/
theorem execute_refused {e : Raised} (h : routeOf version = .error e) :
    execute P version case durationSeconds sandbox = ⟨[], .error e⟩ :=
  Attempted.bind_of_raises h

/-- A deterministic agent sends no request: its source goes to the sandbox. -/
theorem execute_deterministic {agent : CodingAgent}
    (hroute : ∀ p : Provider, ¬ p.family.toList <+: version.toList)
    (hagent : getCodingAgent (P.repr version) version = .ok agent) {source : String}
    (hsource : agent.repair case = .ok source) :
    execute P version case durationSeconds sandbox =
      runSandbox durationSeconds sandbox [askStep case] [("provider", .str "deterministic")]
        source := by
  unfold execute
  rw [Attempted.of_bind (routeOf_other hroute)]
  simp only
  rw [Attempted.of_bind hagent, Attempted.of_bind hsource]

/-- A model is asked first, and what it answers or raises is handled by `answered`. -/
theorem execute_model {provider : Provider} {model : String} (h : Names version provider model) :
    execute P version case durationSeconds sandbox =
      (modelRepair P provider model case).attempt (caught provider) >>=
        answered durationSeconds sandbox case provider model := by
  unfold execute
  rw [Attempted.of_bind (routeOf_model.mpr h)]

/-! ### The sandbox -/

/-- The sandbox is run once. -/
theorem runSandbox_effects (steps : List Step) (metadata : Fields) (source : String) :
    (runSandbox durationSeconds sandbox steps metadata source).effects = [.sandbox source] := by
  unfold runSandbox
  obtain ⟨h, -⟩ | ⟨result, -, h⟩ := Attempted.effects_bind (x := Attempted.effect
      (Effect.sandbox source) (sandbox source))
  · exact h
  · exact h

/-- Running the sandbox raises what the sandbox raises. -/
theorem runSandbox_raises {steps : List Step} {metadata : Fields} {source : String} {e : Raised} :
    (runSandbox durationSeconds sandbox steps metadata source).Raises e ↔
      sandbox source = .error e := by
  unfold runSandbox
  rw [Attempted.raises_bind, Attempted.raises_effect]
  constructor
  · rintro (h | ⟨result, -, h⟩)
    · exact h
    · exact absurd h Attempted.not_raises_pure
  · exact Or.inl

/-! ### What escapes -/

/-- The deterministic agents are of no family. -/
theorem agentVersions_other {version : String} (h : version ∈ agentVersions) (p : Provider) :
    ¬ p.family.toList <+: version.toList := by
  have hall : ∀ version ∈ agentVersions, ∀ p : Provider,
      ¬ p.family.toList <+: version.toList := by
    intro version hversion p
    simp only [agentVersions, List.mem_cons, List.not_mem_nil, or_false] at hversion
    obtain rfl | rfl | rfl := hversion <;> cases p <;> decide
  exact hall version h p

/-- Once the version is of no family, what raises is the lookup, the repair or the sandbox. -/
theorem execute_raises_other (hroute : ∀ p : Provider, ¬ p.family.toList <+: version.toList)
    {e : Raised} : (execute P version case durationSeconds sandbox).Raises e ↔
      getCodingAgent (P.repr version) version = .error e ∨
        ∃ agent, getCodingAgent (P.repr version) version = .ok agent ∧
          (agent.repair case = .error e ∨ ∃ source, agent.repair case = .ok source ∧
            sandbox source = .error e) := by
  unfold execute
  rw [Attempted.of_bind (routeOf_other hroute)]
  simp only [Attempted.raises_bind, Attempted.raises_of, Attempted.returns_of, runSandbox_raises]

/-- Once the version names a model, what raises is the client, past its `except`, or the sandbox. -/
theorem execute_raises_model {provider : Provider} {model : String}
    (hnames : Names version provider model) {e : Raised} :
    (execute P version case durationSeconds sandbox).Raises e ↔
      Unhandled P provider model case e ∨
        ∃ repair, (modelRepair P provider model case).Returns repair ∧
          sandbox repair.source = .error e := by
  rw [execute_model hnames, Attempted.raises_bind, Attempted.raises_attempt, modelRepair_unhandled]
  refine or_congr_right ⟨?_, ?_⟩
  · rintro ⟨outcome, houtcome, h⟩
    obtain ⟨houtcome, -⟩ := Attempted.returns_attempt.mp houtcome
    cases outcome with
    | error e' => exact absurd h Attempted.not_raises_pure
    | ok repair => exact ⟨repair, houtcome, runSandbox_raises.mp h⟩
  · rintro ⟨repair, hrepair, h⟩
    exact ⟨.ok repair, Attempted.returns_attempt.mpr ⟨hrepair, by simp⟩, runSandbox_raises.mpr h⟩

/-- **What `execute` raises**: a version without a model, an unknown agent, an unknown kind of bug
    under a deterministic agent, what a client's `except` clause lets through, and what the sandbox
    raises.  Every other failure of a model is an output. -/
theorem execute_escapes (P : Providers) (version : String) (case : TitledCase)
    (durationSeconds : Float64) (sandbox : String → Except Raised SandboxResult) (e : Raised) :
    (execute P version case durationSeconds sandbox).Raises e ↔
      Escapes P version case sandbox e := by
  constructor
  · intro h
    obtain hother | ⟨provider, rest, rfl⟩ := family_cases version
    · obtain h | ⟨agent, hagent, h | ⟨source, hsource, h⟩⟩ := (execute_raises_other hother).mp h
      · obtain ⟨hversion, rfl⟩ := getCodingAgent_error.mp h
        exact .unknownAgent hother hversion
      · obtain ⟨hkind, rfl⟩ := repair_error.mp h
        refine .unknownKind ?_ hkind
        by_contra hversion
        cases (getCodingAgent_error.mpr ⟨hversion, rfl⟩).symm.trans hagent
      · exact .sandbox (.deterministic hother hagent hsource) rfl h
    · by_cases hrest : strip rest = ""
      · rw [execute_refused (routeOf_error.mpr ⟨provider, rest, rfl, hrest, rfl⟩)] at h
        obtain rfl := Except.error.inj h
        exact .noModel rfl hrest
      · have hnames : Names (provider.family ++ rest) provider (strip rest) :=
          ⟨rest, rfl, rfl, hrest⟩
        obtain h | ⟨repair, hrepair, h⟩ := (execute_raises_model hnames).mp h
        · exact .model hnames h
        · exact .sandbox (.generated hnames hrepair) rfl h
  · intro h
    cases h with
    | noModel hversion hrest =>
      rw [execute_refused (routeOf_error.mpr ⟨_, _, hversion, hrest, rfl⟩)]
      rfl
    | unknownAgent hother hversion =>
      exact (execute_raises_other hother).mpr (Or.inl (getCodingAgent_error.mpr ⟨hversion, rfl⟩))
    | unknownKind hversion hkind =>
      refine (execute_raises_other (agentVersions_other hversion)).mpr (Or.inr ?_)
      cases hagent : getCodingAgent (P.repr version) version with
      | error e => exact absurd hversion (getCodingAgent_error.mp hagent).1
      | ok agent => exact ⟨agent, rfl, Or.inl (repair_error.mpr ⟨hkind, rfl⟩)⟩
    | model hnames h => exact (execute_raises_model hnames).mpr (Or.inl h)
    | sandbox hrepaired hsource h =>
      cases hrepaired with
      | deterministic hother hagent hrepair =>
        obtain rfl := Option.some.inj hsource
        exact (execute_raises_other hother).mpr (Or.inr ⟨_, hagent, Or.inr ⟨_, hrepair, h⟩⟩)
      | generated hnames hrepair =>
        obtain rfl := Option.some.inj hsource
        exact (execute_raises_model hnames).mpr (Or.inr ⟨_, hrepair, h⟩)
      | failed => cases hsource

/-! ### Requests, sandbox runs and outputs -/

/-- What the evaluators read of a step: its kind and `data.get("name")`. -/
def Step.toTrajectoryStep (step : Step) : TrajectoryStep where
  kind := step.kind
  name :=
    match step.data.lookup "name" with
    | some (.str name) => some name
    | _ => none

/-- What the evaluators read of an output. -/
def Output.toAgentOutput (output : Output) : AgentOutput where
  trajectory := output.trajectory.map Step.toTrajectoryStep
  patch := output.patch
  modifiedFiles := output.modifiedFiles
  publicTestOutput := output.publicTestOutput
  hiddenTestOutput := output.hiddenTestOutput
  durationSeconds := output.durationSeconds
  status := output.status
  error := output.error

/-- What a run of `execute` does outside, and what it returns.

    At most one request is sent, to the provider the version names, with the prompt of the case;
    then the sandbox runs at most once, on exactly the source of the repair.  An output is what the
    evaluators' model of the runtime builds from that repair. -/
structure Routed (P : Providers) (version : String) (case : TitledCase) (durationSeconds : Float64)
    (sandbox : String → Except Raised SandboxResult) (x : Attempted Effect Raised Output) :
    Prop where
  log : ∃ requests runs, x.effects = requests ++ runs ∧ requests.length ≤ 1 ∧ runs.length ≤ 1 ∧
    (∀ effect ∈ requests, ∃ provider model prompt, effect = .request provider model prompt ∧
      Names version provider model ∧ repairPrompt case = .ok prompt) ∧
    ∀ effect ∈ runs, ∃ source, effect = .sandbox source
  sandboxed : ∀ source, .sandbox source ∈ x.effects ↔
    ∃ repair, Repaired P version case repair ∧ sourceOf repair = some source
  returned : ∀ output, x.Returns output → ∃ repair, Repaired P version case repair ∧
    Evaluation.execute repair durationSeconds
      (fun source => (sandbox source).mapError (·.message)) = .ok output.toAgentOutput

/-- The output is made of the result of the sandbox. -/
theorem runSandbox_returns {steps : List Step} {metadata : Fields} {source : String}
    {output : Output}
    (h : (runSandbox durationSeconds sandbox steps metadata source).Returns output) :
    ∃ result, sandbox source = .ok result ∧ output.toAgentOutput =
      outputOfSandbox (steps.map Step.toTrajectoryStep) durationSeconds result := by
  obtain ⟨result, hresult, h⟩ := Attempted.returns_bind.mp h
  obtain rfl := Attempted.returns_pure.mp h
  refine ⟨result, hresult, ?_⟩
  have hcalls : result.toolCalls.map (fun call => (callStep call).toTrajectoryStep) =
      result.toolCalls.map fun call => ⟨.toolCall, some call.name⟩ := rfl
  have hresults :
      result.toolResults.map (fun toolResult => (resultStep toolResult).toTrajectoryStep) =
        result.toolResults.map fun toolResult => ⟨.toolResult, some toolResult.name⟩ := rfl
  simp only [Output.toAgentOutput, outputOfSandbox, List.map_append, List.map_map,
    Function.comp_def, hcalls, hresults]
  rfl

/-- A repair is determined by the version, the case and the surroundings. -/
theorem Repaired.unique {repair repair' : Repair} (h : Repaired P version case repair)
    (h' : Repaired P version case repair') : repair = repair' := by
  have hroute : ∀ {provider model}, Names version provider model →
      ¬ ∀ p : Provider, ¬ p.family.toList <+: version.toList := by
    rintro provider model ⟨rest, rfl, -⟩ hother
    exact hother provider (by simp)
  have hmodel : ∀ {provider model provider' model'}, Names version provider model →
      Names version provider' model' → provider = provider' ∧ model = model' := by
    intro provider model provider' model' hnames hnames'
    have h := (routeOf_model.mpr hnames).symm.trans (routeOf_model.mpr hnames')
    exact Route.model.inj (Except.ok.inj h)
  cases h with
  | deterministic hother hagent hsource =>
    cases h' with
    | deterministic _ hagent' hsource' =>
      obtain rfl := Except.ok.inj (hagent.symm.trans hagent')
      obtain rfl := Except.ok.inj (hsource.symm.trans hsource')
      rfl
    | generated hnames => exact absurd hother (hroute hnames)
    | failed hnames => exact absurd hother (hroute hnames)
  | generated hnames hrepair =>
    cases h' with
    | deterministic hother => exact absurd hother (hroute hnames)
    | generated hnames' hrepair' =>
      obtain ⟨rfl, rfl⟩ := hmodel hnames hnames'
      obtain rfl := hrepair.unique hrepair'
      rfl
    | failed hnames' he =>
      obtain ⟨rfl, rfl⟩ := hmodel hnames hnames'
      exact absurd he hrepair.not_raises
  | failed hnames he =>
    cases h' with
    | deterministic hother => exact absurd hother (hroute hnames)
    | generated hnames' hrepair =>
      obtain ⟨rfl, rfl⟩ := hmodel hnames hnames'
      exact absurd he hrepair.not_raises
    | failed hnames' he' =>
      obtain ⟨rfl, rfl⟩ := hmodel hnames hnames'
      obtain rfl := Except.error.inj (he.symm.trans he')
      rfl

/-- A run that ends in the sandbox on the source of a repair, after at most one request. -/
theorem Routed.of_source {x : Attempted Effect Raised Output} {repair : Repair} {source : String}
    (requests : List Effect) (hrepaired : Repaired P version case repair)
    (hsource : sourceOf repair = some source) (heffects : x.effects = requests ++ [.sandbox source])
    (hlength : requests.length ≤ 1)
    (hrequests : ∀ effect ∈ requests, ∃ provider model prompt,
      effect = .request provider model prompt ∧ Names version provider model ∧
        repairPrompt case = .ok prompt)
    (hreturned : ∀ output, x.Returns output → ∃ result, sandbox source = .ok result ∧
      output.toAgentOutput =
        outputOfSandbox (⟨.message, none⟩ :: repair.steps) durationSeconds result) :
    Routed P version case durationSeconds sandbox x where
  log := ⟨requests, [.sandbox source], heffects, hlength, le_rfl, hrequests, by simp⟩
  sandboxed := by
    intro source'
    rw [heffects]
    constructor
    · intro h
      obtain h | h := List.mem_append.mp h
      · obtain ⟨_, _, _, h, -⟩ := hrequests _ h
        cases h
      · obtain rfl := Effect.sandbox.inj (List.mem_singleton.mp h)
        exact ⟨repair, hrepaired, hsource⟩
    · rintro ⟨repair', hrepaired', hsource'⟩
      obtain rfl := hrepaired.unique hrepaired'
      obtain rfl := Option.some.inj (hsource.symm.trans hsource')
      simp
  returned := by
    intro output houtput
    obtain ⟨result, hresult, heq⟩ := hreturned output houtput
    refine ⟨repair, hrepaired, ?_⟩
    rw [heq]
    cases repair with
    | deterministic =>
      obtain rfl := Option.some.inj hsource
      simp [Evaluation.execute, hresult, Except.mapError, Except.map]
    | generated =>
      obtain rfl := Option.some.inj hsource
      simp [Evaluation.execute, hresult, Except.mapError, Except.map]
    | failed => cases hsource

/-- A run without the sandbox, where no repair has a source. -/
theorem Routed.of_failure {x : Attempted Effect Raised Output}
    (hnone : ∀ repair, Repaired P version case repair → sourceOf repair = none)
    (hlength : x.effects.length ≤ 1)
    (hrequests : ∀ effect ∈ x.effects, ∃ provider model prompt,
      effect = .request provider model prompt ∧ Names version provider model ∧
        repairPrompt case = .ok prompt)
    (hreturned : ∀ output, x.Returns output → ∃ repair, Repaired P version case repair ∧
      Evaluation.execute repair durationSeconds
        (fun source => (sandbox source).mapError (·.message)) = .ok output.toAgentOutput) :
    Routed P version case durationSeconds sandbox x where
  log := ⟨x.effects, [], by simp, hlength, by simp, hrequests, by simp⟩
  sandboxed := by
    intro source
    constructor
    · intro h
      obtain ⟨_, _, _, h, -⟩ := hrequests _ h
      cases h
    · rintro ⟨repair, hrepaired, hsource⟩
      cases (hnone repair hrepaired).symm.trans hsource
  returned := hreturned

/-- The run of a version that names a model. -/
theorem routed_model {provider : Provider} {model : String}
    (hnames : Names version provider model) : Routed P version case durationSeconds sandbox
      (execute P version case durationSeconds sandbox) := by
  have hlength : (modelRepair P provider model case).effects.length ≤ 1 := by
    obtain h | ⟨prompt, -, h⟩ := modelRepair_effects P provider model case <;> simp [h]
  have hrequests : ∀ effect ∈ (modelRepair P provider model case).effects,
      ∃ provider model prompt, effect = .request provider model prompt ∧
        Names version provider model ∧ repairPrompt case = .ok prompt := by
    intro effect heffect
    obtain h | ⟨prompt, hprompt, h⟩ := modelRepair_effects P provider model case
    · simp [h] at heffect
    · rw [h] at heffect
      exact ⟨provider, model, prompt, List.mem_singleton.mp heffect, hnames, hprompt⟩
  have hfailed : ∀ {e}, (modelRepair P provider model case).Raises e → ∀ repair,
      Repaired P version case repair → sourceOf repair = none := by
    intro e he repair hrepaired
    cases hrepaired with
    | deterministic hother =>
      cases (routeOf_other hother).symm.trans (routeOf_model.mpr hnames)
    | generated hnames' hrepair =>
      cases (routeOf_model.mpr hnames).symm.trans (routeOf_model.mpr hnames')
      exact absurd he hrepair.not_raises
    | failed => rfl
  obtain ⟨repair, hrepair⟩ | ⟨e, he⟩ := (modelRepair P provider model case).returns_or_raises
  · have hattempt : ((modelRepair P provider model case).attempt (caught provider)).Returns
        (.ok repair) := Attempted.returns_attempt.mpr ⟨hrepair, by simp⟩
    rw [execute_model hnames, Attempted.bind_of_returns hattempt, Attempted.effects_attempt]
    refine Routed.of_source _ (.generated hnames hrepair) rfl ?_ hlength hrequests ?_
    · exact congrArg _ (runSandbox_effects _ _ _)
    · intro output houtput
      exact runSandbox_returns houtput
  · cases hcaught : caught provider e with
    | false =>
      have hraises : ((modelRepair P provider model case).attempt (caught provider)).Raises e :=
        Attempted.raises_attempt.mpr ⟨he, hcaught⟩
      rw [execute_model hnames, Attempted.bind_of_raises hraises, Attempted.effects_attempt]
      refine Routed.of_failure (hfailed he) hlength hrequests ?_
      intro output houtput
      cases houtput
    | true =>
      have hattempt : ((modelRepair P provider model case).attempt (caught provider)).Returns
          (.error e) :=
        Attempted.returns_attempt.mpr ⟨he, fun e' he' => Except.error.inj he' ▸ hcaught⟩
      have heffects : (answered durationSeconds sandbox case provider model
          (.error e)).effects = [] := rfl
      rw [execute_model hnames, Attempted.bind_of_returns hattempt, Attempted.effects_attempt,
        heffects, List.append_nil]
      refine Routed.of_failure (hfailed he) hlength hrequests ?_
      intro output houtput
      obtain rfl : failedOutput durationSeconds [askStep case, modelStep model] provider model e =
          output := Except.ok.inj houtput
      exact ⟨_, .failed hnames he hcaught, rfl⟩

/-- **What `execute` does**: at most one request, to the provider the version names, and then at
    most one run of the sandbox, on exactly the source the repair gives; a repair that failed is
    never run. -/
theorem execute_routed (P : Providers) (version : String) (case : TitledCase)
    (durationSeconds : Float64) (sandbox : String → Except Raised SandboxResult) :
    Routed P version case durationSeconds sandbox
      (execute P version case durationSeconds sandbox) := by
  cases hroute : routeOf version with
  | error e =>
    rw [execute_refused hroute]
    refine Routed.of_failure ?_ (by simp) (by simp) ?_
    · intro repair hrepaired
      cases hrepaired with
      | deterministic hother => cases (routeOf_other hother).symm.trans hroute
      | generated hnames => cases (routeOf_model.mpr hnames).symm.trans hroute
      | failed => rfl
    · intro output houtput
      cases houtput
  | ok route =>
    cases route with
    | model provider model => exact routed_model (routeOf_model.mp hroute)
    | deterministic =>
      have hother := routeOf_deterministic.mp hroute
      by_cases hrepaired : ∃ repair, Repaired P version case repair ∧ sourceOf repair ≠ none
      · obtain ⟨repair, hrepaired, hsome⟩ := hrepaired
        cases hrepaired with
        | deterministic _ hagent hsource =>
          rw [execute_deterministic hother hagent hsource]
          refine Routed.of_source [] (.deterministic hother hagent hsource) rfl
            (runSandbox_effects _ _ _) (by simp) (by simp) ?_
          intro output houtput
          exact runSandbox_returns houtput
        | generated hnames => cases (routeOf_model.mpr hnames).symm.trans hroute
        | failed => exact absurd rfl hsome
      · have hraises : ∃ e, execute P version case durationSeconds sandbox = ⟨[], .error e⟩ := by
          unfold execute
          rw [Attempted.of_bind hroute]
          simp only
          cases hagent : getCodingAgent (P.repr version) version with
          | error e => exact ⟨e, rfl⟩
          | ok agent =>
            rw [Attempted.of_bind rfl]
            cases hsource : agent.repair case with
            | error e => exact ⟨e, rfl⟩
            | ok source =>
              exact absurd ⟨_, .deterministic hother hagent hsource, by simp [sourceOf]⟩ hrepaired
        obtain ⟨e, he⟩ := hraises
        rw [he]
        refine Routed.of_failure ?_ (by simp) (by simp) ?_
        · intro repair h
          by_contra hsome
          exact hrepaired ⟨repair, h, hsome⟩
        · intro output houtput
          cases houtput

end Execute

end AEControl.Evaluation.Runtime
