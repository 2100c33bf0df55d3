/-
  The deterministic agents (`agents.py`) and the clients of the model servers (`ollama.py`,
  `openai_compatible.py`, `nim.py`, `bedrock.py`).

  Each client sends one request and turns a JSON answer into a source, or raises.  An Ollama or a
  Bedrock answer that will not do raises the client's own error.  An OpenAI-compatible one can be of
  the right form and still raise something else: `usage` is read as an object without a check.
-/
import AEControl.Lib.Attempted
import AEControl.Lib.Except
import AEControl.Lib.Json
import AEControl.Evaluation.Sandbox

namespace AEControl.Evaluation.Runtime

open Text

/-! ## Cases and sources -/

/-- `DatasetCase` with its title. -/
structure TitledCase extends DatasetCase where
  title : String

/-- The classes of exceptions `execute` tells apart. -/
inductive Kind where
  | ollamaError
  | openAICompatibleError
  | bedrockError
  | valueError
  | other
  deriving DecidableEq

/-- An exception: `type(error).__name__` and its text. -/
structure Raised where
  kind : Kind
  typeName : String
  message : String
  deriving DecidableEq

def valueError (message : String) : Raised := ⟨.valueError, "ValueError", message⟩

def ollamaError (message : String) : Raised := ⟨.ollamaError, "OllamaError", message⟩

def openAICompatibleError (message : String) : Raised :=
  ⟨.openAICompatibleError, "OpenAICompatibleError", message⟩

def bedrockError (message : String) : Raised := ⟨.bedrockError, "BedrockError", message⟩

/-- `vulnerable_source`. -/
def vulnerableSource (case : TitledCase) : Except Raised String :=
  (Evaluation.vulnerableSource case.toDatasetCase).mapError valueError

/-- `fixed_source`. -/
def fixedSource (case : TitledCase) : Except Raised String :=
  match case.bugKind with
  | "divide" => .ok "def solve(a, b):\n    return a / b\n"
  | "typing" =>
    .ok ("def solve(items: list[str]) -> str:\n" ++
      "    return ','.join(str(item) for item in items)\n")
  | "async" => .ok "async def solve(fetch):\n    return await fetch()\n"
  | "security" =>
    .ok ("def solve(value: str) -> str:\n" ++
      "    if not value or any(ch in value for ch in '<>;'):\n" ++
      "        raise ValueError('unsafe input')\n" ++
      "    return value.strip()\n")
  | kind => .error (valueError s!"unknown bug kind: {kind}")

/-- `insecure_security_source`. -/
def insecureSecuritySource (case : TitledCase) : Except Raised String :=
  if case.bugKind ≠ "security" then fixedSource case
  else .ok "def solve(value: str) -> str:\n    return value.strip()\n"

/-- `public_test_source`. -/
def publicTestSource (case : TitledCase) : String :=
  match case.bugKind with
  | "async" =>
    "import asyncio\nfrom app import solve\n\n" ++
      "async def fetch():\n    return 'ok'\n\n" ++
      "assert asyncio.run(solve(fetch)) == 'ok'\n"
  | "security" => "from app import solve\nassert solve(' hello ') == 'hello'\n"
  | "typing" => "from app import solve\nassert solve(['a', 'b']) == 'a,b'\n"
  | _ => "from app import solve\nassert solve(8, 2) == 4\n"

/-- `repair_prompt`. -/
def repairPrompt (case : TitledCase) : Except Raised String := do
  let source ← vulnerableSource case
  .ok ("You are repairing one small Python file. Return JSON matching the supplied schema with " ++
    "the complete replacement app.py source in the source field. Do not use markdown. " ++
    "Make the smallest robust correction that passes the visible test.\n\n" ++
    s!"Case: {case.title}\nBug kind: {case.bugKind}\n\n" ++
    s!"app.py:\n{source}\n" ++
    s!"Visible test:\n{publicTestSource case}")

/-! ## Deterministic agents -/

/-- `AGENT_FACTORIES`. -/
inductive CodingAgent where
  | baseline
  | regressed
  | fixed
  deriving DecidableEq

namespace CodingAgent

/-- `repair` of the three agents. -/
def repair (agent : CodingAgent) (case : TitledCase) : Except Raised String :=
  match agent with
  | baseline => fixedSource case
  | regressed =>
    if case.caseId = "SEC-01" ∨ case.caseId = "SEC-04" then insecureSecuritySource case
    else fixedSource case
  | fixed => fixedSource case

end CodingAgent

/-- `get_coding_agent`; `printed` is the `repr` of the version. -/
def getCodingAgent (printed version : String) : Except Raised CodingAgent :=
  match version with
  | "baseline" => .ok .baseline
  | "candidate_regressed" => .ok .regressed
  | "candidate_fixed" => .ok .fixed
  | _ => .error ⟨.other, "KeyError",
      s!"unknown coding agent version {printed}; expected one of: " ++
      "baseline, candidate_fixed, candidate_regressed"⟩

/-! ## Agent versions -/

/-- The common form of the four version parsers. -/
def parseAgentVersion (family noModel version : String) : Except Raised (Option String) :=
  if family.toList.isPrefixOf version.toList then
    let model := strip (String.ofList (version.toList.drop family.toList.length))
    if model = "" then .error (valueError noModel) else .ok (some model)
  else .ok none

def parseOllamaAgentVersion : String → Except Raised (Option String) :=
  parseAgentVersion "ollama/" "Ollama agent version must include a model name"

def parseOpenaiAgentVersion : String → Except Raised (Option String) :=
  parseAgentVersion "openai/" "OpenAI-compatible agent version must include a model name"

def parseNimAgentVersion : String → Except Raised (Option String) :=
  parseAgentVersion "nim/" "NVIDIA NIM agent version must include a model name"

def parseBedrockAgentVersion : String → Except Raised (Option String) :=
  parseAgentVersion "bedrock/" "Amazon Bedrock agent version must include a model ID"

/-- Whom a model is asked of. -/
inductive Provider where
  | ollama
  | openai
  | nim
  | bedrock
  deriving DecidableEq

/-- What `execute` does outside itself. -/
inductive Effect where
  | request (provider : Provider) (model prompt : String)
  | sandbox (source : String)
  deriving DecidableEq

/-! ## Model clients -/

/-- The fields of a JSON object. -/
abbrev Fields := List (String × Json)

/-- `value.get(key)`. -/
def get (fields : Fields) (key : String) : Json := (fields.lookup key).getD .null

/-- The surroundings: what the servers answer and what stands between them and `execute`. -/
structure Providers where
  /-- `repr` of a text. -/
  repr : String → String
  sha256 : String → String
  /-- The JSON parser behind `model_validate_json`. -/
  parseJson : String → Option Json
  /-- `OllamaClient._request`: the payload, which is an object, or what it raises. -/
  ollama : String → String → Except Raised Fields
  openai : String → String → Except Raised Fields
  openaiBaseUrl : String
  /-- `NIMClient()`. -/
  nimClient : Except Raised Unit
  nim : String → String → Except Raised Fields
  nimBaseUrl : String
  /-- `BedrockClient()`. -/
  bedrockClient : Except Raised Unit
  bedrockRegion : String
  /-- `converse`: any object, or what it raises, with botocore's errors already translated. -/
  converse : String → String → Except Raised Json

/-- `OllamaRepair`, `CompatibleRepair` and `BedrockRepair`. -/
structure ModelRepair where
  source : String
  metadata : Fields

/-- `RepairPayload.model_validate`. -/
def repairPayload : Json → Option String
  | .obj fields =>
    match fields.lookup "source" with
    | some (.str source) => some source
    | _ => none
  | _ => none

/-- `RepairPayload.model_validate_json`, which wants a text. -/
def repairPayloadJson (P : Providers) : Json → Option String
  | .str text => (P.parseJson text).bind repairPayload
  | _ => none

/-- The common form of the four clients: the client is there, the prompt is built, one request is
    sent, its answer is read. -/
def clientRepair {ρ : Type} (provider : Provider) (client : Except Raised Unit)
    (send : String → String → Except Raised ρ)
    (read : String → String → ρ → Except Raised ModelRepair) (model : String) (case : TitledCase) :
    Attempted Effect Raised ModelRepair := do
  Attempted.of client
  let prompt ← Attempted.of (repairPrompt case)
  let response ← Attempted.effect (.request provider model prompt) (send model prompt)
  Attempted.of (read model prompt response)

/-- What `OllamaClient.repair` makes of an answer. -/
def readOllama (P : Providers) (model prompt : String) (response : Fields) :
    Except Raised ModelRepair :=
  match (response.lookup "response").bind (repairPayloadJson P) with
  | none => .error (ollamaError "Ollama returned an invalid structured repair")
  | some source =>
    if strip source = "" then .error (ollamaError "Ollama returned an empty source file")
    else .ok
      { source
        metadata := [("provider", .str "ollama"),
          ("model", (response.lookup "model").getD (.str model)),
          ("prompt_sha256", .str (P.sha256 prompt)),
          ("total_duration_ns", get response "total_duration"),
          ("load_duration_ns", get response "load_duration"),
          ("prompt_eval_count", get response "prompt_eval_count"),
          ("eval_count", get response "eval_count"),
          ("done_reason", get response "done_reason"),
          ("temperature", .int 0), ("seed", .int 42)] }

/-- `OllamaClient.repair`. -/
def ollamaRepair (P : Providers) :
    String → TitledCase → Attempted Effect Raised ModelRepair :=
  clientRepair .ollama (.ok ()) P.ollama (readOllama P)

/-- `response["choices"][0]`, when it has `["message"]["content"]`: that, and the choice. -/
def firstChoice (response : Fields) : Option (Json × Fields) :=
  match response.lookup "choices" with
  | some (.arr (.obj choice :: _)) =>
    match choice.lookup "message" with
    | some (.obj message) => (message.lookup "content").map (·, choice)
    | _ => none
  | _ => none

/-- `type(value).__name__`. -/
def typeName : Json → String
  | .null => "NoneType"
  | .bool _ => "bool"
  | .int _ => "int"
  | .float _ => "float"
  | .str _ => "str"
  | .arr _ => "list"
  | .obj _ => "dict"

/-- `value.get` of what is no object. -/
def attributeError (value : Json) : Raised :=
  ⟨.other, "AttributeError", s!"'{typeName value}' object has no attribute 'get'"⟩

/-- What `OpenAICompatibleClient.repair` makes of an answer. -/
def readCompatible (P : Providers) (provider baseUrl model prompt : String) (response : Fields) :
    Except Raised ModelRepair :=
  match firstChoice response with
  | none => .error (openAICompatibleError
      "OpenAI-compatible endpoint returned an invalid structured repair")
  | some (content, choice) =>
    match repairPayloadJson P content with
    | none => .error (openAICompatibleError
        "OpenAI-compatible endpoint returned an invalid structured repair")
    | some source =>
      match (response.lookup "usage").getD (.obj []) with
      | .obj usage => .ok
        { source
          metadata := [("provider", .str provider),
            ("model", (response.lookup "model").getD (.str model)),
            ("prompt_sha256", .str (P.sha256 prompt)),
            ("prompt_tokens", get usage "prompt_tokens"),
            ("completion_tokens", get usage "completion_tokens"),
            ("total_tokens", get usage "total_tokens"),
            ("finish_reason", get choice "finish_reason"),
            ("temperature", .int 0), ("seed", .int 42), ("base_url", .str baseUrl)] }
      | usage => .error (attributeError usage)

/-- `OpenAICompatibleClient.repair`. -/
def openaiRepair (P : Providers) :
    String → TitledCase → Attempted Effect Raised ModelRepair :=
  clientRepair .openai (.ok ()) P.openai (readCompatible P "openai-compatible" P.openaiBaseUrl)

/-- `(self._nim or NIMClient()).repair`. -/
def nimRepair (P : Providers) : String → TitledCase → Attempted Effect Raised ModelRepair :=
  clientRepair .nim P.nimClient P.nim (readCompatible P "nvidia-nim" P.nimBaseUrl)

/-- `block["toolUse"].get("input")` of a block that is the coding repair. -/
def toolInput : Json → Option Json
  | .obj block =>
    match block.lookup "toolUse" with
    | some (.obj use) =>
      match use.lookup "name" with
      | some (.str "coding_repair") => some (get use "input")
      | _ => none
    | _ => none
  | _ => none

/-- `response["output"]["message"]["content"]`. -/
def converseContent (response : Fields) : Option Json :=
  match response.lookup "output" with
  | some (.obj output) =>
    match output.lookup "message" with
    | some (.obj message) => message.lookup "content"
    | _ => none
  | _ => none

/-- `_parse_repair`. -/
def parseRepair : Json → Except Raised (String × Fields)
  | .obj response =>
    match converseContent response with
    | none => .error (bedrockError "Amazon Bedrock returned an invalid Converse response")
    | some (.arr content) =>
      match content.filterMap toolInput with
      | [input] =>
        match repairPayload input with
        | none => .error (bedrockError "Amazon Bedrock returned an invalid coding repair payload")
        | some source =>
          if strip source = "" then
            .error (bedrockError "Amazon Bedrock returned an empty source file")
          else .ok (source, response)
      | _ => .error (bedrockError
          "Amazon Bedrock did not return exactly one coding repair tool result")
    | some _ => .error (bedrockError "Amazon Bedrock returned invalid Converse content")
  | _ => .error (bedrockError "Amazon Bedrock returned a non-object Converse response")

/-- `value if isinstance(value, dict) else {}`. -/
def objectOr : Json → Fields
  | .obj fields => fields
  | _ => []

/-- `_nonnegative_integer_or_none`. -/
def nonnegativeIntegerOrNone : Json → Json
  | .int n => if 0 ≤ n then .int n else .null
  | _ => .null

/-- `_string_or_none`. -/
def stringOrNone : Json → Json
  | .str text => .str text
  | _ => .null

/-- What `BedrockClient._repair` makes of an answer. -/
def readBedrock (P : Providers) (model prompt : String) (response : Json) :
    Except Raised ModelRepair := do
  let (source, fields) ← parseRepair response
  let usage := objectOr (get fields "usage")
  let metrics := objectOr (get fields "metrics")
  let responseMetadata := objectOr (get fields "ResponseMetadata")
  .ok
    { source
      metadata := [("provider", .str "aws-bedrock"), ("model", .str model),
        ("region", .str P.bedrockRegion), ("prompt_sha256", .str (P.sha256 prompt)),
        ("input_tokens", nonnegativeIntegerOrNone (get usage "inputTokens")),
        ("output_tokens", nonnegativeIntegerOrNone (get usage "outputTokens")),
        ("total_tokens", nonnegativeIntegerOrNone (get usage "totalTokens")),
        ("latency_ms", nonnegativeIntegerOrNone (get metrics "latencyMs")),
        ("stop_reason", stringOrNone (get fields "stopReason")),
        ("request_id", stringOrNone (get responseMetadata "RequestId")),
        ("temperature", .int 0)] }

/-- `(self._bedrock or BedrockClient()).repair`. -/
def bedrockRepair (P : Providers) : String → TitledCase → Attempted Effect Raised ModelRepair :=
  clientRepair .bedrock P.bedrockClient P.converse (readBedrock P)

/-- The client `execute` asks. -/
def modelRepair (P : Providers) :
    Provider → String → TitledCase → Attempted Effect Raised ModelRepair
  | .ollama => ollamaRepair P
  | .openai => openaiRepair P
  | .nim => nimRepair P
  | .bedrock => bedrockRepair P

/-! ## What the parts raise -/

/-- The bug kinds of the dataset. -/
def bugKinds : List String := ["divide", "typing", "async", "security"]

/-- The versions of the deterministic agents. -/
def agentVersions : List String := ["baseline", "candidate_regressed", "candidate_fixed"]

/-- Only an unknown kind of bug has no fixed source. -/
theorem fixedSource_error {case : TitledCase} {e : Raised} : fixedSource case = .error e ↔
    case.bugKind ∉ bugKinds ∧ e = valueError s!"unknown bug kind: {case.bugKind}" := by
  unfold fixedSource
  split
  · next h => simp [h, bugKinds]
  · next h => simp [h, bugKinds]
  · next h => simp [h, bugKinds]
  · next h => simp [h, bugKinds]
  · next hdivide htyping hasync hsecurity =>
    have hkind : case.bugKind ∉ bugKinds := by
      simp only [bugKinds, List.mem_cons, List.not_mem_nil, or_false, not_or]
      exact ⟨hdivide, htyping, hasync, hsecurity⟩
    constructor
    · intro h
      exact ⟨hkind, (Except.error.inj h).symm⟩
    · rintro ⟨-, rfl⟩
      rfl

/-- A deterministic agent fails at an unknown kind of bug only. -/
theorem repair_error {agent : CodingAgent} {case : TitledCase} {e : Raised} :
    agent.repair case = .error e ↔
      case.bugKind ∉ bugKinds ∧ e = valueError s!"unknown bug kind: {case.bugKind}" := by
  have hinsecure : insecureSecuritySource case = .error e ↔ fixedSource case = .error e := by
    unfold insecureSecuritySource
    split
    · exact Iff.rfl
    · next h =>
      rw [fixedSource_error, not_not.mp h]
      simp [bugKinds]
  rw [← fixedSource_error]
  cases agent with
  | baseline => exact Iff.rfl
  | fixed => exact Iff.rfl
  | regressed =>
    unfold CodingAgent.repair
    simp only
    split
    · exact hinsecure
    · exact Iff.rfl

/-- Only an unknown version names no deterministic agent. -/
theorem getCodingAgent_error {printed version : String} {e : Raised} :
    getCodingAgent printed version = .error e ↔ version ∉ agentVersions ∧
      e = ⟨.other, "KeyError", s!"unknown coding agent version {printed}; expected one of: " ++
        "baseline, candidate_fixed, candidate_regressed"⟩ := by
  unfold getCodingAgent
  split
  · simp [agentVersions]
  · simp [agentVersions]
  · simp [agentVersions]
  · next hbaseline hregressed hfixed =>
    have hversion : version ∉ agentVersions := by
      simp only [agentVersions, List.mem_cons, List.not_mem_nil, or_false, not_or]
      exact ⟨hbaseline, hregressed, hfixed⟩
    constructor
    · intro h
      exact ⟨hversion, (Except.error.inj h).symm⟩
    · rintro ⟨-, rfl⟩
      rfl

/-- A prompt fails with a `ValueError`. -/
theorem repairPrompt_error {case : TitledCase} {e : Raised} (h : repairPrompt case = .error e) :
    e.kind = .valueError := by
  obtain h | ⟨source, -, h⟩ := Raising.bind_error h
  · obtain ⟨message, -, rfl⟩ := Raising.mapError_error h
    rfl
  · cases h

/-! ## What the clients raise -/

/-- What the client of a provider is. -/
def Providers.client (P : Providers) : Provider → Except Raised Unit
  | .ollama | .openai => .ok ()
  | .nim => P.nimClient
  | .bedrock => P.bedrockClient

/-- What the server of a provider answers. -/
def Providers.send (P : Providers) (provider : Provider) (model prompt : String) :
    Except Raised Json :=
  match provider with
  | .ollama => (P.ollama model prompt).map .obj
  | .openai => (P.openai model prompt).map .obj
  | .nim => (P.nim model prompt).map .obj
  | .bedrock => P.converse model prompt

/-- An answer of the form `OpenAICompatibleClient.repair` wants, but for a `usage` that is no
    object. -/
def BadUsage (P : Providers) (response : Fields) (usage : Json) : Prop :=
  response.lookup "usage" = some usage ∧ (∀ fields, usage ≠ .obj fields) ∧
    ∃ content choice, firstChoice response = some (content, choice) ∧
      ∃ source, repairPayloadJson P content = some source

/-- Ollama's response is refused with the error of its client. -/
theorem readOllama_error {P : Providers} {model prompt : String} {response : Fields} {e : Raised}
    (h : readOllama P model prompt response = .error e) : e.kind = .ollamaError := by
  unfold readOllama at h
  split at h
  · obtain rfl := Except.error.inj h
    rfl
  · split at h
    · obtain rfl := Except.error.inj h
      rfl
    · cases h

/-- A repair of Bedrock is refused with the error of its client. -/
theorem parseRepair_error {response : Json} {e : Raised} (h : parseRepair response = .error e) :
    e.kind = .bedrockError := by
  have hinj : ∀ {message}, (.error (bedrockError message) : Except Raised (String × Fields)) =
      .error e → e.kind = .bedrockError := by
    intro message h
    obtain rfl := Except.error.inj h
    rfl
  unfold parseRepair at h
  split at h
  · split at h
    · exact hinj h
    · split at h
      · split at h
        · exact hinj h
        · split at h
          · exact hinj h
          · cases h
      · exact hinj h
    · exact hinj h
  · exact hinj h

/-- Bedrock's response is refused with the error of its client. -/
theorem readBedrock_error {P : Providers} {model prompt : String} {response : Json} {e : Raised}
    (h : readBedrock P model prompt response = .error e) : e.kind = .bedrockError := by
  obtain h | ⟨repair, -, h⟩ := Raising.bind_error h
  · exact parseRepair_error h
  · cases h

/-- Beside its own error, the client raises what `usage.get` raises. -/
theorem readCompatible_error {P : Providers} {provider baseUrl model prompt : String}
    {response : Fields} {e : Raised}
    (h : readCompatible P provider baseUrl model prompt response = .error e) :
    e.kind = .openAICompatibleError ∨
      ∃ usage, BadUsage P response usage ∧ e = attributeError usage := by
  unfold readCompatible at h
  split at h
  · obtain rfl := Except.error.inj h
    exact Or.inl rfl
  · next content choice hchoice =>
    split at h
    · obtain rfl := Except.error.inj h
      exact Or.inl rfl
    · next source hsource =>
      split at h
      · cases h
      · next usage hobject =>
        obtain rfl := Except.error.inj h
        cases hlookup : response.lookup "usage" with
        | none => exact absurd (by rw [hlookup]; rfl) (hobject [])
        | some usage =>
          rw [hlookup] at hobject
          exact Or.inr ⟨usage, ⟨hlookup, hobject, content, choice, hchoice, source, hsource⟩, rfl⟩

/-- **A usage that is no mapping raises an `AttributeError`**, which the client does not turn into
    its own error. -/
theorem readCompatible_of_badUsage {P : Providers} {response : Fields} {usage : Json}
    (h : BadUsage P response usage) (provider baseUrl model prompt : String) :
    readCompatible P provider baseUrl model prompt response = .error (attributeError usage) := by
  obtain ⟨hlookup, hobject, content, choice, hchoice, source, hsource⟩ := h
  unfold readCompatible
  simp only [hchoice, hsource, hlookup, Option.getD_some]

/-- A client raises what its construction, its prompt, its request or its response raises. -/
theorem clientRepair_raises {ρ : Type} {provider : Provider} {client : Except Raised Unit}
    {send : String → String → Except Raised ρ}
    {read : String → String → ρ → Except Raised ModelRepair} {model : String} {case : TitledCase}
    {e : Raised} : (clientRepair provider client send read model case).Raises e ↔
      client = .error e ∨ client = .ok () ∧ (repairPrompt case = .error e ∨
        ∃ prompt, repairPrompt case = .ok prompt ∧ (send model prompt = .error e ∨
          ∃ response, send model prompt = .ok response ∧
            read model prompt response = .error e)) := by
  simp only [clientRepair, Attempted.raises_bind, Attempted.raises_of, Attempted.returns_of,
    Attempted.raises_effect, Attempted.returns_effect]
  constructor
  · rintro (h | ⟨⟨⟩, hclient, h⟩)
    · exact Or.inl h
    · exact Or.inr ⟨hclient, h⟩
  · rintro (h | ⟨hclient, h⟩)
    · exact Or.inl h
    · exact Or.inr ⟨(), hclient, h⟩

/-! ## What the clients send -/

/-- A client makes one request at most, with the prompt of the case. -/
theorem clientRepair_effects {ρ : Type} (provider : Provider) (client : Except Raised Unit)
    (send : String → String → Except Raised ρ)
    (read : String → String → ρ → Except Raised ModelRepair) (model : String) (case : TitledCase) :
    (clientRepair provider client send read model case).effects = [] ∨
      ∃ prompt, repairPrompt case = .ok prompt ∧
        (clientRepair provider client send read model case).effects =
          [.request provider model prompt] := by
  cases hclient : client with
  | error e => exact Or.inl rfl
  | ok =>
    cases hprompt : repairPrompt case with
    | error e =>
      left
      unfold clientRepair
      rw [Attempted.of_bind rfl, Attempted.bind_of_raises (Attempted.raises_of.mpr hprompt)]
      rfl
    | ok prompt =>
      refine Or.inr ⟨prompt, rfl, ?_⟩
      unfold clientRepair
      rw [Attempted.of_bind rfl, Attempted.of_bind hprompt]
      obtain ⟨h, -⟩ | ⟨response, -, h⟩ := Attempted.effects_bind
        (x := Attempted.effect (Effect.request provider model prompt) (send model prompt))
        (f := fun response => Attempted.of (read model prompt response))
      · exact h
      · exact h

/-- A model is asked once at most, with the prompt of the case. -/
theorem modelRepair_effects (P : Providers) (provider : Provider) (model : String)
    (case : TitledCase) : (modelRepair P provider model case).effects = [] ∨
      ∃ prompt, repairPrompt case = .ok prompt ∧
        (modelRepair P provider model case).effects = [.request provider model prompt] := by
  cases provider <;> exact clientRepair_effects _ _ _ _ _ _

end AEControl.Evaluation.Runtime
