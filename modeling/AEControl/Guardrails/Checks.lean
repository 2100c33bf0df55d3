/-
  `api.py`, `check_guardrails`: the guardrail checks of one tenant, beside its activations.

  A check reads the active configuration, awaits the inference of the guardrails server and saves
  its evidence; other checks, registrations and activations go on in between.  Each event is one
  such step.  A check keeps in its `Window` how many activations were committed at its steps; that
  is for the theorems, no step reads it.
-/
import AEControl.Guardrails.Policies
import AEControl.Lib.Json

namespace AEControl.Guardrails

open Evidence

/-! ## Records -/

/-- `ExpectedGuardrailAction`. -/
inductive ExpectedGuardrailAction where
  | passThrough
  | intervention
  deriving DecidableEq

/-- `GuardrailCheckRequest`. -/
structure GuardrailCheckRequest where
  model : Name 500
  configId : Name 500
  inputText : Name 1000000
  outputText : Option { s : String // s.length ≤ 1000000 }
  configVersion : Option Version
  expectedAction : Option ExpectedGuardrailAction

/-- `GuardrailEvidence`. -/
structure GuardrailEvidence where
  configId : String
  model : String
  submittedText : String
  responseText : String
  passedThrough : Bool
  expectedAction : Option ExpectedGuardrailAction
  configVersion : Option Version
  configBundleSha256 : Option HexDigest
  configActivationId : Option UUID
  activatedRails : Json
  stats : List (String × Json)

/-- `StoredGuardrailEvidence`. -/
structure StoredGuardrailEvidence where
  evidenceId : UUID
  createdAt : Timestamp
  evidence : GuardrailEvidence

/-- What `GuardrailsClient.check` takes from the server's answer: `str` of its `model`, the
    message, and the diagnostics that are there. -/
structure Completion where
  model : Option String
  responseText : String
  activatedRails : Option Json
  stats : Option (List (String × Json))

/-- Why a check fails. -/
inductive Failure where
  /-- HTTP 409: the configuration is not active at the version. -/
  | conflict (configId version : String)
  /-- HTTP 502: a `GuardrailsError`. -/
  | badGateway (detail : String)
  /-- Any other exception. -/
  | other (text : String)

/-- How many activations were committed when a check read the active configuration, and when its
    inference started and ended. -/
structure Window where
  read : ℕ
  started : ℕ
  ended : ℕ

/-- How far a check is. -/
inductive Check where
  | read (request : GuardrailCheckRequest) (active : Option GuardrailConfigActivation) (read : ℕ)
  | inferring (request : GuardrailCheckRequest) (active : Option GuardrailConfigActivation)
      (read started : ℕ)
  | answered (evidence : GuardrailEvidence) (window : Window)
  | stored (evidenceId : UUID)
  | failed (failure : Failure)

/-- A row of `guardrail_evidence`, with the check it is of and its window. -/
structure Saved where
  artifact : StoredGuardrailEvidence
  check : ℕ
  window : Window

/-- The tenant's policies, the checks by a number of their own, and the stored evidence. -/
structure Server where
  policies : Policies
  checks : ℕ → Option Check
  saved : List Saved

/-- What happens next. -/
inductive Event where
  | register (configId version bundleSha256 description createdBy : String) (now : Timestamp)
  | activate (configId version activatedBy : String) (activationId : UUID) (sequence : ℕ)
      (now : Timestamp)
  | read (check : ℕ) (request : GuardrailCheckRequest)
  | start (check : ℕ)
  | finish (check : ℕ) (answer : Except Failure Completion)
  | save (check : ℕ) (evidenceId : UUID) (createdAt : Timestamp) (raised : Option Failure)

/-! ## Steps -/

variable (t : TenantId)

/-- The first part of `check_guardrails`. -/
def readActive (db : Policies) (request : GuardrailCheckRequest) : Check :=
  let active := db.getActiveGuardrailConfig t request.configId.val
  match request.configVersion with
  | none => .read request active db.activations.length
  | some version =>
    if active.any fun a => a.version = version then .read request active db.activations.length
    else .failed (.conflict request.configId.val version.val)

/-- The evidence `GuardrailsClient.check` returns. -/
def evidenceOf (request : GuardrailCheckRequest) (completion : Completion) : GuardrailEvidence :=
  let submitted := match request.outputText with
    | some output => output.val
    | none => request.inputText.val
  { configId := request.configId.val
    model := completion.model.getD request.model.val
    submittedText := submitted
    responseText := completion.responseText
    passedThrough := completion.responseText = submitted
    expectedAction := none
    configVersion := none
    configBundleSha256 := none
    configActivationId := none
    activatedRails := completion.activatedRails.getD (.arr [])
    stats := completion.stats.getD [] }

/-- `evidence.model_copy(update=updates)`. -/
def withProvenance (request : GuardrailCheckRequest) (active : Option GuardrailConfigActivation)
    (completion : Completion) : GuardrailEvidence :=
  let evidence :=
    { evidenceOf request completion with expectedAction := request.expectedAction }
  match active with
  | none => evidence
  | some a =>
    { evidence with
      configVersion := some a.version
      configBundleSha256 := some a.bundleSha256
      configActivationId := some a.activationId }

namespace Server

def setCheck (s : Server) (i : ℕ) (c : Check) : Server :=
  { s with checks := Function.update s.checks i (some c) }

end Server

/-- A step; one that a check is not ready for changes nothing. -/
def step (s : Server) : Event → Server
  | .register configId version bundleSha256 description createdBy now =>
    { s with policies := (s.policies.registerGuardrailConfigVersion t configId version bundleSha256
        description createdBy now).2 }
  | .activate configId version activatedBy activationId sequence now =>
    { s with policies := (s.policies.activateGuardrailConfig t configId version activatedBy
        activationId sequence now).2 }
  | .read i request =>
    match s.checks i with
    | none => s.setCheck i (readActive t s.policies request)
    | some _ => s
  | .start i =>
    match s.checks i with
    | some (.read request active read) =>
      s.setCheck i (.inferring request active read s.policies.activations.length)
    | _ => s
  | .finish i answer =>
    match s.checks i, answer with
    | some (.inferring request active read started), .ok completion =>
      s.setCheck i (.answered (withProvenance request active completion)
        ⟨read, started, s.policies.activations.length⟩)
    | some (.inferring _ _ _ _), .error failure => s.setCheck i (.failed failure)
    | _, _ => s
  | .save i evidenceId createdAt raised =>
    match s.checks i, raised with
    | some (.answered evidence window), none =>
      { s.setCheck i (.stored evidenceId) with
        saved := s.saved ++ [⟨⟨evidenceId, createdAt, evidence⟩, i, window⟩] }
    | some (.answered _ _), some failure => s.setCheck i (.failed failure)
    | _, _ => s

/-- A tenant without policies and checks. -/
def empty : Server := ⟨⟨[], []⟩, fun _ => none, []⟩

end AEControl.Guardrails
