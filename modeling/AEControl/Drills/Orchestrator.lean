/-
  `recovery_drill.py`: one run of `RecoveryDrillOrchestrator` against a Kubernetes namespace.

  `Answers` is what a run is told from outside: the clocks, the nonce, what the API answers to each
  request and what it reads while it waits.  A request that raises may have taken effect (`lost`).
  The run is a function of the namespace and the answers; it also gives the delete requests it sent.
-/
import Mathlib.Data.List.Sort
import AEControl.Lib.Json
import AEControl.Models
import AEControl.Promotion.Orchestrator

namespace AEControl.Drills

open Json
open Promotion (isDnsLabel conditionTrue)

/-! ## Configuration -/

/-- `RecoveryDrillConfiguration`, what a run reads of it besides the manifests. -/
structure RecoveryDrillConfiguration where
  clusterTimeoutSeconds : ℕ
  verificationTimeoutSeconds : ℕ
  maxFailedDrills : ℕ
  clusterTimeout_range : 300 ≤ clusterTimeoutSeconds ∧ clusterTimeoutSeconds ≤ 14400
  verificationTimeout_range : 60 ≤ verificationTimeoutSeconds ∧ verificationTimeoutSeconds ≤ 3600
  maxFailedDrills_range : 1 ≤ maxFailedDrills ∧ maxFailedDrills ≤ 10

/-- An exception: a `RecoveryDrillError`, or any other by its text. -/
inductive DrillError where
  | recoveryDrill (message : String)
  | other (text : String)
  deriving DecidableEq

/-- The fourteen digits of `%Y%m%d%H%M%S`. -/
abbrev Digits := { s : String // s.toList.length = 14 ∧ s.toList.all Char.isDigit = true }

/-- `RecoveryDrillOrchestrator`, with `strftime` and what `int()` makes of a text and of a float. -/
structure RecoveryDrillOrchestrator where
  configuration : RecoveryDrillConfiguration
  strftime : Timestamp → Digits
  intOfText : String → Except DrillError ℤ
  intOfFloat : PyFloat → Except DrillError ℤ

/-! ## The namespace -/

/-- A cluster: its name, its `creationTimestamp` and whether it has the drill label. -/
structure Cluster where
  name : String
  created : String
  drill : Bool
  deriving DecidableEq

/-- The clusters and the names of the jobs. -/
structure Namespace where
  clusters : List Cluster
  jobs : List String

/-- A delete request. -/
inductive Deletion where
  | job (name : String)
  | cluster (name : String)
  deriving DecidableEq

/-- What the API makes of a request: it takes effect and returns, it is refused, or it takes effect
    and its answer is lost. -/
inductive Reply where
  | accepted
  | refused (e : DrillError)
  | lost (e : DrillError)

def Reply.takesEffect : Reply → Bool
  | accepted | lost _ => true
  | refused _ => false

def Reply.raised : Reply → Option DrillError
  | accepted => none
  | refused e | lost e => some e

namespace Namespace

/-- The clusters with the drill label. -/
def drills (w : Namespace) : List Cluster := w.clusters.filter Cluster.drill

def deleteJob (w : Namespace) (name : String) (reply : Reply) : Namespace :=
  if reply.takesEffect then { w with jobs := w.jobs.filter (· ≠ name) } else w

def deleteCluster (w : Namespace) (name : String) (reply : Reply) : Namespace :=
  if reply.takesEffect then { w with clusters := w.clusters.filter fun c => c.name ≠ name } else w

end Namespace

/-- The API refuses a name that is taken. -/
def conflict : DrillError := .recoveryDrill "Kubernetes API request failed with HTTP 409"

/-- `create_cluster`. -/
def createCluster (w : Namespace) (cluster : Cluster) (reply : Reply) :
    Namespace × Option DrillError :=
  if w.clusters.any fun c => c.name = cluster.name then (w, some conflict)
  else
    (if reply.takesEffect then { w with clusters := w.clusters ++ [cluster] } else w, reply.raised)

/-- `create_job`. -/
def createJob (w : Namespace) (name : String) (reply : Reply) : Namespace × Option DrillError :=
  if w.jobs.contains name then (w, some conflict)
  else (if reply.takesEffect then { w with jobs := w.jobs ++ [name] } else w, reply.raised)

/-! ## Waiting -/

/-- A turn of a polling loop: the clock, and what the API answers. -/
structure Turn where
  clock : ℚ
  answer : Except DrillError (List (String × Json))

/-- `fields.get("status")`, a mapping. -/
def statusOf (fields : List (String × Json)) : Option (List (String × Json)) :=
  match getField fields "status" with
  | some (.obj status) => some status
  | _ => none

/-- `_condition_true` of the conditions of a status. -/
def hasCondition (status : Option (List (String × Json))) (conditionType : String) : Bool :=
  conditionTrue (status.bind fun fields => getField fields "conditions") conditionType

/-- `phase.lower() in {"error", "unrecoverable"}`. -/
def terminalPhase (status : Option (List (String × Json))) : Bool :=
  match status.bind fun fields => getField fields "phase" with
  | some (.str phase) => phase.toLower = "error" || phase.toLower = "unrecoverable"
  | _ => false

/-- `_wait_for_cluster`; the turns end at the deadline. -/
def waitForCluster (deadline : ℚ) : List Turn → Option DrillError
  | [] => some (.recoveryDrill "recovery cluster readiness timed out")
  | turn :: turns =>
    if turn.clock < deadline then
      match turn.answer with
      | .error e => some e
      | .ok cluster =>
        let status := statusOf cluster
        if hasCondition status "Ready" then none
        else if terminalPhase status then
          some (.recoveryDrill "recovery cluster entered a terminal failure phase")
        else waitForCluster deadline turns
    else some (.recoveryDrill "recovery cluster readiness timed out")

variable (o : RecoveryDrillOrchestrator)

/-- The `TypeError` of `int()`. -/
def intError (typeName : String) : DrillError :=
  .other ("int() argument must be a string, a bytes-like object or a real number, not '" ++
    typeName ++ "'")

/-- `int(value)` of a JSON value. -/
def RecoveryDrillOrchestrator.intOf : Json → Except DrillError ℤ
  | .null => .error (intError "NoneType")
  | .bool b => .ok (if b then 1 else 0)
  | .int n => .ok n
  | .float x => o.intOfFloat x
  | .str text => o.intOfText text
  | .arr _ => .error (intError "list")
  | .obj _ => .error (intError "dict")

/-- `isinstance(status, dict) and int(status.get("succeeded", 0) or 0) >= 1`. -/
def jobSucceeded (status : Option (List (String × Json))) : Except DrillError Bool :=
  match status with
  | none => .ok false
  | some fields =>
    match (getField fields "succeeded").filter truthy with
    | none => .ok false
    | some value => (o.intOf value).map fun n => decide (1 ≤ n)

/-- `_wait_for_job`. -/
def waitForJob (deadline : ℚ) : List Turn → Option DrillError
  | [] => some (.recoveryDrill "recovery verification job timed out")
  | turn :: turns =>
    if turn.clock < deadline then
      match turn.answer with
      | .error e => some e
      | .ok job =>
        match jobSucceeded o (statusOf job) with
        | .error e => some e
        | .ok true => none
        | .ok false =>
          if hasCondition (statusOf job) "Failed" then
            some (.recoveryDrill "recovery verification job failed")
          else waitForJob deadline turns
    else some (.recoveryDrill "recovery verification job timed out")

/-! ## A run -/

/-- What a run is told from outside. -/
structure Answers where
  startedAt : Timestamp
  completedAt : Timestamp
  nonce : String
  /-- What `list_clusters` raises. -/
  list : Option DrillError
  /-- What the delete requests of the pruning are answered, by the cluster's name. -/
  pruneJob : String → Reply
  pruneCluster : String → Reply
  create : Reply
  created : String
  clusterStart : ℚ
  clusterTurns : List Turn
  createJob : Reply
  jobStart : ℚ
  jobTurns : List Turn
  deleteJob : Reply
  deleteCluster : Reply

/-- `re.fullmatch(r"[a-z0-9]{6}", suffix)`. -/
def isNonce (s : String) : Bool :=
  s.toList.length = 6 && s.toList.all fun c => c.isLower || c.isDigit

def drillId (a : Answers) : String :=
  "aecontrol-drill-" ++ (o.strftime a.startedAt).val ++ "-" ++ a.nonce

/-- The name of the verification job of a cluster. -/
def jobName (clusterName : String) : String := clusterName ++ "-verify"

/-- The cluster of a run. -/
def ownCluster (a : Answers) : Cluster := ⟨drillId o a, a.created, true⟩

/-- What a part of a run leaves: the namespace, the delete requests it sent, what it raised. -/
structure Pruning where
  space : Namespace
  requests : List Deletion
  raised : Option DrillError

/-- The loop of `_prune_failed_drills`. -/
def pruneLoop (a : Answers) : List Cluster → Namespace → Pruning
  | [], w => ⟨w, [], none⟩
  | c :: cs, w =>
    if !isDnsLabel c.name then pruneLoop a cs w
    else
      let w := w.deleteJob (jobName c.name) (a.pruneJob c.name)
      match (a.pruneJob c.name).raised with
      | some e => ⟨w, [.job (jobName c.name)], some e⟩
      | none =>
        let w := w.deleteCluster c.name (a.pruneCluster c.name)
        match (a.pruneCluster c.name).raised with
        | some e => ⟨w, [.job (jobName c.name), .cluster c.name], some e⟩
        | none =>
          let rest := pruneLoop a cs w
          ⟨rest.space, .job (jobName c.name) :: .cluster c.name :: rest.requests, rest.raised⟩

/-- `sorted(clusters, key=creation_timestamp)`. -/
def ordered (w : Namespace) : List Cluster :=
  w.drills.insertionSort fun c d => c.created ≤ d.created

/-- `ordered[:prune_count]`. -/
def pruned (w : Namespace) : List Cluster :=
  (ordered w).take ((ordered w).length + 1 - o.configuration.maxFailedDrills)

/-- `_prune_failed_drills`. -/
def pruneFailedDrills (w : Namespace) (a : Answers) : Pruning :=
  match a.list with
  | some e => ⟨w, [], some e⟩
  | none => pruneLoop a (pruned o w) w

/-- Where a run fails. -/
inductive Stage where
  | nonce
  | prune
  | create
  | restore
  | verify
  | cleanup
  deriving DecidableEq

/-- Anything but a `RecoveryDrillError` is wrapped. -/
def wrap : DrillError → DrillError
  | .recoveryDrill message => .recoveryDrill message
  | .other _ => .recoveryDrill "recovery drill orchestration failed"

/-- The `try` block of `run`. -/
def attempt (w : Namespace) (a : Answers) : Namespace × Option (Stage × DrillError) :=
  match waitForCluster (a.clusterStart + o.configuration.clusterTimeoutSeconds) a.clusterTurns with
  | some e => (w, some (.restore, wrap e))
  | none =>
    match createJob w (jobName (drillId o a)) a.createJob with
    | (w, some e) => (w, some (.verify, wrap e))
    | (w, none) =>
      match waitForJob o (a.jobStart + o.configuration.verificationTimeoutSeconds) a.jobTurns with
      | some e => (w, some (.verify, wrap e))
      | none => (w, none)

/-- `RecoveryDrillOutcome`; the duration is in microseconds. -/
structure RecoveryDrillOutcome where
  drillId : String
  clusterName : String
  verificationJob : String
  startedAt : Timestamp
  completedAt : Timestamp
  duration : ℤ
  success : Bool
  restoredClusterDeleted : Bool
  reportArchived : Bool

/-- What a run leaves. -/
structure DrillRun where
  space : Namespace
  requests : List Deletion
  result : Except (Stage × DrillError) RecoveryDrillOutcome

def outcomeOf (a : Answers) : RecoveryDrillOutcome where
  drillId := drillId o a
  clusterName := drillId o a
  verificationJob := jobName (drillId o a)
  startedAt := a.startedAt
  completedAt := a.completedAt
  duration := max 0 (a.completedAt - a.startedAt)
  success := true
  restoredClusterDeleted := true
  reportArchived := true

/-- The end of a run whose verification succeeded. -/
def cleanup (w : Namespace) (a : Answers) (requests : List Deletion) : DrillRun :=
  let job := jobName (drillId o a)
  let w := w.deleteJob job a.deleteJob
  match a.deleteJob.raised with
  | some e => ⟨w, requests ++ [.job job], .error (.cleanup, e)⟩
  | none =>
    let w := w.deleteCluster (drillId o a) a.deleteCluster
    let requests := requests ++ [.job job, .cluster (drillId o a)]
    match a.deleteCluster.raised with
    | some e => ⟨w, requests, .error (.cleanup, e)⟩
    | none => ⟨w, requests, .ok (outcomeOf o a)⟩

/-- `run`. -/
def run (w : Namespace) (a : Answers) : DrillRun :=
  if !isNonce a.nonce then
    ⟨w, [], .error (.nonce, .recoveryDrill "recovery drill nonce is invalid")⟩
  else
    let pruning := pruneFailedDrills o w a
    match pruning.raised with
    | some e => ⟨pruning.space, pruning.requests, .error (.prune, e)⟩
    | none =>
      match createCluster pruning.space (ownCluster o a) a.create with
      | (w, some e) => ⟨w, pruning.requests, .error (.create, e)⟩
      | (w, none) =>
        match attempt o w a with
        | (w, some failure) => ⟨w, pruning.requests, .error failure⟩
        | (w, none) => cleanup o w a pruning.requests

/-- What a run makes of the namespace. -/
def step (w : Namespace) (a : Answers) : Namespace := (run o w a).space

end AEControl.Drills
