/-
  The evidence methods that read more than one row (`store.py`): the listings, the efficacy report
  and the list of checkpoints.

  The columns an artifact table has beside the payload are written from the artifact itself; the
  methods get the ones they read as functions of the row.
-/
import AEControl.Evidence.Store

namespace AEControl.Evidence

/-- `list_runs`, `list_comparisons` and `list_guardrail_evidence`: the `summary` columns of the rows,
    `ORDER BY time DESC LIMIT limit`; PostgreSQL refuses a negative limit. -/
def listArtifacts {σ : Type} (summary : ArtifactRow → σ) (time : ArtifactRow → Timestamp)
    (limit : ℤ) (t : TenantId) (kind : ArtifactKind) (db : Database) :
    Except EvidenceError (List σ) :=
  if limit < 0 then .error .dataError
  else .ok ((((db.rowsOf t kind).insertionSort fun r r' => time r' ≤ time r).take
    limit.toNat).map summary)

/-- The columns of `guardrail_evidence` the efficacy report selects by. -/
structure EvidenceColumns where
  createdAt : ArtifactRow → Timestamp
  configId : ArtifactRow → String

/-- The rows of the report: `created_at` in the window, oldest first. -/
def efficacyRows (columns : EvidenceColumns) (configId : Option String) (start stop : Timestamp)
    (rows : List ArtifactRow) : List ArtifactRow :=
  (rows.filter fun r => start ≤ columns.createdAt r && columns.createdAt r < stop &&
    configId.all (columns.configId r = ·)).insertionSort fun r r' =>
      columns.createdAt r ≤ columns.createdAt r'

/-- The loop over the rows of the report: each is verified, then read; what `read` raises ends it. -/
def verifiedArtifacts {C : Crypto} {ε α : Type} (keyring : Option (ArtifactKeyring C))
    (read : Json → Except ε α) : List ArtifactRow → Except EvidenceError (Except ε (List α))
  | [] => .ok (.ok [])
  | row :: rows => do
    verifyArtifact keyring "guardrail_evidence" row.artifactId row.payloadSha256 row.payload
      row.envelope
    match read row.payload with
    | .error e => .ok (.error e)
    | .ok artifact => do
      let artifacts ← verifiedArtifacts keyring read rows
      .ok (artifacts.map (artifact :: ·))

/-- `guardrail_efficacy_report`, with `StoredGuardrailEvidence.model_validate` as `read` and
    `build_guardrail_efficacy_report` as `build`. -/
def guardrailEfficacyReport {C : Crypto} {ε α β : Type} (columns : EvidenceColumns)
    (read : Json → Except ε α)
    (build : List α → Timestamp → Timestamp → Option String → Except ε β)
    (keyring : Option (ArtifactKeyring C)) (t : TenantId) (configId : Option String)
    (windowStart windowEnd : Option Timestamp) (utcNow : Timestamp) (db : Database) :
    Except EvidenceError (Except ε β) :=
  let stop := windowEnd.getD utcNow
  let start := windowStart.getD (stop - 30 * 86400000000)
  if stop ≤ start then .error (.valueError "efficacy window start must be before window end")
  else if 366 * 86400000000 < stop - start then
    .error (.valueError "efficacy windows cannot exceed 366 days")
  else do
    let artifacts ← verifiedArtifacts keyring read
      (efficacyRows columns configId start stop (db.rowsOf t .guardrailEvidence))
    .ok (artifacts.bind fun artifacts => build artifacts start stop configId)

/-- `list_ledger_checkpoints`: `ORDER BY ledger_sequence DESC, created_at DESC`, each one
    verified. -/
def listLedgerCheckpoints (P : Platform) (keyring : Option (ArtifactKeyring P.toCrypto))
    (t : TenantId) (db : Database) : Except EvidenceError (List SignedLedgerCheckpoint) :=
  ((db.checkpointsOf t).insertionSort fun c c' => c'.ledgerSequence < c.ledgerSequence ∨
    (c'.ledgerSequence = c.ledgerSequence ∧ c'.createdAt ≤ c.createdAt)).mapM
      (checkpointFromRow P keyring)

end AEControl.Evidence
