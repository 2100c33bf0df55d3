/-
  `store.py`, the evidence part: the three artifact tables, the transparency ledger and the ledger
  checkpoints, the transactions that write them and the reads of single artifacts.

  A transaction is a function from the committed database to the next one, or an error that leaves
  the database alone.  It is one step because the advisory lock on the tenant's ledger is held until
  commit and an artifact row is locked by the statement that writes it.  Row-level security shows a
  store the rows of its own tenant (`Database.rowsOf`, `ledgerOf`, `checkpointsOf`).

  Only the columns the evidence code reads are kept; what the checks of the schema say of a column
  is carried by its type.
-/
import AEControl.Lib.Runs
import AEControl.Lib.Table
import AEControl.Evidence.Checkpoints

namespace AEControl.Evidence

/-! ## The database -/

/-- A row of `evaluation_runs`, `comparisons` or `guardrail_evidence`.  SQL's and JSON's `null` are
    the one `None` of Python in `payload`, and `str(None)` in `payloadSha256`. -/
structure ArtifactRow where
  tenantId : TenantId
  artifactId : UUID
  payload : Json
  payloadSha256 : String
  envelope : Envelope

/-- A row of `artifact_ledger`. -/
structure LedgerRow extends LedgerFields where
  tenantId : TenantId
  entrySha256 : HexDigest
  deriving DecidableEq

/-- A row of `ledger_checkpoints`; its `signature_algorithm` is checked to be `ed25519`. -/
structure CheckpointRow where
  tenantId : TenantId
  checkpointId : UUID
  ledgerSequence : ℕ
  ledgerEntries : ℕ
  ledgerHeadSha256 : HexDigest
  createdAt : Timestamp
  retentionUntil : Timestamp
  payload : Json
  payloadSha256 : HexDigest
  signingKeyId : String
  signatureValue : String

/-- The evidence tables of one schema, all tenants together. -/
structure Database where
  artifacts : ArtifactKind → List ArtifactRow
  ledger : List LedgerRow
  checkpoints : List CheckpointRow

/-- A schema after `initialize` and before the first write. -/
def Database.empty : Database := ⟨fun _ => [], [], []⟩

/-- `UNIQUE (tenant_id, artifact_type, artifact_id)`. -/
def LedgerRow.key (r : LedgerRow) : TenantId × ArtifactKind × UUID :=
  (r.tenantId, r.artifactType, r.artifactId)

namespace Database

/-- The rows of an artifact table a tenant sees. -/
def rowsOf (db : Database) (t : TenantId) (kind : ArtifactKind) : List ArtifactRow :=
  (db.artifacts kind).filter fun r => r.tenantId = t

/-- The tenant's ledger, `ORDER BY sequence`. -/
def ledgerOf (db : Database) (t : TenantId) : List LedgerRow :=
  (db.ledger.filter fun r => r.tenantId = t).insertionSort fun r r' => r.sequence ≤ r'.sequence

/-- The checkpoints a tenant sees. -/
def checkpointsOf (db : Database) (t : TenantId) : List CheckpointRow :=
  db.checkpoints.filter fun c => c.tenantId = t

/-- The database after a save: one artifact table and the ledger are written. -/
def saved (db : Database) (kind : ArtifactKind) (rows : List ArtifactRow)
    (ledger : List LedgerRow) : Database :=
  ⟨Function.update db.artifacts kind rows, ledger, db.checkpoints⟩

variable {db : Database} {kind : ArtifactKind} {rows : List ArtifactRow} {ledger : List LedgerRow}

@[simp] theorem saved_artifacts_self : (db.saved kind rows ledger).artifacts kind = rows := by
  simp only [saved, Function.update_self]

/-- A save leaves the tables of the other kinds. -/
theorem saved_artifacts_of_ne {kind' : ArtifactKind} (h : kind' ≠ kind) :
    (db.saved kind rows ledger).artifacts kind' = db.artifacts kind' := by
  simp only [saved, Function.update_of_ne h]

/-- What every table satisfies, and the written rows in the place of theirs, every table satisfies
    afterwards. -/
theorem forall_saved {Q : ArtifactKind → List ArtifactRow → Prop}
    (hold : ∀ kind', Q kind' (db.artifacts kind')) (hnew : Q kind rows) :
    ∀ kind', Q kind' ((db.saved kind rows ledger).artifacts kind') :=
  (Function.forall_update_iff db.artifacts Q).mpr ⟨hnew, fun kind' _ => hold kind'⟩

/-- Rows put behind a table's own take none away. -/
theorem mem_saved_append {a : ArtifactRow} {kind' : ArtifactKind} (ha : a ∈ db.artifacts kind')
    (added : List ArtifactRow) :
    a ∈ (db.saved kind (db.artifacts kind ++ added) ledger).artifacts kind' :=
  forall_saved (Q := fun k as => db.artifacts k ⊆ as) (fun _ => List.Subset.refl _)
    (List.subset_append_left _ added) kind' ha

@[simp] theorem saved_ledger : (db.saved kind rows ledger).ledger = ledger := rfl

@[simp] theorem saved_checkpoints : (db.saved kind rows ledger).checkpoints = db.checkpoints := rfl

end Database

variable (P : Platform)

/-! ## Saving artifacts -/

/-- The value a JSONB column holds after an insert. -/
def storeJson (j : Json) : Except EvidenceError Json :=
  match P.jsonb j with
  | some stored => .ok stored
  | none => .error .dataError

/-- `_sign_artifact`. -/
def signArtifact {C : Crypto} (keyring : Option (ArtifactKeyring C)) (kind : ArtifactKind)
    (id : UUID) (digest : HexDigest) : Except EvidenceError Envelope :=
  match keyring with
  | none => .ok .unsigned
  | some K => do
    let signature ← K.sign kind.value id digest.val
    .ok ⟨K.activeAlgorithm.map SignatureAlgorithm.value, K.activeKeyId, some signature⟩

/-- The entry that follows a tenant's ledger. -/
def nextEntry (C : Crypto) (t : TenantId) (kind : ArtifactKind) (id : UUID) (digest : HexDigest)
    (envelope : Envelope) (latest : Option LedgerRow) : LedgerRow :=
  let fields : LedgerFields := {
    sequence := match latest with
      | some r => r.sequence + 1
      | none => 1
    artifactType := kind
    artifactId := id
    payloadSha256 := digest
    envelope := envelope
    previousEntrySha256 := match latest with
      | some r => r.entrySha256
      | none => ledgerGenesisSha256
    one_le := by cases latest <;> simp }
  ⟨fields, t, ledgerEntryDigest C t.val fields⟩

/-- `_append_ledger_values` with `require_match`. -/
def appendLedgerValues (C : Crypto) (t : TenantId) (kind : ArtifactKind) (id : UUID)
    (digest : HexDigest) (envelope : Envelope) (db : Database) :
    Except EvidenceError (List LedgerRow) :=
  match Table.lookup LedgerRow.key (t, kind, id) db.ledger with
  | some existing =>
    if existing.payloadSha256 = digest ∧ existing.envelope = envelope then .ok db.ledger
    else .error (.runtimeError ("artifact ledger conflict for " ++ kind.value ++ " " ++ id.str))
  | none =>
    .ok (db.ledger ++ [nextEntry C t kind id digest envelope (db.ledgerOf t).getLast?])

/-- `INSERT INTO evaluation_runs … ON CONFLICT(run_id) DO UPDATE`: a conflict with a row that
    row-level security hides is rejected. -/
def upsertRow (row : ArtifactRow) (rows : List ArtifactRow) :
    Except EvidenceError (List ArtifactRow) :=
  match Table.lookup ArtifactRow.artifactId row.artifactId rows with
  | none => .ok (rows ++ [row])
  | some old =>
    if old.tenantId = row.tenantId then
      .ok (Table.update ArtifactRow.artifactId row.artifactId (fun _ => true) (fun _ => row) rows)
    else .error .insufficientPrivilege

/-- A plain `INSERT`. -/
def insertRow (row : ArtifactRow) (rows : List ArtifactRow) :
    Except EvidenceError (List ArtifactRow) :=
  match Table.lookup ArtifactRow.artifactId row.artifactId rows with
  | none => .ok (rows ++ [row])
  | some _ => .error .uniqueViolation

/-- The common course of the save methods: digest and signature, then in one transaction the row,
    written by `write`, and its ledger entry. -/
def saveArtifact (keyring : Option (ArtifactKeyring P.toCrypto)) (t : TenantId)
    (kind : ArtifactKind) (id : UUID) (payload : Json)
    (write : ArtifactRow → List ArtifactRow → Except EvidenceError (List ArtifactRow))
    (db : Database) : Except EvidenceError Database := do
  let digest ← artifactDigest P.toCrypto payload
  let envelope ← signArtifact keyring kind id digest
  let stored ← storeJson P payload
  let rows ← write ⟨t, id, stored, digest.val, envelope⟩ (db.artifacts kind)
  let ledger ← appendLedgerValues P.toCrypto t kind id digest envelope db
  .ok (db.saved kind rows ledger)

/-- `save_run`. -/
def saveRun (keyring : Option (ArtifactKeyring P.toCrypto)) (t : TenantId) (runId : UUID)
    (payload : Json) (db : Database) : Except EvidenceError Database :=
  saveArtifact P keyring t .run runId payload upsertRow db

/-- `FOREIGN KEY (tenant_id, run_id) REFERENCES evaluation_runs`. -/
def runExists (t : TenantId) (runId : UUID) (db : Database) : Bool :=
  (db.rowsOf t .run).any fun r => r.artifactId = runId

/-- `save_comparison`. -/
def saveComparison (keyring : Option (ArtifactKeyring P.toCrypto)) (t : TenantId)
    (comparisonId baselineRunId candidateRunId : UUID) (payload : Json) (db : Database) :
    Except EvidenceError Database :=
  saveArtifact P keyring t .comparison comparisonId payload (fun row rows => do
    let rows ← insertRow row rows
    if runExists t baselineRunId db && runExists t candidateRunId db then .ok rows
    else .error .foreignKeyViolation) db

/-- `save_guardrail_evidence`. -/
def saveGuardrailEvidence (keyring : Option (ArtifactKeyring P.toCrypto)) (t : TenantId)
    (evidenceId : UUID) (payload : Json) (db : Database) : Except EvidenceError Database :=
  saveArtifact P keyring t .guardrailEvidence evidenceId payload insertRow db

/-! ## Reading artifacts -/

/-- `_verify_authenticity`. -/
def verifyAuthenticity {C : Crypto} (keyring : Option (ArtifactKeyring C)) (artifactType : String)
    (id : UUID) (payloadSha256 : String) (envelope : Envelope) : Except EvidenceError Unit :=
  let failed := fun reason => Except.error
    (EvidenceError.artifactAuthenticity artifactType id envelope.keyId reason envelope.algorithm)
  match envelope.algorithm, envelope.keyId, envelope.value with
  | none, none, none => .ok ()
  | some algorithm, some keyId, some signature =>
    match keyring with
    | none => failed .missingSigningKey
    | some K =>
      match K.verify algorithm keyId artifactType id payloadSha256 signature with
      | .ok true => .ok ()
      | .ok false => failed .signature
      | .error e =>
        if e.isKeyError then failed .missingSigningKey
        else if e.isValueError then failed .signature
        else .error e
  | _, _, _ => failed .incompleteSignature

/-- What becomes of a complete envelope: it is accepted with a signature that verifies, refused with
    an authenticity error, or the comparison of an HMAC raises `TypeError`, which nothing catches. -/
theorem verifyAuthenticity_complete {C : Crypto} (keyring : Option (ArtifactKeyring C))
    (artifactType : String) (id : UUID) (digest algorithm keyId signature : String) :
    let outcome := verifyAuthenticity keyring artifactType id digest
      ⟨some algorithm, some keyId, some signature⟩
    let raises := ∃ K, keyring = some K ∧
      K.verify algorithm keyId artifactType id digest signature = .error .typeError
    (outcome = .ok () ∧ ∃ K, keyring = some K ∧
      K.verify algorithm keyId artifactType id digest signature = .ok true) ∨
    (¬raises ∧ ∃ reason, outcome =
      .error (.artifactAuthenticity artifactType id (some keyId) reason (some algorithm))) ∨
    (raises ∧ outcome = .error .typeError) := by
  cases keyring with
  | none => exact Or.inr (Or.inl ⟨nofun, _, rfl⟩)
  | some K =>
    simp only [verifyAuthenticity, Option.some.injEq, exists_eq_left']
    cases hverify : K.verify algorithm keyId artifactType id digest signature with
    | ok valid => cases valid <;> simp
    | error e =>
      rcases ArtifactKeyring.verify_error hverify with he | he | rfl
      · have hne : e ≠ .typeError := by rintro rfl; cases he
        simp [he, hne]
      · have hne : e ≠ .typeError := by rintro rfl; cases he
        by_cases hkey : e.isKeyError = true <;> simp [he, hkey, hne]
      · simp [EvidenceError.isKeyError, EvidenceError.isValueError]

/-- `_verify_artifact`. -/
def verifyArtifact {C : Crypto} (keyring : Option (ArtifactKeyring C)) (artifactType : String)
    (id : UUID) (expected : String) (payload : Json) (envelope : Envelope) :
    Except EvidenceError Unit := do
  let actual ← artifactDigest C payload
  if ← compareDigest actual.val expected then
    verifyAuthenticity keyring artifactType id expected envelope
  else .error (.artifactIntegrity artifactType id expected actual.val)

/-- The outcome of a verification, column by column: the payload's canonical text, the digest, then
    the envelope. -/
theorem verifyArtifact_eq {C : Crypto} (reader : Option (ArtifactKeyring C)) (artifactType : String)
    (id : UUID) (payloadSha256 : String) (payload : Json) (envelope : Envelope) :
    verifyArtifact reader artifactType id payloadSha256 payload envelope =
      match canonicalJsonText C.toInterpreter payload with
      | .error e => .error e
      | .ok text =>
        if isAscii payloadSha256 = true then
          if (C.sha256 text).val = payloadSha256 then
            verifyAuthenticity reader artifactType id payloadSha256 envelope
          else .error (.artifactIntegrity artifactType id payloadSha256 (C.sha256 text).val)
        else .error .typeError := by
  unfold verifyArtifact artifactDigest
  cases canonicalJsonText C.toInterpreter payload with
  | error e => rfl
  | ok text =>
    simp only [bind, Except.bind, Functor.map, Except.map]
    split_ifs with hascii hsame
    · simp [compareDigest, hascii, hsame]
    · simp [compareDigest, hascii, hsame]
    · simp [compareDigest, hascii]

/-- With the right digest only the envelope is left to verify. -/
theorem verifyArtifact_of_digest {C : Crypto} (keyring : Option (ArtifactKeyring C))
    (artifactType : String) (id : UUID) {payload : Json} (envelope : Envelope)
    (hcanonical : C.canonicalizes payload = true) {payloadSha256 : String}
    (hdigest : (C.sha256 payload.canonicalText).val = payloadSha256) :
    verifyArtifact keyring artifactType id payloadSha256 payload envelope =
      verifyAuthenticity keyring artifactType id payloadSha256 envelope := by
  have hascii : isAscii payloadSha256 = true := hdigest ▸ HexDigest.isAscii _
  rw [verifyArtifact_eq, canonicalJsonText_of hcanonical]
  simp only [if_pos hascii, if_pos hdigest]

/-- The common course of the get methods: the payload that goes to `model_validate`. -/
def getArtifact {C : Crypto} (keyring : Option (ArtifactKeyring C)) (t : TenantId)
    (kind : ArtifactKind) (id : UUID) (db : Database) : Except EvidenceError Json :=
  match Table.lookup ArtifactRow.artifactId id (db.rowsOf t kind) with
  | none => .error (.keyError id.str)
  | some row => do
    verifyArtifact keyring kind.value id row.payloadSha256 row.payload row.envelope
    .ok row.payload

/-- `get_run`. -/
def getRun {C : Crypto} (keyring : Option (ArtifactKeyring C)) (t : TenantId) (runId : UUID)
    (db : Database) : Except EvidenceError Json :=
  getArtifact keyring t .run runId db

/-- `get_comparison`. -/
def getComparison {C : Crypto} (keyring : Option (ArtifactKeyring C)) (t : TenantId)
    (comparisonId : UUID) (db : Database) : Except EvidenceError Json :=
  getArtifact keyring t .comparison comparisonId db

/-- `get_guardrail_evidence`. -/
def getGuardrailEvidence {C : Crypto} (keyring : Option (ArtifactKeyring C)) (t : TenantId)
    (evidenceId : UUID) (db : Database) : Except EvidenceError Json :=
  getArtifact keyring t .guardrailEvidence evidenceId db

/-! ## Checkpoints -/

/-- `_checkpoint_from_row`. -/
def checkpointFromRow (keyring : Option (ArtifactKeyring P.toCrypto)) (row : CheckpointRow) :
    Except EvidenceError SignedLedgerCheckpoint := do
  let payload ← match P.validatePayload row.payload with
    | none => .error (.validationError "payload")
    | some payload => .ok payload
  let checkpoint ← SignedLedgerCheckpoint.ofColumns payload row.payloadSha256 row.signingKeyId
    row.signatureValue
  if ← storeVerifies P keyring checkpoint then .ok checkpoint
  else .error (.artifactVerification
    ("ledger checkpoint " ++ payload.checkpointId.str ++ " failed verification"))

/-- Sequence and hash of the tenant's ledger head. -/
def ledgerHead (db : Database) (t : TenantId) : ℕ × HexDigest :=
  match (db.ledgerOf t).getLast? with
  | some head => (head.sequence, head.entrySha256)
  | none => (0, ledgerGenesisSha256)

/-- The latest checkpoint of this head that is no older than five minutes. -/
def recentCheckpoint (db : Database) (t : TenantId) (sequence : ℕ) (head : HexDigest)
    (now : Timestamp) : Option CheckpointRow :=
  (((db.checkpointsOf t).filter fun c => c.ledgerSequence = sequence ∧ c.ledgerHeadSha256 = head ∧
    now - 300000000 ≤ c.createdAt).insertionSort fun c c' => c'.createdAt ≤ c.createdAt).head?

/-- The row `create_ledger_checkpoint` inserts for a signed checkpoint. -/
def CheckpointRow.ofCheckpoint (c : SignedLedgerCheckpoint) (stored : Json) : CheckpointRow where
  tenantId := c.payload.tenantId
  checkpointId := c.payload.checkpointId
  ledgerSequence := c.payload.ledgerSequence
  ledgerEntries := c.payload.ledgerEntries
  ledgerHeadSha256 := c.payload.ledgerHeadSha256
  createdAt := c.payload.createdAt.instant
  retentionUntil := c.payload.retentionUntil.instant
  payload := stored
  payloadSha256 := c.payloadSha256
  signingKeyId := c.signingKeyId.val
  signatureValue := c.signature

/-- The part of `create_ledger_checkpoint` that signs and stores a new checkpoint. -/
def insertCheckpoint (K : ArtifactKeyring P.toCrypto) (keyId : String)
    (payload : LedgerCheckpointPayload) (db : Database) :
    Except EvidenceError (SignedLedgerCheckpoint × Database) := do
  let digest ← checkpointPayloadDigest P payload
  let signature ← K.sign "ledger_checkpoint" payload.checkpointId digest.val
  let checkpoint ← SignedLedgerCheckpoint.ofColumns payload digest keyId signature
  let stored ← storeJson P (payload.dump P)
  if (db.checkpointsOf payload.tenantId).any fun c => c.checkpointId = payload.checkpointId then
    .error .uniqueViolation
  else .ok (checkpoint,
    { db with checkpoints := db.checkpoints ++ [CheckpointRow.ofCheckpoint checkpoint stored] })

/-- A retention of a day or more ends after the creation. -/
theorem retention_after (now : Timestamp) {days : ℤ} (h : 1 ≤ days) :
    (Datetime.utc now).instant < (Datetime.utc (now + days * 86400000000)).instant := by
  have hpos : 0 < days * 86400000000 := by omega
  exact lt_add_of_pos_right now hpos

/-- `create_ledger_checkpoint`, with the two clock readings it makes and the identifier `uuid4`
    gives it. -/
def createLedgerCheckpoint (keyring : Option (ArtifactKeyring P.toCrypto)) (t : TenantId)
    (retentionDays : ℤ) (lookupNow now : Timestamp) (checkpointId : UUID) (db : Database) :
    Except EvidenceError (SignedLedgerCheckpoint × Database) :=
  if hdays : 1 ≤ retentionDays ∧ retentionDays ≤ 3650 then
    match keyring with
    | none => .error (.valueError "ledger checkpoints require an active Ed25519 signing key")
    | some K =>
      match K.activeAlgorithm, K.activeKeyId with
      | some .ed25519, some keyId =>
        let (sequence, head) := ledgerHead db t
        match recentCheckpoint db t sequence head lookupNow with
        | some row => do
          let checkpoint ← checkpointFromRow P keyring row
          .ok (checkpoint, db)
        | none =>
          let retention := now + retentionDays * 86400000000
          if representable retention then
            insertCheckpoint P K keyId ⟨checkpointId, t, sequence, (db.ledgerOf t).length, head,
              .utc now, .utc retention, retention_after now hdays.1⟩ db
          else .error .overflowError
      | _, _ => .error (.valueError "ledger checkpoints require an active Ed25519 signing key")
  else .error (.valueError "checkpoint retention must be between 1 and 3650 days")

/-! ### Successful runs, step by step -/

variable {P}

/-- What JSONB takes is stored. -/
theorem storeJson_of_some {j stored : Json} (h : P.jsonb j = some stored) :
    storeJson P j = .ok stored := by
  unfold storeJson
  rw [h]

/-- An artifact is signed with the envelope of its keyring. -/
theorem signArtifact_of_sign {C : Crypto} {K : ArtifactKeyring C} {kind : ArtifactKind} {id : UUID}
    {digest : HexDigest} {signature : String}
    (h : K.sign kind.value id digest.val = .ok signature) :
    signArtifact (some K) kind id digest =
      .ok ⟨K.activeAlgorithm.map SignatureAlgorithm.value, K.activeKeyId, some signature⟩ := by
  unfold signArtifact
  simp only [h, bind, Except.bind]

/-- A save whose steps return returns the store they leave. -/
theorem saveArtifact_of_steps {keyring : Option (ArtifactKeyring P.toCrypto)} {t : TenantId}
    {kind : ArtifactKind} {id : UUID} {payload stored : Json} {db : Database}
    {write : ArtifactRow → List ArtifactRow → Except EvidenceError (List ArtifactRow)}
    {digest : HexDigest} {envelope : Envelope} {rows : List ArtifactRow} {ledger : List LedgerRow}
    (hdigest : artifactDigest P.toCrypto payload = .ok digest)
    (hsign : signArtifact keyring kind id digest = .ok envelope)
    (hstored : P.jsonb payload = some stored)
    (hwrite : write ⟨t, id, stored, digest.val, envelope⟩ (db.artifacts kind) = .ok rows)
    (hledger : appendLedgerValues P.toCrypto t kind id digest envelope db = .ok ledger) :
    saveArtifact P keyring t kind id payload write db = .ok (db.saved kind rows ledger) := by
  unfold saveArtifact
  simp only [hdigest, hsign, storeJson_of_some hstored, hwrite, hledger, bind, Except.bind]

/-- A checkpoint whose steps return is inserted. -/
theorem insertCheckpoint_of_steps {K : ArtifactKeyring P.toCrypto} {keyId : String}
    {payload : LedgerCheckpointPayload} {db : Database} {digest : HexDigest} {signature : String}
    {checkpoint : SignedLedgerCheckpoint} {stored : Json}
    (hdigest : checkpointPayloadDigest P payload = .ok digest)
    (hsign : K.sign "ledger_checkpoint" payload.checkpointId digest.val = .ok signature)
    (hcolumns : SignedLedgerCheckpoint.ofColumns payload digest keyId signature = .ok checkpoint)
    (hstored : P.jsonb (payload.dump P) = some stored)
    (hfresh : ∀ c ∈ db.checkpointsOf payload.tenantId, c.checkpointId ≠ payload.checkpointId) :
    insertCheckpoint P K keyId payload db = .ok (checkpoint,
      { db with checkpoints := db.checkpoints ++ [CheckpointRow.ofCheckpoint checkpoint stored] }) := by
  have hany : ((db.checkpointsOf payload.tenantId).any fun c =>
      c.checkpointId = payload.checkpointId) = false := by
    simpa using hfresh
  unfold insertCheckpoint
  simp only [hdigest, hsign, hcolumns, storeJson_of_some hstored, bind, Except.bind]
  rw [if_neg (by rw [hany]; exact Bool.false_ne_true)]

/-- A new checkpoint is created where no recent one covers the head. -/
theorem createLedgerCheckpoint_of_steps {K : ArtifactKeyring P.toCrypto} {t : TenantId} {days : ℤ}
    {lookupNow now : Timestamp} {id : UUID} {db db' : Database} {keyId : String} {sequence : ℕ}
    {head : HexDigest} {checkpoint : SignedLedgerCheckpoint}
    (hdays : 1 ≤ days ∧ days ≤ 3650) (hkey : K.activeKeyId = some keyId)
    (halgorithm : K.activeAlgorithm = some .ed25519) (hhead : ledgerHead db t = (sequence, head))
    (hrecent : recentCheckpoint db t sequence head lookupNow = none)
    (hrepresentable : representable (now + days * 86400000000) = true)
    (hinsert : insertCheckpoint P K keyId ⟨id, t, sequence, (db.ledgerOf t).length, head, .utc now,
      .utc (now + days * 86400000000), retention_after now hdays.1⟩ db = .ok (checkpoint, db')) :
    createLedgerCheckpoint P (some K) t days lookupNow now id db = .ok (checkpoint, db') := by
  unfold createLedgerCheckpoint
  rw [dif_pos hdays]
  simp only [hkey, halgorithm, hhead, hrecent, hrepresentable, if_true]
  exact hinsert

variable (P)

/-! ## Transactions -/

/-- The evidence transactions, each with the store it runs in. -/
inductive Transaction (P : Platform) where
  | saveRun (keyring : Option (ArtifactKeyring P.toCrypto)) (t : TenantId) (runId : UUID)
      (payload : Json)
  | saveComparison (keyring : Option (ArtifactKeyring P.toCrypto)) (t : TenantId)
      (comparisonId baselineRunId candidateRunId : UUID) (payload : Json)
  | saveGuardrailEvidence (keyring : Option (ArtifactKeyring P.toCrypto)) (t : TenantId)
      (evidenceId : UUID) (payload : Json)
  | createLedgerCheckpoint (keyring : Option (ArtifactKeyring P.toCrypto)) (t : TenantId)
      (retentionDays : ℤ) (lookupNow now : Timestamp) (checkpointId : UUID)

/-- The keyring of the store that runs a transaction. -/
def Transaction.keyring {P : Platform} : Transaction P → Option (ArtifactKeyring P.toCrypto)
  | saveRun keyring .. | saveComparison keyring .. | saveGuardrailEvidence keyring ..
  | createLedgerCheckpoint keyring .. => keyring

/-- The database a transaction commits, if it does not raise. -/
def Transaction.perform {P : Platform} (db : Database) :
    Transaction P → Except EvidenceError Database
  | saveRun keyring t runId payload => Evidence.saveRun P keyring t runId payload db
  | saveComparison keyring t comparisonId baseline candidate payload =>
    Evidence.saveComparison P keyring t comparisonId baseline candidate payload db
  | saveGuardrailEvidence keyring t evidenceId payload =>
    Evidence.saveGuardrailEvidence P keyring t evidenceId payload db
  | createLedgerCheckpoint keyring t days lookupNow now id =>
    (Evidence.createLedgerCheckpoint P keyring t days lookupNow now id db).map Prod.snd

/-- One transaction: a failed one is rolled back. -/
def commit {P : Platform} (db : Database) (txn : Transaction P) : Database :=
  match txn.perform db with
  | .ok db' => db'
  | .error _ => db

/-- A transaction that returns is committed. -/
theorem commit_of_ok {P : Platform} {db db' : Database} {txn : Transaction P}
    (h : txn.perform db = .ok db') : commit db txn = db' := by
  unfold commit
  rw [h]

/-- A transaction that creates a checkpoint leaves the store of that call. -/
theorem Transaction.perform_create {P : Platform} {keyring : Option (ArtifactKeyring P.toCrypto)}
    {t : TenantId} {days : ℤ} {lookupNow now : Timestamp} {id : UUID} {db db' : Database}
    {checkpoint : SignedLedgerCheckpoint}
    (h : Evidence.createLedgerCheckpoint P keyring t days lookupNow now id db =
      .ok (checkpoint, db')) :
    (Transaction.createLedgerCheckpoint keyring t days lookupNow now id).perform db = .ok db' := by
  unfold Transaction.perform
  simp only [h, Except.map]

end AEControl.Evidence
