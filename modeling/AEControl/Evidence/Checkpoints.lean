/-
  `checkpoints.py`: signed ledger checkpoints.

  A payload and a signed envelope hold the proofs of their pydantic constraints, so a value of the
  type is one `model_validate` accepts.  What PostgreSQL and pydantic do to the payload on its way
  through a JSONB column are the functions of a `Platform`.
-/
import AEControl.Evidence.Integrity

namespace AEControl.Evidence

/-! ## Checkpoint payloads -/

/-- `^[a-z0-9][a-z0-9._-]{0,63}$`. -/
def isTenantId (s : String) : Bool :=
  let lowerOrDigit := fun c : Char => c.isDigit || c.isLower
  match s.toList with
  | [] => false
  | c :: cs => lowerOrDigit c && cs.length ≤ 63 &&
      cs.all fun d => lowerOrDigit d || d = '.' || d = '_' || d = '-'

/-- A text that matches `TENANT_ID_PATTERN`. -/
abbrev TenantId := { s : String // isTenantId s = true }

theorem isTenantId_default : isTenantId "default" = true := by decide

/-- An aware `datetime`: two of them are compared by their instant, printed with their offset. -/
structure Datetime where
  instant : Timestamp
  utcoffset : Int
  deriving DecidableEq, Repr

/-- A `datetime` in UTC. -/
def Datetime.utc (t : Timestamp) : Datetime := ⟨t, 0⟩

/-- A `datetime`, naive or aware. -/
inductive PyDatetime where
  | naive (wall : Timestamp)
  | aware (d : Datetime)
  deriving DecidableEq

/-- `LedgerCheckpointPayload`. -/
structure LedgerCheckpointPayload where
  checkpointId : UUID
  tenantId : TenantId
  ledgerSequence : ℕ
  ledgerEntries : ℕ
  ledgerHeadSha256 : HexDigest
  createdAt : Datetime
  retentionUntil : Datetime
  /-- `validate_retention`. -/
  retention : createdAt.instant < retentionUntil.instant
  deriving DecidableEq

/-- `SignedLedgerCheckpoint`. -/
structure SignedLedgerCheckpoint where
  payload : LedgerCheckpointPayload
  payloadSha256 : HexDigest
  signingKeyId : { s : String // isKeyId s = true }
  signature : String
  signature_ne : signature ≠ ""
  deriving DecidableEq

/-- The `SignedLedgerCheckpoint` constructor on the columns of a row. -/
def SignedLedgerCheckpoint.ofColumns (payload : LedgerCheckpointPayload)
    (payloadSha256 : HexDigest) (signingKeyId signature : String) :
    Except EvidenceError SignedLedgerCheckpoint :=
  if hkey : isKeyId signingKeyId = true then
    if hsig : signature ≠ "" then .ok ⟨payload, payloadSha256, ⟨signingKeyId, hkey⟩, signature, hsig⟩
    else .error (.validationError "signature")
  else .error (.validationError "signing_key_id")

/-- Python's `==` on two payloads: datetimes are equal when their instants are. -/
def LedgerCheckpointPayload.equals (p q : LedgerCheckpointPayload) : Bool :=
  p.checkpointId = q.checkpointId && p.tenantId = q.tenantId &&
    p.ledgerSequence = q.ledgerSequence && p.ledgerEntries = q.ledgerEntries &&
    p.ledgerHeadSha256 = q.ledgerHeadSha256 && p.createdAt.instant = q.createdAt.instant &&
    p.retentionUntil.instant = q.retentionUntil.instant

/-- Python's `==` on two signed checkpoints. -/
def SignedLedgerCheckpoint.equals (c c' : SignedLedgerCheckpoint) : Bool :=
  c.payload.equals c'.payload && c.payloadSha256 = c'.payloadSha256 &&
    c.signingKeyId = c'.signingKeyId && c.signature = c'.signature

@[simp] theorem SignedLedgerCheckpoint.equals_self (c : SignedLedgerCheckpoint) :
    c.equals c = true := by
  simp [SignedLedgerCheckpoint.equals, LedgerCheckpointPayload.equals]

theorem SignedLedgerCheckpoint.ofColumns_ok {p : LedgerCheckpointPayload} {d : HexDigest}
    {keyId signature : String} {c : SignedLedgerCheckpoint}
    (h : SignedLedgerCheckpoint.ofColumns p d keyId signature = .ok c) :
    c.payload = p ∧ c.payloadSha256 = d ∧ c.signingKeyId.val = keyId ∧ c.signature = signature := by
  unfold SignedLedgerCheckpoint.ofColumns at h
  split at h
  · split at h
    · obtain rfl := Except.ok.inj h
      exact ⟨rfl, rfl, rfl, rfl⟩
    · cases h
  · cases h

/-- The columns of a signed checkpoint give it back. -/
@[simp] theorem SignedLedgerCheckpoint.ofColumns_self (c : SignedLedgerCheckpoint) :
    SignedLedgerCheckpoint.ofColumns c.payload c.payloadSha256 c.signingKeyId.val c.signature =
      .ok c := by
  simp [SignedLedgerCheckpoint.ofColumns, c.signingKeyId.property, c.signature_ne]

/-! ## The platform -/

/-- What lies outside the program: the cryptographic primitives, the value a JSONB column gives back
    for one that was stored (`none` where PostgreSQL rejects it), pydantic's JSON form of an aware
    datetime, and `LedgerCheckpointPayload.model_validate` (`none` for a `ValidationError`). -/
structure Platform extends Crypto where
  jsonb : Json → Option Json
  isoformat : Datetime → String
  validatePayload : Json → Option LedgerCheckpointPayload

variable (P : Platform)

/-- The items of `payload.model_dump(mode="json")`. -/
def LedgerCheckpointPayload.items (isoformat : Datetime → String) (p : LedgerCheckpointPayload) :
    List (String × Json) :=
  [("schema_version", .str "1.0"),
    ("checkpoint_id", .str p.checkpointId.str),
    ("tenant_id", .str p.tenantId.val),
    ("ledger_sequence", .int p.ledgerSequence),
    ("ledger_entries", .int p.ledgerEntries),
    ("ledger_head_sha256", .str p.ledgerHeadSha256.val),
    ("created_at", .str (isoformat p.createdAt)),
    ("retention_until", .str (isoformat p.retentionUntil))]

/-- `payload.model_dump(mode="json")`. -/
def LedgerCheckpointPayload.dump (p : LedgerCheckpointPayload) : Json := .obj (p.items P.isoformat)

/-- `checkpoint_payload_digest`. -/
def checkpointPayloadDigest (p : LedgerCheckpointPayload) : Except EvidenceError HexDigest :=
  artifactDigest P.toCrypto (p.dump P)

/-- `except (KeyError, ValueError): return False`. -/
def orFalse : Except EvidenceError Bool → Except EvidenceError Bool
  | .ok b => .ok b
  | .error e => if e.isKeyError || e.isValueError then .ok false else .error e

/-- `verify_checkpoint`. -/
def verifyCheckpoint (c : SignedLedgerCheckpoint) (K : ArtifactKeyring P.toCrypto) :
    Except EvidenceError Bool := do
  let digest ← checkpointPayloadDigest P c.payload
  if digest ≠ c.payloadSha256 then .ok false
  else orFalse (K.verify SignatureAlgorithm.ed25519.value c.signingKeyId.val "ledger_checkpoint"
    c.payload.checkpointId digest.val c.signature)

/-- `self.keyring is not None and verify_checkpoint(checkpoint, self.keyring)`. -/
def storeVerifies (keyring : Option (ArtifactKeyring P.toCrypto)) (c : SignedLedgerCheckpoint) :
    Except EvidenceError Bool :=
  match keyring with
  | none => .ok false
  | some K => verifyCheckpoint P c K

variable {P}

theorem orFalse_ok_true {r : Except EvidenceError Bool} : orFalse r = .ok true ↔ r = .ok true := by
  cases r with
  | ok b => simp [orFalse]
  | error e =>
    simp only [orFalse]
    split <;> simp

/-- **A checkpoint's digest commits to its payload**, field by field, datetimes as they are
    printed. -/
theorem LedgerCheckpointPayload.items_inj {isoformat : Datetime → String}
    {p q : LedgerCheckpointPayload}
    (h : (Json.obj (p.items isoformat)).canonicalText =
      (Json.obj (q.items isoformat)).canonicalText) :
    p.checkpointId = q.checkpointId ∧ p.tenantId = q.tenantId ∧
      p.ledgerSequence = q.ledgerSequence ∧ p.ledgerEntries = q.ledgerEntries ∧
      p.ledgerHeadSha256 = q.ledgerHeadSha256 ∧ isoformat p.createdAt = isoformat q.createdAt ∧
      isoformat p.retentionUntil = isoformat q.retentionUntil := by
  have field : ∀ {k : String} {v w : Json}, (k, v) ∈ p.items isoformat →
      (k, w) ∈ q.items isoformat → v.canon = w.canon := fun hv hw =>
    Json.canon_obj_field (by simp [LedgerCheckpointPayload.items]) (Json.canonicalText_inj.mp h)
      hv hw
  have text : ∀ {k s s' : String}, (k, Json.str s) ∈ p.items isoformat →
      (k, Json.str s') ∈ q.items isoformat → s = s' := fun hv hw => by
    simpa only [Json.canon, Json.str.injEq] using field hv hw
  have number : ∀ {k : String} {n m : ℕ}, (k, Json.int n) ∈ p.items isoformat →
      (k, Json.int m) ∈ q.items isoformat → n = m := fun hv hw => by
    simpa only [Json.canon, Json.int.injEq, Nat.cast_inj] using field hv hw
  refine ⟨UUID.str_inj (text (k := "checkpoint_id") ?_ ?_),
    Subtype.ext (text (k := "tenant_id") ?_ ?_), number (k := "ledger_sequence") ?_ ?_,
    number (k := "ledger_entries") ?_ ?_, Subtype.ext (text (k := "ledger_head_sha256") ?_ ?_),
    text (k := "created_at") ?_ ?_, text (k := "retention_until") ?_ ?_⟩
  all_goals simp [LedgerCheckpointPayload.items]

/-- A checkpoint verifies exactly if its digest is that of its payload and its signature is a valid
    Ed25519 signature of it under a key of the keyring. -/
theorem verifyCheckpoint_true {c : SignedLedgerCheckpoint} {K : ArtifactKeyring P.toCrypto} :
    verifyCheckpoint P c K = .ok true ↔
      checkpointPayloadDigest P c.payload = .ok c.payloadSha256 ∧
        K.verify SignatureAlgorithm.ed25519.value c.signingKeyId.val "ledger_checkpoint"
          c.payload.checkpointId c.payloadSha256.val c.signature = .ok true := by
  constructor
  · intro h
    unfold verifyCheckpoint at h
    obtain ⟨d, hd, h⟩ := Raising.bind_ok h
    split at h
    · cases h
    · rename_i hne
      obtain rfl : d = c.payloadSha256 := not_not.mp hne
      exact ⟨hd, orFalse_ok_true.mp h⟩
  · rintro ⟨hd, hv⟩
    unfold verifyCheckpoint
    rw [hd]
    show (if c.payloadSha256 ≠ c.payloadSha256 then _ else _) = _
    rw [if_neg (not_not.mpr rfl)]
    exact orFalse_ok_true.mpr hv

theorem storeVerifies_true {c : SignedLedgerCheckpoint}
    {keyring : Option (ArtifactKeyring P.toCrypto)} :
    storeVerifies P keyring c = .ok true ↔
      ∃ K, keyring = some K ∧ verifyCheckpoint P c K = .ok true := by
  cases keyring <;> simp [storeVerifies]

/-! ## What the outside world keeps -/

/-- The documented behaviour of JSONB and pydantic on a checkpoint payload in UTC, which holds texts
    and integers only: what comes back validates to the payload. -/
def PayloadRoundTrip (P : Platform) : Prop :=
  ∀ p : LedgerCheckpointPayload, p.createdAt.utcoffset = 0 → p.retentionUntil.utcoffset = 0 →
    ∀ j, P.jsonb (p.dump P) = some j → P.validatePayload j = some p

/-- A JSONB column gives back a value that can be hashed again: numbers that can be printed, in
    the same nesting. -/
def KeepsCanonical (P : Platform) : Prop :=
  ∀ j k, P.canonicalizes j = true → P.jsonb j = some k → P.canonicalizes k = true

end AEControl.Evidence
