/-
  `recovery.py`: the offline verification of a restored database against signed checkpoints.

  The verifier walks the ledger up to a checkpoint in its own way: one SELECT joins every entry with
  its artifact, and the loop compares them without the audit's code.

  Structure of the proof:
  1. `restoredRows_eq`: the SELECT gives the first entries of the ledger, each with the artifact it
     names, if there is one;
  2. `entryCodes_eq_nil` says what a silent loop body has seen (`RestoredRow.Intact`), and
     `restoredFailures_eq_nil` what a silent loop has: a chain of intact entries;
  3. `RecoveryVerifier.valid_iff` says what a valid result means: the limits, the signature, the
     stored row, the count, the chain, the artifacts and the head;
  4. **the crux**, `RecoveryVerifier.auditedUpTo_of_valid` and `RecoveryVerifier.valid_of_clean`: an
     intact entry is one that the audit's ledger pass is silent about, and the other way round, so
     the two walks agree up to the checkpoint (`recovery_agrees_with_audit`).

  The tables exist here: the `database_schema` failure of a missing one does not occur.
-/
import AEControl.Evidence.Anchoring

namespace AEControl.Evidence

open HashChain Table

/-! ## Failures and results -/

/-- `RecoveryFailureCode`, the codes `_verify_checkpoint` can give. -/
inductive RecoveryFailureCode where
  | checkpointFuture
  | checkpointStale
  | checkpointSignature
  | checkpointMissing
  | checkpointMismatch
  | ledgerLimit
  | ledgerCount
  | ledgerSequence
  | ledgerPreviousHash
  | ledgerEntryHash
  | ledgerHead
  | artifactMissing
  | artifactDigest
  | artifactEnvelope
  | artifactSignature
  deriving DecidableEq, Repr

/-- `RecoveryVerificationFailure`. -/
structure RecoveryVerificationFailure where
  code : RecoveryFailureCode
  tenantId : TenantId
  checkpointId : UUID
  ledgerSequence : Option ℕ := none
  artifactType : Option ArtifactKind := none
  artifactId : Option UUID := none
  deriving DecidableEq

/-- `RecoveryCheckpointResult`; the age is in microseconds. -/
structure RecoveryCheckpointResult where
  checkpointId : UUID
  tenantId : TenantId
  ledgerSequence : ℕ
  checkpointCreatedAt : Datetime
  checkpointAge : ℤ
  entriesChecked : ℕ
  signedArtifacts : ℕ
  unsignedArtifacts : ℕ
  valid : Bool
  failureCount : ℕ
  failuresTruncated : Bool
  failures : List RecoveryVerificationFailure
  deriving DecidableEq

/-- `MAX_REPORTED_FAILURES_PER_CHECKPOINT`. -/
def maxReportedFailuresPerCheckpoint : ℕ := 20

/-- The age of a checkpoint in microseconds, negative for one from the future. -/
def SignedLedgerCheckpoint.age (checkpoint : SignedLedgerCheckpoint) (observedAt : Timestamp) : ℤ :=
  observedAt - checkpoint.payload.createdAt.instant

/-- `fail`, for a failure of the checkpoint itself. -/
def SignedLedgerCheckpoint.fail (checkpoint : SignedLedgerCheckpoint) (code : RecoveryFailureCode) :
    RecoveryVerificationFailure where
  code := code
  tenantId := checkpoint.payload.tenantId
  checkpointId := checkpoint.payload.checkpointId

/-- `fail`, for a failure of a ledger entry. -/
def SignedLedgerCheckpoint.failAt (checkpoint : SignedLedgerCheckpoint) (entry : LedgerRow)
    (code : RecoveryFailureCode) : RecoveryVerificationFailure where
  code := code
  tenantId := checkpoint.payload.tenantId
  checkpointId := checkpoint.payload.checkpointId
  ledgerSequence := some entry.sequence
  artifactType := some entry.artifactType
  artifactId := some entry.artifactId

/-- `_checkpoint_result`, given all failures: the first of them are reported. -/
def SignedLedgerCheckpoint.result (checkpoint : SignedLedgerCheckpoint) (age : ℤ)
    (entries signed unsigned : ℕ) (failures : List RecoveryVerificationFailure) :
    RecoveryCheckpointResult where
  checkpointId := checkpoint.payload.checkpointId
  tenantId := checkpoint.payload.tenantId
  ledgerSequence := checkpoint.payload.ledgerSequence
  checkpointCreatedAt := checkpoint.payload.createdAt
  checkpointAge := age
  entriesChecked := entries
  signedArtifacts := signed
  unsignedArtifacts := unsigned
  valid := failures.isEmpty
  failureCount := failures.length
  failuresTruncated := failures.length > maxReportedFailuresPerCheckpoint
  failures := failures.take maxReportedFailuresPerCheckpoint

/-! ## The restored rows -/

/-- A ledger entry with the artifact that the LEFT JOIN found for it. -/
structure RestoredRow where
  entry : LedgerRow
  artifact : Option ArtifactRow

/-- The SELECT: the entries up to a number, LEFT JOIN the artifact table of their class. -/
def restoredRows (db : Database) (t : TenantId) (sequence : ℕ) : List RestoredRow :=
  ((db.ledgerOf t).filter fun e => e.sequence ≤ sequence).flatMap fun e =>
    match (db.rowsOf t e.artifactType).filter fun a => a.artifactId = e.artifactId with
    | [] => [⟨e, none⟩]
    | a :: as => (a :: as).map fun a => ⟨e, some a⟩

/-- `_source_envelope`: a joined row whose payload is `None` counts as no row. -/
def RestoredRow.source (row : RestoredRow) : Option ArtifactRow :=
  match row.artifact with
  | none => none
  | some a =>
    match a.payload with
    | .null => none
    | _ => some a

theorem RestoredRow.source_eq_some {row : RestoredRow} {a : ArtifactRow} :
    row.source = some a ↔ row.artifact = some a ∧ a.payload ≠ .null := by
  unfold RestoredRow.source
  cases row.artifact with
  | none => simp
  | some b =>
    simp only [Option.some.injEq]
    split
    · rename_i hnull
      refine iff_of_false nofun ?_
      rintro ⟨rfl, hne⟩
      exact hne hnull
    · rename_i hnull
      constructor
      · intro h
        obtain rfl := Option.some.inj h
        exact ⟨rfl, hnull⟩
      · rintro ⟨rfl, -⟩
        rfl

/-- With their primary keys the artifact tables join at most one row to an entry. -/
theorem restoredRows_eq {db : Database} {t : TenantId} {sequence : ℕ}
    (hk : ∀ kind, Keyed ArtifactRow.artifactId (db.artifacts kind)) :
    restoredRows db t sequence =
      ((db.ledgerOf t).filter fun e => e.sequence ≤ sequence).map fun e =>
        ⟨e, lookup ArtifactRow.artifactId e.artifactId (db.rowsOf t e.artifactType)⟩ := by
  unfold restoredRows
  rw [List.map_eq_flatMap]
  refine congrArg (fun f => List.flatMap f _) (funext fun e => ?_)
  have hkeyed : Keyed ArtifactRow.artifactId (db.rowsOf t e.artifactType) :=
    (hk e.artifactType).sublist List.filter_sublist
  cases hfind : lookup ArtifactRow.artifactId e.artifactId (db.rowsOf t e.artifactType) with
  | none =>
    have hnone : (db.rowsOf t e.artifactType).filter (fun a => a.artifactId = e.artifactId) = [] :=
      List.filter_eq_nil_iff.mpr fun a ha => by simpa using lookup_none.mp hfind a ha
    rw [hnone]
  | some a =>
    obtain ⟨ha, hid⟩ := lookup_some hfind
    rw [← hid, hkeyed.filter_eq_singleton ha]
    rfl

/-! ## The checks of one entry -/

variable {C : Crypto}

/-- The digest checks: the payload against its column, then the column against the entry. -/
def digestCodes (C : Crypto) (entry : LedgerRow) (a : ArtifactRow) :
    Except EvidenceError (List RecoveryFailureCode) := do
  let actual ← artifactDigest C a.payload
  if ← compareDigest actual.val a.payloadSha256 then
    if ← compareDigest a.payloadSha256 entry.payloadSha256.val then .ok []
    else .ok [.artifactDigest]
  else .ok [.artifactDigest]

/-- The checks of an entry's signature. -/
def signatureCodes (keyring : Option (ArtifactKeyring C)) (entry : LedgerRow) :
    Except EvidenceError (List RecoveryFailureCode) :=
  match entry.envelope.algorithm, entry.envelope.keyId, entry.envelope.value with
  | none, none, none => .ok []
  | some algorithm, some keyId, some signature => do
    let valid ← match keyring with
      | none => .ok false
      | some K => orFalse (K.verify algorithm keyId entry.artifactType.value entry.artifactId
          entry.payloadSha256.val signature)
    .ok (if valid then [] else [.artifactSignature])
  | _, _, _ => .ok [.artifactEnvelope]

/-- The checks of an entry against its artifact. -/
def sourceCodes (keyring : Option (ArtifactKeyring C)) (entry : LedgerRow) (a : ArtifactRow) :
    Except EvidenceError (List RecoveryFailureCode) := do
  let digests ← digestCodes C entry a
  let envelopes := if a.envelope ≠ entry.envelope then [.artifactEnvelope] else []
  let signatures ← signatureCodes keyring entry
  .ok (digests ++ envelopes ++ signatures)

/-- The checks of a restored row against the artifact it is joined with. -/
def artifactCodes (keyring : Option (ArtifactKeyring C)) (row : RestoredRow) :
    Except EvidenceError (List RecoveryFailureCode) :=
  match row.source with
  | none => .ok [.artifactMissing]
  | some a => sourceCodes keyring row.entry a

/-- The body of the loop, at position `expectedSequence` and after the hash `previous`. -/
def entryCodes (keyring : Option (ArtifactKeyring C)) (t : TenantId) (expectedSequence : ℕ)
    (previous : HexDigest) (row : RestoredRow) :
    Except EvidenceError (List RecoveryFailureCode) := do
  let sequenceCodes := if row.entry.sequence ≠ expectedSequence then [.ledgerSequence] else []
  let previousCodes :=
    if row.entry.previousEntrySha256 ≠ previous then [.ledgerPreviousHash] else []
  let hashCodes := if row.entry.entrySha256 ≠ ledgerEntryDigest C t.val row.entry.toLedgerFields
    then [.ledgerEntryHash] else []
  let artifacts ← artifactCodes keyring row
  .ok (sequenceCodes ++ previousCodes ++ hashCodes ++ artifacts)

/-- The loop over the restored rows. -/
def restoredFailures (keyring : Option (ArtifactKeyring C)) (checkpoint : SignedLedgerCheckpoint) :
    ℕ → HexDigest → List RestoredRow → Except EvidenceError (List RecoveryVerificationFailure)
  | _, _, [] => .ok []
  | expectedSequence, previous, row :: rows => do
    let codes ← entryCodes keyring checkpoint.payload.tenantId expectedSequence previous row
    let rest ← restoredFailures keyring checkpoint (expectedSequence + 1) row.entry.entrySha256 rows
    .ok (codes.map (checkpoint.failAt row.entry) ++ rest)

/-- The hash the loop ends with. -/
def restoredHead (rows : List RestoredRow) : HexDigest :=
  rows.foldl (fun _ row => row.entry.entrySha256) ledgerGenesisSha256

theorem digestCodes_eq_nil {entry : LedgerRow} {a : ArtifactRow} :
    digestCodes C entry a = .ok [] ↔
      (∃ actual, artifactDigest C a.payload = .ok actual ∧
        compareDigest actual.val a.payloadSha256 = .ok true) ∧
      a.payloadSha256 = entry.payloadSha256.val := by
  constructor
  · intro h
    unfold digestCodes at h
    obtain ⟨actual, hactual, h⟩ := Raising.bind_ok h
    obtain ⟨same, hsame, h⟩ := Raising.bind_ok h
    cases same with
    | false => cases h
    | true =>
      obtain ⟨recorded, hrecorded, h⟩ := Raising.bind_ok h
      cases recorded with
      | false => cases h
      | true => exact ⟨⟨actual, hactual, hsame⟩, by simpa using compareDigest_ok hrecorded⟩
  · rintro ⟨⟨actual, hactual, hsame⟩, hrecorded⟩
    have hentry : compareDigest a.payloadSha256 entry.payloadSha256.val = .ok true := by
      simp [hrecorded, compareDigest]
    unfold digestCodes
    simp [hactual, hsame, hentry, bind, Except.bind]

/-- The verifier accepts an entry's signature exactly if the audit would. -/
theorem signatureCodes_eq_nil {keyring : Option (ArtifactKeyring C)} {entry : LedgerRow} :
    signatureCodes keyring entry = .ok [] ↔
      verifyAuthenticity keyring entry.artifactType.value entry.artifactId entry.payloadSha256.val
        entry.envelope = .ok () := by
  obtain ⟨⟨sequence, kind, id, digest, ⟨algorithm, keyId, value⟩, previous, hone⟩, t, hash⟩ := entry
  rcases algorithm with _ | algorithm <;> rcases keyId with _ | keyId <;>
    rcases value with _ | signature
  case none.none.none => exact iff_of_true rfl rfl
  case some.some.some =>
    cases keyring with
    | none => simp [signatureCodes, verifyAuthenticity, bind, Except.bind]
    | some K =>
      simp only [signatureCodes, verifyAuthenticity]
      cases K.verify algorithm keyId kind.value id digest.val signature with
      | ok valid => cases valid <;> simp [orFalse, bind, Except.bind]
      | error e =>
        by_cases hkey : e.isKeyError = true <;> by_cases hvalue : e.isValueError = true <;>
          simp [orFalse, bind, Except.bind, hkey, hvalue]
  all_goals simp [signatureCodes, verifyAuthenticity]

/-- **An entry's artifact gives no code** exactly if it repeats the entry's digest and envelope and
    a read of it would be accepted. -/
theorem sourceCodes_eq_nil {keyring : Option (ArtifactKeyring C)} {entry : LedgerRow}
    {a : ArtifactRow} :
    sourceCodes keyring entry a = .ok [] ↔
      entry.payloadSha256.val = a.payloadSha256 ∧ entry.envelope = a.envelope ∧
        verifyArtifact keyring entry.artifactType.value entry.artifactId a.payloadSha256 a.payload
          a.envelope = .ok () := by
  constructor
  · intro h
    unfold sourceCodes at h
    obtain ⟨digests, hdigests, h⟩ := Raising.bind_ok h
    obtain ⟨signatures, hsignatures, h⟩ := Raising.bind_ok h
    -- no code is given when each part gives none
    obtain ⟨rfl, henvelope, rfl⟩ : digests = [] ∧ a.envelope = entry.envelope ∧
        signatures = [] := by simpa using Except.ok.inj h
    obtain ⟨⟨actual, hactual, hsame⟩, hrecorded⟩ := digestCodes_eq_nil.mp hdigests
    refine ⟨hrecorded.symm, henvelope.symm, ?_⟩
    unfold verifyArtifact
    simp only [hactual, hsame, bind, Except.bind, if_true]
    rw [hrecorded, henvelope]
    exact signatureCodes_eq_nil.mp hsignatures
  · rintro ⟨hrecorded, henvelope, h⟩
    unfold verifyArtifact at h
    obtain ⟨actual, hactual, h⟩ := Raising.bind_ok h
    obtain ⟨same, hsame, h⟩ := Raising.bind_ok h
    cases same with
    | false => cases h
    | true =>
      have hdigests := digestCodes_eq_nil.mpr ⟨⟨actual, hactual, hsame⟩, hrecorded.symm⟩
      have hsignatures : signatureCodes keyring entry = .ok [] := by
        rw [signatureCodes_eq_nil, hrecorded, henvelope]
        exact h
      unfold sourceCodes
      simp [hdigests, hsignatures, henvelope, bind, Except.bind]

/-- A restored entry the audit would accept as well: its artifact is there, repeats its digest and
    envelope, and passes the checks of its own. -/
def RestoredRow.Intact (keyring : Option (ArtifactKeyring C)) (row : RestoredRow) : Prop :=
  ∃ a, row.source = some a ∧ row.entry.payloadSha256.val = a.payloadSha256 ∧
    row.entry.envelope = a.envelope ∧
    verifyArtifact keyring row.entry.artifactType.value row.entry.artifactId a.payloadSha256
      a.payload a.envelope = .ok ()

theorem artifactCodes_eq_nil {keyring : Option (ArtifactKeyring C)} {row : RestoredRow} :
    artifactCodes keyring row = .ok [] ↔ row.Intact keyring := by
  unfold artifactCodes RestoredRow.Intact
  cases row.source with
  | none => exact iff_of_false nofun (by simp)
  | some a => simp only [sourceCodes_eq_nil, Option.some.injEq, exists_eq_left']

theorem entryCodes_eq_nil {keyring : Option (ArtifactKeyring C)} {t : TenantId} {n : ℕ}
    {d : HexDigest} {row : RestoredRow} :
    entryCodes keyring t n d row = .ok [] ↔
      ((ledgerReader C t).sequence row.entry = n ∧ (ledgerReader C t).previous row.entry = d ∧
        (ledgerReader C t).entry row.entry = (ledgerReader C t).digest row.entry) ∧
      row.Intact keyring := by
  rw [← artifactCodes_eq_nil]
  constructor
  · intro h
    unfold entryCodes at h
    obtain ⟨artifacts, hartifacts, h⟩ := Raising.bind_ok h
    obtain ⟨hsequence, hprevious, hhash, rfl⟩ : row.entry.sequence = n ∧
        row.entry.previousEntrySha256 = d ∧
        row.entry.entrySha256 = ledgerEntryDigest C t.val row.entry.toLedgerFields ∧
        artifacts = [] := by simpa using Except.ok.inj h
    exact ⟨⟨hsequence, hprevious, hhash⟩, hartifacts⟩
  · rintro ⟨⟨hsequence, hprevious, hhash⟩, hartifacts⟩
    have hsequence : row.entry.sequence = n := hsequence
    have hprevious : row.entry.previousEntrySha256 = d := hprevious
    have hhash : row.entry.entrySha256 = ledgerEntryDigest C t.val row.entry.toLedgerFields := hhash
    unfold entryCodes
    simp [hsequence, hprevious, hhash, hartifacts, bind, Except.bind]

/-- **The loop finds nothing** exactly if the entries are a chain and each is intact. -/
theorem restoredFailures_eq_nil {keyring : Option (ArtifactKeyring C)}
    {checkpoint : SignedLedgerCheckpoint} {n : ℕ} {d : HexDigest} {rows : List RestoredRow} :
    restoredFailures keyring checkpoint n d rows = .ok [] ↔
      LinkedFrom (ledgerReader C checkpoint.payload.tenantId) n d (rows.map RestoredRow.entry) ∧
        ∀ row ∈ rows, row.Intact keyring := by
  induction rows generalizing n d with
  | nil => simp [restoredFailures]
  | cons row rows ih =>
    rw [List.map_cons, linkedFrom_cons, List.forall_mem_cons]
    constructor
    · intro h
      unfold restoredFailures at h
      obtain ⟨codes, hcodes, h⟩ := Raising.bind_ok h
      obtain ⟨rest, hrest, h⟩ := Raising.bind_ok h
      obtain ⟨rfl, rfl⟩ : codes = [] ∧ rest = [] := by simpa using Except.ok.inj h
      obtain ⟨hlink, hintact⟩ := entryCodes_eq_nil.mp hcodes
      obtain ⟨hlinked, hall⟩ := ih.mp hrest
      exact ⟨⟨hlink, hlinked⟩, hintact, hall⟩
    · rintro ⟨⟨hlink, hlinked⟩, hintact, hall⟩
      unfold restoredFailures
      simp only [entryCodes_eq_nil.mpr ⟨hlink, hintact⟩, bind, Except.bind]
      rw [show restoredFailures keyring checkpoint (n + 1) row.entry.entrySha256 rows = .ok [] from
        ih.mpr ⟨hlinked, hall⟩]
      rfl

theorem restoredHead_eq (t : TenantId) (rows : List RestoredRow) :
    restoredHead rows = headFrom (ledgerReader C t) ledgerGenesisSha256
      (rows.map RestoredRow.entry) := by
  unfold restoredHead
  generalize ledgerGenesisSha256 = d
  induction rows generalizing d with
  | nil => rfl
  | cons row rows ih => exact ih row.entry.entrySha256

/-! ## The verifier -/

/-- A `RecoveryVerifier` that its constructor accepts. -/
structure RecoveryVerifier (C : Crypto) where
  keyring : Option (ArtifactKeyring C)
  maxCheckpointAgeHours : ℤ
  maxLedgerEntries : ℤ
  age_bounds : 1 ≤ maxCheckpointAgeHours ∧ maxCheckpointAgeHours ≤ 24 * 30
  entries_bounds : 1 ≤ maxLedgerEntries ∧ maxLedgerEntries ≤ 1000000

/-- The constructor. -/
def RecoveryVerifier.init (keyring : Option (ArtifactKeyring C)) (maxCheckpointAgeHours : ℤ)
    (maxLedgerEntries : ℤ) : Except EvidenceError (RecoveryVerifier C) :=
  if hage : 1 ≤ maxCheckpointAgeHours ∧ maxCheckpointAgeHours ≤ 24 * 30 then
    if hentries : 1 ≤ maxLedgerEntries ∧ maxLedgerEntries ≤ 1000000 then
      .ok ⟨keyring, maxCheckpointAgeHours, maxLedgerEntries, hage, hentries⟩
    else .error (.valueError "maximum ledger entries must be between 1 and 1000000")
  else .error (.valueError "maximum checkpoint age must be between 1 and 720 hours")

section Verifier

variable (P : Platform)

/-- The checks of the supplied checkpoint by itself. -/
def RecoveryVerifier.suppliedCodes (V : RecoveryVerifier P.toCrypto)
    (checkpoint : SignedLedgerCheckpoint) (observedAt : Timestamp) :
    Except EvidenceError (List RecoveryFailureCode) := do
  let age := checkpoint.age observedAt
  let ageCodes := if age < -300000000 then [.checkpointFuture]
    else if V.maxCheckpointAgeHours * 3600000000 < age then [.checkpointStale] else []
  let verified ← storeVerifies P V.keyring checkpoint
  let signatureCodes := if verified then [] else [.checkpointSignature]
  let limitCodes :=
    if V.maxLedgerEntries < checkpoint.payload.ledgerSequence then [.ledgerLimit] else []
  .ok (ageCodes ++ signatureCodes ++ limitCodes)

/-- The checkpoint a stored row holds, `none` for a `ValidationError`. -/
def restoredCheckpoint (row : CheckpointRow) : Option SignedLedgerCheckpoint :=
  match P.validatePayload row.payload with
  | none => none
  | some payload => (SignedLedgerCheckpoint.ofColumns payload row.payloadSha256 row.signingKeyId
      row.signatureValue).toOption

/-- The comparison of the supplied checkpoint with the stored one. -/
def persistedCodes (db : Database) (checkpoint : SignedLedgerCheckpoint) :
    List RecoveryFailureCode :=
  match lookup CheckpointRow.checkpointId checkpoint.payload.checkpointId
      (db.checkpointsOf checkpoint.payload.tenantId) with
  | none => [.checkpointMissing]
  | some row =>
    match restoredCheckpoint P row with
    | none => [.checkpointMismatch]
    | some restored => if restored.equals checkpoint then [] else [.checkpointMismatch]

/-- `_verify_checkpoint`. -/
def RecoveryVerifier.verifyCheckpoint (V : RecoveryVerifier P.toCrypto) (db : Database)
    (checkpoint : SignedLedgerCheckpoint) (observedAt : Timestamp) :
    Except EvidenceError RecoveryCheckpointResult := do
  let payload := checkpoint.payload
  let age := max 0 (checkpoint.age observedAt)
  let supplied ← V.suppliedCodes P checkpoint observedAt
  if supplied ≠ [] then .ok (checkpoint.result age 0 0 0 (supplied.map checkpoint.fail))
  else
    let persisted := persistedCodes P db checkpoint
    let rows := restoredRows db payload.tenantId payload.ledgerSequence
    let countCodes := if rows.length ≠ payload.ledgerEntries ∨ rows.length ≠ payload.ledgerSequence
      then [.ledgerCount] else []
    let entryFailures ← restoredFailures V.keyring checkpoint 1 ledgerGenesisSha256 rows
    let headCodes := if restoredHead rows ≠ payload.ledgerHeadSha256 then [.ledgerHead] else []
    let signed := rows.countP fun row => row.source.isSome && row.entry.envelope.algorithm.isSome &&
      row.entry.envelope.keyId.isSome && row.entry.envelope.value.isSome
    let unsigned := rows.countP fun row => row.source.isSome && row.entry.envelope = .unsigned
    .ok (checkpoint.result age rows.length signed unsigned
      ((persisted ++ countCodes).map checkpoint.fail ++ entryFailures ++
        headCodes.map checkpoint.fail))

end Verifier

variable {P : Platform}

theorem restoredCheckpoint_eq_some {row : CheckpointRow} {checkpoint : SignedLedgerCheckpoint}
    (hvalidates : P.validatePayload row.payload = some checkpoint.payload)
    (hcolumns : SignedLedgerCheckpoint.ofColumns checkpoint.payload row.payloadSha256
      row.signingKeyId row.signatureValue = .ok checkpoint) :
    restoredCheckpoint P row = some checkpoint := by
  unfold restoredCheckpoint
  rw [hvalidates]
  exact congrArg Except.toOption hcolumns

/-- The checkpoint is within the age and entry limits. -/
structure RecoveryVerifier.Within (V : RecoveryVerifier C) (checkpoint : SignedLedgerCheckpoint)
    (observedAt : Timestamp) : Prop where
  not_future : -300000000 ≤ checkpoint.age observedAt
  not_stale : checkpoint.age observedAt ≤ V.maxCheckpointAgeHours * 3600000000
  entries : checkpoint.payload.ledgerSequence ≤ V.maxLedgerEntries

theorem RecoveryVerifier.suppliedCodes_eq_nil {V : RecoveryVerifier P.toCrypto}
    {checkpoint : SignedLedgerCheckpoint} {observedAt : Timestamp} :
    V.suppliedCodes P checkpoint observedAt = .ok [] ↔
      V.Within checkpoint observedAt ∧ storeVerifies P V.keyring checkpoint = .ok true := by
  unfold RecoveryVerifier.suppliedCodes
  constructor
  · intro h
    obtain ⟨verified, hverified, h⟩ := Raising.bind_ok h
    have h := Except.ok.inj h
    simp only [List.append_eq_nil_iff] at h
    obtain ⟨⟨hage, hsignature⟩, hlimit⟩ := h
    split_ifs at hage with hfuture hstale
    split_ifs at hsignature with hv
    split_ifs at hlimit with hentries
    subst hv
    exact ⟨⟨by omega, by omega, by omega⟩, hverified⟩
  · rintro ⟨⟨hfuture, hstale, hentries⟩, hverified⟩
    simp [hverified, bind, Except.bind, not_lt.mpr hfuture, not_lt.mpr hstale,
      not_lt.mpr hentries]

theorem persistedCodes_eq_nil {db : Database} {checkpoint : SignedLedgerCheckpoint} :
    persistedCodes P db checkpoint = [] ↔
      ∃ row restored, lookup CheckpointRow.checkpointId checkpoint.payload.checkpointId
          (db.checkpointsOf checkpoint.payload.tenantId) = some row ∧
        restoredCheckpoint P row = some restored ∧ restored.equals checkpoint = true := by
  unfold persistedCodes
  cases lookup CheckpointRow.checkpointId checkpoint.payload.checkpointId
      (db.checkpointsOf checkpoint.payload.tenantId) with
  | none => simp
  | some row =>
    simp only
    cases hrestored : restoredCheckpoint P row with
    | none => simp [hrestored]
    | some restored => by_cases heq : restored.equals checkpoint = true <;> simp [hrestored, heq]

/-- **A valid result** taken apart: limits, signature, stored row, count, chain, artifacts, head. -/
theorem RecoveryVerifier.valid_iff {V : RecoveryVerifier P.toCrypto} {db : Database}
    {checkpoint : SignedLedgerCheckpoint} {observedAt : Timestamp} :
    (∃ result, V.verifyCheckpoint P db checkpoint observedAt = .ok result ∧ result.valid = true) ↔
      (V.Within checkpoint observedAt ∧ storeVerifies P V.keyring checkpoint = .ok true) ∧
      persistedCodes P db checkpoint = [] ∧
      (restoredRows db checkpoint.payload.tenantId checkpoint.payload.ledgerSequence).length =
        checkpoint.payload.ledgerEntries ∧
      (restoredRows db checkpoint.payload.tenantId checkpoint.payload.ledgerSequence).length =
        checkpoint.payload.ledgerSequence ∧
      restoredFailures V.keyring checkpoint 1 ledgerGenesisSha256
        (restoredRows db checkpoint.payload.tenantId checkpoint.payload.ledgerSequence) = .ok [] ∧
      restoredHead (restoredRows db checkpoint.payload.tenantId
        checkpoint.payload.ledgerSequence) = checkpoint.payload.ledgerHeadSha256 := by
  rw [← RecoveryVerifier.suppliedCodes_eq_nil]
  generalize hrows : restoredRows db checkpoint.payload.tenantId
    checkpoint.payload.ledgerSequence = rows
  unfold RecoveryVerifier.verifyCheckpoint
  simp only [hrows]
  constructor
  · rintro ⟨result, h, hvalid⟩
    obtain ⟨supplied, hsupplied, h⟩ := Raising.bind_ok h
    split at h
    · rename_i hne
      obtain rfl := Except.ok.inj h
      simp [SignedLedgerCheckpoint.result, hne] at hvalid
    · rename_i hnil
      obtain rfl : supplied = [] := not_not.mp hnil
      obtain ⟨failures, hfailures, h⟩ := Raising.bind_ok h
      obtain rfl := Except.ok.inj h
      -- a result is valid when the list of its codes, put together from four, is empty
      have hvalid : persistedCodes P db checkpoint = [] ∧
          (rows.length = checkpoint.payload.ledgerEntries ∧
            rows.length = checkpoint.payload.ledgerSequence) ∧ failures = [] ∧
          restoredHead rows = checkpoint.payload.ledgerHeadSha256 := by
        simpa [SignedLedgerCheckpoint.result, and_assoc] using hvalid
      obtain ⟨hpersisted, ⟨hentries, hsequence⟩, rfl, hhead⟩ := hvalid
      exact ⟨hsupplied, hpersisted, hentries, hsequence, hfailures, hhead⟩
  · rintro ⟨hsupplied, hpersisted, hentries, hsequence, hfailures, hhead⟩
    simp [hsupplied, hpersisted, hfailures, hhead, bind, Except.bind,
      SignedLedgerCheckpoint.result, ← hentries, ← hsequence]

/-! ## Recovery and audit -/

/-- The row stored under the checkpoint's identifier reads as the checkpoint, in every field. -/
def Stores (P : Platform) (db : Database) (checkpoint : SignedLedgerCheckpoint) : Prop :=
  ∃ row, lookup CheckpointRow.checkpointId checkpoint.payload.checkpointId
      (db.checkpointsOf checkpoint.payload.tenantId) = some row ∧
    restoredCheckpoint P row = some checkpoint

/-- What the audit says about the ledger up to a checkpoint: it reports no entry, it reports no
    artifact of an entry, and the head is the signed one. -/
structure AuditedUpTo (keyring : Option (ArtifactKeyring P.toCrypto)) (db : Database)
    (payload : LedgerCheckpointPayload) : Prop where
  entries : ∀ failure ∈ auditLedger P.toCrypto payload.tenantId (fun _ => db),
    payload.ledgerSequence < failure.sequence
  artifacts : ∀ e ∈ db.ledgerOf payload.tenantId, e.sequence ≤ payload.ledgerSequence →
    ∃ a ∈ db.rowsOf payload.tenantId e.artifactType, a.artifactId = e.artifactId ∧
      checkArtifact keyring e.artifactType a = .ok none
  head : headAt (db.ledgerOf payload.tenantId) payload.ledgerSequence =
    some payload.ledgerHeadSha256

/-- The entries of the restored rows are the tenant's entries up to the number. -/
theorem map_entry_restoredRows {db : Database}
    (hk : ∀ kind, Keyed ArtifactRow.artifactId (db.artifacts kind)) (t : TenantId)
    (sequence : ℕ) :
    (restoredRows db t sequence).map RestoredRow.entry =
      (db.ledgerOf t).filter fun e => e.sequence ≤ sequence := by
  rw [restoredRows_eq hk, List.map_map]
  exact List.map_id _

/-- A ledger read `ORDER BY sequence` is its part up to a number and its part beyond. -/
theorem ledgerOf_split (db : Database) (t : TenantId) (sequence : ℕ) :
    (db.ledgerOf t).filter (fun e => e.sequence ≤ sequence) ++
      (db.ledgerOf t).filter (fun e => sequence < e.sequence) = db.ledgerOf t :=
  filter_le_append_filter_lt (List.pairwise_insertionSort _ _) sequence

/-- Rows with other numbers do not change a head. -/
theorem headAt_append {rows later : List LedgerRow} {sequence : ℕ}
    (h : ∀ e ∈ later, e.sequence ≠ sequence) :
    headAt (rows ++ later) sequence = headAt rows sequence := by
  have hnone : later.reverse.find? (fun r => r.sequence = sequence) = none :=
    List.find?_eq_none.mpr fun e he => by simpa using h e (List.mem_reverse.mp he)
  unfold headAt
  rw [List.reverse_append, List.find?_append, hnone]
  rfl

/-- The artifact of an intact restored row, as the audit looks it up. -/
theorem RestoredRow.Intact.source {C : Crypto} {keyring : Option (ArtifactKeyring C)}
    {db : Database} {t : TenantId} {e : LedgerRow}
    (hk : ∀ kind, Keyed ArtifactRow.artifactId (db.artifacts kind))
    (h : RestoredRow.Intact keyring
      ⟨e, lookup ArtifactRow.artifactId e.artifactId (db.rowsOf t e.artifactType)⟩) :
    ∃ a ∈ db.rowsOf t e.artifactType, a.artifactId = e.artifactId ∧
      checkArtifact keyring e.artifactType a = .ok none ∧
      sourceEnvelope (fun kind => db.rowsOf t kind) e.artifactType e.artifactId =
        some (e.payloadSha256.val, e.envelope) := by
  obtain ⟨a, hsource, hdigest, henvelope, hverify⟩ := h
  obtain ⟨ha, hid⟩ := lookup_some (RestoredRow.source_eq_some.mp hsource).1
  have hkeyed : Keyed ArtifactRow.artifactId (db.rowsOf t e.artifactType) :=
    (hk e.artifactType).sublist List.filter_sublist
  refine ⟨a, ha, hid, checkArtifact_none.mpr (by rw [hid]; exact hverify), ?_⟩
  rw [← hid, hdigest, henvelope]
  exact sourceEnvelope_of_mem (fun kind => db.rowsOf t kind) hkeyed ha

/-- A recorded artifact that the audit passes is intact as a restored row. -/
theorem RestoredRow.intact_of_audit {C : Crypto} {keyring : Option (ArtifactKeyring C)}
    {db : Database} {t : TenantId} {e : LedgerRow}
    (hk : ∀ kind, Keyed ArtifactRow.artifactId (db.artifacts kind))
    (hpayloads : ∀ a ∈ db.rowsOf t e.artifactType, a.payload ≠ .null)
    (hartifacts : ∀ a ∈ db.rowsOf t e.artifactType,
      checkArtifact keyring e.artifactType a = .ok none)
    (hsource : sourceEnvelope (fun kind => db.rowsOf t kind) e.artifactType e.artifactId =
      some (e.payloadSha256.val, e.envelope)) :
    RestoredRow.Intact keyring
      ⟨e, lookup ArtifactRow.artifactId e.artifactId (db.rowsOf t e.artifactType)⟩ := by
  obtain ⟨a, ha, hid, hdigest, henvelope⟩ := sourceEnvelope_some hsource
  have hkeyed : Keyed ArtifactRow.artifactId (db.rowsOf t e.artifactType) :=
    (hk e.artifactType).sublist List.filter_sublist
  have hlook := lookup_of_mem hkeyed ha
  rw [hid] at hlook
  have hverify := checkArtifact_none.mp (hartifacts a ha)
  rw [hid] at hverify
  exact ⟨a, RestoredRow.source_eq_some.mpr ⟨hlook, hpayloads a ha⟩, hdigest.symm, henvelope.symm,
    hverify⟩

/-- What a valid recovery result says in the terms of the audit. -/
theorem RecoveryVerifier.auditedUpTo_of_valid {V : RecoveryVerifier P.toCrypto} {db : Database}
    {checkpoint : SignedLedgerCheckpoint} {observedAt : Timestamp}
    (hk : ∀ kind, Keyed ArtifactRow.artifactId (db.artifacts kind))
    {result : RecoveryCheckpointResult}
    (hresult : V.verifyCheckpoint P db checkpoint observedAt = .ok result)
    (hvalid : result.valid = true) :
    AuditedUpTo V.keyring db checkpoint.payload := by
  obtain ⟨-, -, -, hcount, hloop, hhead⟩ := RecoveryVerifier.valid_iff.mp ⟨result, hresult, hvalid⟩
  obtain ⟨hlinked, hintact⟩ := restoredFailures_eq_nil.mp hloop
  rw [restoredHead_eq (C := P.toCrypto) checkpoint.payload.tenantId] at hhead
  rw [← List.length_map (f := RestoredRow.entry)] at hcount
  rw [map_entry_restoredRows hk] at hlinked hhead hcount
  have hsplit := ledgerOf_split db checkpoint.payload.tenantId checkpoint.payload.ledgerSequence
  generalize hentries : (db.ledgerOf checkpoint.payload.tenantId).filter
    (fun e => e.sequence ≤ checkpoint.payload.ledgerSequence) = entries at *
  generalize hlater : (db.ledgerOf checkpoint.payload.tenantId).filter
    (fun e => checkpoint.payload.ledgerSequence < e.sequence) = later at *
  have hbeyond : ∀ e ∈ later, checkpoint.payload.ledgerSequence < e.sequence := by
    intro e he
    rw [← hlater] at he
    exact of_decide_eq_true (List.mem_filter.mp he).2
  have hsources : ∀ e ∈ entries, ∃ a ∈ db.rowsOf checkpoint.payload.tenantId e.artifactType,
      a.artifactId = e.artifactId ∧ checkArtifact V.keyring e.artifactType a = .ok none ∧
        sourceEnvelope (fun kind => db.rowsOf checkpoint.payload.tenantId kind) e.artifactType
          e.artifactId = some (e.payloadSha256.val, e.envelope) := by
    intro e he
    refine RestoredRow.Intact.source hk (hintact _ ?_)
    rw [restoredRows_eq hk, hentries]
    exact List.mem_map_of_mem he
  refine ⟨fun failure hfailure => ?_, fun e he hle => ?_, ?_⟩
  · -- the part up to the checkpoint reports nothing, the rest only its own entries
    have hfirst : ledgerFailures P.toCrypto checkpoint.payload.tenantId
        (sourceEnvelope fun kind => db.rowsOf checkpoint.payload.tenantId kind) 1
        ledgerGenesisSha256 entries = [] :=
      ledgerFailures_eq_nil.mpr ⟨hlinked, fun e he => (hsources e he).choose_spec.2.2.2⟩
    rw [auditLedger, ← hsplit, ledgerFailures_append hlinked, hfirst, List.nil_append] at hfailure
    obtain ⟨e, he, hsequence⟩ := mem_ledgerFailures hfailure
    rw [hsequence]
    exact hbeyond e he
  · obtain ⟨a, ha, hid, hcheck, -⟩ := hsources e (hentries ▸ List.mem_filter.mpr ⟨he, by simpa⟩)
    exact ⟨a, ha, hid, hcheck⟩
  · rw [← hsplit, headAt_append fun e he => Nat.ne_of_gt (hbeyond e he)]
    refine (headAt_eq_some hlinked).mpr ⟨hcount.ge, ?_⟩
    rw [← hcount, List.take_length, hhead]

/-- A clean audit makes the recovery result of a stored checkpoint valid. -/
theorem RecoveryVerifier.valid_of_clean {V : RecoveryVerifier P.toCrypto} {db : Database}
    {checkpoint : SignedLedgerCheckpoint} {observedAt : Timestamp}
    (hk : ∀ kind, Keyed ArtifactRow.artifactId (db.artifacts kind))
    {report : ArtifactIntegrityReport}
    (haudit : verifyArtifacts P V.keyring checkpoint.payload.tenantId (fun _ => db) = .ok report)
    (hclean : report.Clean)
    (hpayloads : ∀ kind, ∀ a ∈ db.rowsOf checkpoint.payload.tenantId kind, a.payload ≠ .null)
    (hstored : Stores P db checkpoint) (hwithin : V.Within checkpoint observedAt) :
    ∃ result, V.verifyCheckpoint P db checkpoint observedAt = .ok result ∧
      result.valid = true := by
  obtain ⟨hartifactPass, hledgerPass, hcheckpointPass⟩ := verifyArtifacts_ok haudit
  have hartifacts := hartifactPass.mp hclean.1
  obtain ⟨hlinked, hsources⟩ := ledgerFailures_eq_nil.mp (hledgerPass.symm.trans hclean.2.1)
  -- the stored row is anchored, so its checkpoint is the supplied one
  obtain ⟨row, hrow, hrestored⟩ := hstored
  obtain ⟨checkpoint', hanchored⟩ :=
    checkCheckpoint_none.mp (hcheckpointPass.mp hclean.2.2 row (lookup_some hrow).1)
  obtain rfl : checkpoint' = checkpoint := by
    have hread := restoredCheckpoint_eq_some hanchored.validates hanchored.columns
    exact Option.some.inj (hread.symm.trans hrestored)
  have hmatch := hanchored.matches_row
  simp only [payloadMatches, Bool.and_eq_true, decide_eq_true_eq] at hmatch
  obtain ⟨⟨⟨⟨⟨⟨⟨-, -⟩, hsequence⟩, -⟩, hentries⟩, -⟩, -⟩, -⟩ := hmatch
  have hpinned := hanchored.head
  rw [← hsequence] at hentries hpinned
  obtain ⟨hle, hhead⟩ := (headAt_eq_some hlinked).mp hpinned
  have hfilter : (db.ledgerOf checkpoint'.payload.tenantId).filter
      (fun e => e.sequence ≤ checkpoint'.payload.ledgerSequence) =
        (db.ledgerOf checkpoint'.payload.tenantId).take checkpoint'.payload.ledgerSequence := by
    rw [← hlinked.filter_lt]
    exact List.filter_congr fun e _ => by simp [ledgerReader, Nat.lt_one_add_iff]
  have hmap := map_entry_restoredRows hk checkpoint'.payload.tenantId
    checkpoint'.payload.ledgerSequence
  rw [hfilter] at hmap
  have hlength : (restoredRows db checkpoint'.payload.tenantId
      checkpoint'.payload.ledgerSequence).length = checkpoint'.payload.ledgerSequence := by
    rw [← List.length_map (f := RestoredRow.entry), hmap, List.length_take, Nat.min_eq_left hle]
  refine RecoveryVerifier.valid_iff.mpr ⟨⟨hwithin, storeVerifies_true.mpr hanchored.verifies⟩,
    persistedCodes_eq_nil.mpr ⟨row, checkpoint', hrow, hrestored, checkpoint'.equals_self⟩,
    hlength.trans hentries.symm, hlength, restoredFailures_eq_nil.mpr ⟨?_, ?_⟩, ?_⟩
  · rw [hmap]
    exact hlinked.take _
  · rw [restoredRows_eq hk, hfilter]
    intro restored hmem
    obtain ⟨e, he, rfl⟩ := List.mem_map.mp hmem
    exact RestoredRow.intact_of_audit hk (hpayloads e.artifactType)
      (hartifacts e.artifactType) (hsources e (List.mem_of_mem_take he))
  · rw [restoredHead_eq (C := P.toCrypto) checkpoint'.payload.tenantId, hmap]
    exact hhead

/-- **Offline recovery verification agrees with the live audit**, for any restored content, under
    one keyring.  A valid result means that the audit has nothing to say about the ledger up to the
    checkpoint.  And if the audit is clean, the checkpoint is stored and within the limits, the
    result is valid. -/
theorem recovery_agrees_with_audit {V : RecoveryVerifier P.toCrypto} {db : Database}
    (hkeys : SchemaKeys db) (checkpoint : SignedLedgerCheckpoint) (observedAt : Timestamp)
    (hpayloads : ∀ kind, ∀ a ∈ db.rowsOf checkpoint.payload.tenantId kind, a.payload ≠ .null) :
    (∀ result, V.verifyCheckpoint P db checkpoint observedAt = .ok result → result.valid = true →
      AuditedUpTo V.keyring db checkpoint.payload) ∧
    ∀ report, verifyArtifacts P V.keyring checkpoint.payload.tenantId (fun _ => db) = .ok report →
      report.Clean → Stores P db checkpoint → V.Within checkpoint observedAt →
      ∃ result, V.verifyCheckpoint P db checkpoint observedAt = .ok result ∧ result.valid = true :=
  ⟨fun _ hresult hvalid => RecoveryVerifier.auditedUpTo_of_valid hkeys.artifacts hresult hvalid,
    fun _ haudit hclean hstored hwithin =>
      RecoveryVerifier.valid_of_clean hkeys.artifacts haudit hclean hpayloads hstored hwithin⟩

/-- A verifier with the default limits. -/
def Sample.verifier : RecoveryVerifier Sample.platform.toCrypto :=
  ⟨some Sample.keyring, 48, 100000, by decide, by decide⟩

/-- Six hours after the checkpoint of the worked store its recovery is valid, and says so of the
    audit. -/
theorem recovery_agrees_with_audit_sample :
    (∃ result, Sample.verifier.verifyCheckpoint Sample.platform Sample.anchoredDb Sample.checkpoint
      1767247320000000 = .ok result ∧ result.valid = true) ∧
    AuditedUpTo (P := Sample.platform) (some Sample.keyring) Sample.anchoredDb Sample.payload := by
  have hinv := Sample.run_txns ▸ ledgerInvariant_run Sample.txns
  have hpayloads : ∀ kind, ∀ a ∈ Sample.anchoredDb.rowsOf
      Sample.checkpoint.payload.tenantId kind, a.payload ≠ .null := by
    intro kind a ha
    cases kind with
    | run =>
      obtain rfl := List.mem_singleton.mp (mem_rowsOf.mp ha).1
      exact nofun
    | comparison => cases (mem_rowsOf.mp ha).1
    | guardrailEvidence => cases (mem_rowsOf.mp ha).1
  obtain ⟨hforward, hback⟩ := recovery_agrees_with_audit (V := Sample.verifier) hinv.schemaKeys
    Sample.checkpoint 1767247320000000 hpayloads
  obtain ⟨report, haudit, hclean⟩ := Sample.audit_clean
  have hread : restoredCheckpoint Sample.platform
      (CheckpointRow.ofCheckpoint Sample.checkpoint (.obj Sample.storedPayloadItems)) =
        some Sample.checkpoint :=
    restoredCheckpoint_eq_some Sample.validatePayload_stored Sample.checkpoint.ofColumns_self
  obtain ⟨result, hresult, hvalid⟩ := hback report haudit hclean ⟨_, rfl, hread⟩
    ⟨by decide, by decide, by decide⟩
  exact ⟨⟨result, hresult, hvalid⟩, hforward result hresult hvalid⟩

end AEControl.Evidence
