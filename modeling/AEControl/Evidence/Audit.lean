/-
  `ArtifactStore.verify_artifacts`: the audit of one tenant's evidence.

  The audit reads nine times, in the order of `AuditRead.inOrder`, and under READ COMMITTED each
  read sees the committed database of its own moment: `snap` gives it.  An audit of a database at
  rest is `snap = fun _ => db`.

  Each pass gets one lemma that says when it reports nothing:
  1. `checkArtifact_none`: the row's digest is that of its payload, and its envelope is empty or
     verifies;
  2. `ledgerFailures_eq_nil`: the entries are a chain from the genesis value, and every one repeats
     its artifact's digest and envelope.  It is by induction on the entries, with the number and
     the digest that the walk has arrived at;
  3. `checkCheckpoint_none`: the row is an intact signed checkpoint whose head is the ledger's at
     its sequence number (`Anchored`).

  `verifyArtifacts_ok` takes a report apart into the three passes, and `verifyArtifacts_returns`
  puts it together; the modules above use nothing else of the audit.
-/
import AEControl.Lib.HashChain
import AEControl.Evidence.Store

namespace AEControl.Evidence

open HashChain

/-! ## The reads -/

/-- The SELECTs of the audit. -/
inductive AuditRead where
  /-- An artifact table, for digests and signatures. -/
  | digests (kind : ArtifactKind)
  | ledger
  /-- An artifact table again, for the comparison with the ledger. -/
  | sources (kind : ArtifactKind)
  | checkpoints
  /-- The ledger again, for the heads the checkpoints name. -/
  | heads
  deriving DecidableEq, Repr

/-- The order the audit reads in. -/
def AuditRead.inOrder : List AuditRead :=
  [.digests .run, .digests .comparison, .digests .guardrailEvidence, .ledger,
    .sources .run, .sources .comparison, .sources .guardrailEvidence, .checkpoints, .heads]

/-! ## Artifacts -/

/-- `failure_kind`. -/
inductive FailureKind where
  | digest
  | signature
  | missingSigningKey
  deriving DecidableEq, Repr

/-- `ArtifactIntegrityItem`. -/
structure ArtifactIntegrityItem where
  artifactType : ArtifactKind
  artifactId : UUID
  valid : Bool
  expectedSha256 : HexDigest
  actualSha256 : HexDigest
  failureKind : FailureKind
  signatureAlgorithm : Option String
  signingKeyId : Option String
  deriving DecidableEq

/-- The `failure_kind` the audit writes for an `ArtifactAuthenticityError`. -/
def AuthenticityReason.failureKind : AuthenticityReason → FailureKind
  | missingSigningKey => .missingSigningKey
  | _ => .signature

/-- The checks of one artifact row. -/
def checkArtifact {C : Crypto} (keyring : Option (ArtifactKeyring C)) (kind : ArtifactKind)
    (row : ArtifactRow) : Except EvidenceError (Option ArtifactIntegrityItem) := do
  let actual ← artifactDigest C row.payload
  if ← compareDigest actual.val row.payloadSha256 then
    match verifyAuthenticity keyring kind.value row.artifactId row.payloadSha256 row.envelope with
    | .ok () => .ok none
    | .error (.artifactAuthenticity _ _ keyId reason algorithm) =>
      -- the expected digest is the actual one here
      .ok (some ⟨kind, row.artifactId, false, actual, actual, reason.failureKind, algorithm, keyId⟩)
    | .error e => .error e
  else if hexpected : isHexDigest row.payloadSha256 then
    .ok (some ⟨kind, row.artifactId, false, ⟨row.payloadSha256, hexpected⟩, actual, .digest, none,
      none⟩)
  else .error (.validationError "expected_sha256")

/-- An artifact row is not reported exactly if a read of the artifact would accept it. -/
theorem checkArtifact_none {C : Crypto} {keyring : Option (ArtifactKeyring C)}
    {kind : ArtifactKind} {row : ArtifactRow} :
    checkArtifact keyring kind row = .ok none ↔
      verifyArtifact keyring kind.value row.artifactId row.payloadSha256 row.payload row.envelope =
        .ok () := by
  unfold checkArtifact verifyArtifact
  cases artifactDigest C row.payload with
  | error e => exact ⟨nofun, nofun⟩
  | ok actual =>
    simp only [bind, Except.bind]
    cases compareDigest actual.val row.payloadSha256 with
    | error e => exact ⟨nofun, nofun⟩
    | ok same =>
      cases same with
      | false =>
        simp only [Bool.false_eq_true, if_false]
        split <;> exact ⟨nofun, nofun⟩
      | true =>
        simp only [if_true]
        split <;> simp_all

/-! ## The ledger -/

/-- `reason` of an `ArtifactLedgerFailure`. -/
inductive LedgerFailureReason where
  | sequenceGap
  | previousHash
  | entryHash
  | missingArtifact
  | artifactMismatch
  deriving DecidableEq, Repr

/-- `ArtifactLedgerFailure`. -/
structure ArtifactLedgerFailure where
  sequence : ℕ
  artifactType : ArtifactKind
  artifactId : UUID
  reason : LedgerFailureReason
  expectedSha256 : Option HexDigest := none
  actualSha256 : Option HexDigest := none
  deriving DecidableEq

/-- How the ledger of a tenant is a hash chain. -/
def ledgerReader (C : Crypto) (t : TenantId) : Reader LedgerRow HexDigest where
  sequence := fun r => r.sequence
  previous := fun r => r.previousEntrySha256
  entry := fun r => r.entrySha256
  digest := fun r => ledgerEntryDigest C t.val r.toLedgerFields

/-- `source_envelopes`: the columns of a stored artifact that its ledger entry repeats. -/
def sourceEnvelope (rows : ArtifactKind → List ArtifactRow) (kind : ArtifactKind) (id : UUID) :
    Option (String × Envelope) :=
  -- a dictionary keeps the last row of a key
  ((rows kind).reverse.find? fun r => r.artifactId = id).map fun r => (r.payloadSha256, r.envelope)

/-- The checks of one ledger row, after a row with hash `previous`. -/
def checkEntry (C : Crypto) (t : TenantId)
    (source : ArtifactKind → UUID → Option (String × Envelope)) (expectedSequence : ℕ)
    (previous : HexDigest) (row : LedgerRow) : Option ArtifactLedgerFailure :=
  let failure := fun (reason : LedgerFailureReason) (expected actual : Option HexDigest) =>
    some ⟨row.sequence, row.artifactType, row.artifactId, reason, expected, actual⟩
  let expectedEntry := ledgerEntryDigest C t.val row.toLedgerFields
  if row.sequence ≠ expectedSequence then failure .sequenceGap none none
  else if row.previousEntrySha256 ≠ previous then
    failure .previousHash (some previous) (some row.previousEntrySha256)
  else if row.entrySha256 ≠ expectedEntry then
    failure .entryHash (some expectedEntry) (some row.entrySha256)
  else match source row.artifactType row.artifactId with
    | none => failure .missingArtifact none none
    | some envelope =>
      if envelope ≠ (row.payloadSha256.val, row.envelope) then failure .artifactMismatch none none
      else none

/-- The loop of `_verify_artifact_ledger`. -/
def ledgerFailures (C : Crypto) (t : TenantId)
    (source : ArtifactKind → UUID → Option (String × Envelope)) :
    ℕ → HexDigest → List LedgerRow → List ArtifactLedgerFailure
  | _, _, [] => []
  | expectedSequence, previous, row :: rows =>
    (checkEntry C t source expectedSequence previous row).toList ++
      ledgerFailures C t source (row.sequence + 1) row.entrySha256 rows

variable {C : Crypto} {t : TenantId} {source : ArtifactKind → UUID → Option (String × Envelope)}

theorem checkEntry_none {n : ℕ} {d : HexDigest} {row : LedgerRow} :
    checkEntry C t source n d row = none ↔
      ((ledgerReader C t).sequence row = n ∧ (ledgerReader C t).previous row = d ∧
        (ledgerReader C t).entry row = (ledgerReader C t).digest row) ∧
      source row.artifactType row.artifactId = some (row.payloadSha256.val, row.envelope) := by
  unfold checkEntry ledgerReader
  simp only
  split_ifs with hseq hprev hentry
  · simp [hseq]
  · simp [hprev]
  · simp [hentry]
  · simp only [not_not] at hseq hprev hentry
    simp only [hseq, hprev, hentry, true_and]
    cases source row.artifactType row.artifactId with
    | none => simp
    | some envelope => simp

/-- A failure carries the number of its row. -/
theorem sequence_of_checkEntry {n : ℕ} {d : HexDigest} {row : LedgerRow}
    {failure : ArtifactLedgerFailure} (h : checkEntry C t source n d row = some failure) :
    failure.sequence = row.sequence := by
  unfold checkEntry at h
  simp only at h
  split_ifs at h
  · cases h; rfl
  · cases h; rfl
  · cases h; rfl
  · split at h
    · cases h; rfl
    · split_ifs at h
      cases h; rfl

/-- **The ledger pass reports nothing** exactly if the rows are a chain and every entry repeats its
    artifact's digest and envelope. -/
theorem ledgerFailures_eq_nil {n : ℕ} {d : HexDigest} {rows : List LedgerRow} :
    ledgerFailures C t source n d rows = [] ↔ LinkedFrom (ledgerReader C t) n d rows ∧
      ∀ row ∈ rows, source row.artifactType row.artifactId =
        some (row.payloadSha256.val, row.envelope) := by
  induction rows generalizing n d with
  | nil => simp [ledgerFailures]
  | cons row rows ih =>
    rw [ledgerFailures, List.append_eq_nil_iff, Option.toList_eq_nil_iff, ih, checkEntry_none,
      linkedFrom_cons, List.forall_mem_cons]
    constructor
    · rintro ⟨⟨hlink, hsource⟩, hrest, hsources⟩
      have hseq : row.sequence = n := hlink.1
      exact ⟨⟨hlink, hseq ▸ hrest⟩, hsource, hsources⟩
    · rintro ⟨⟨hlink, hrest⟩, hsource, hsources⟩
      have hseq : row.sequence = n := hlink.1
      exact ⟨⟨hlink, hsource⟩, hseq ▸ hrest, hsources⟩

/-- Every failure of the ledger pass belongs to a row. -/
theorem mem_ledgerFailures {n : ℕ} {d : HexDigest} {rows : List LedgerRow}
    {failure : ArtifactLedgerFailure} (h : failure ∈ ledgerFailures C t source n d rows) :
    ∃ row ∈ rows, failure.sequence = row.sequence := by
  induction rows generalizing n d with
  | nil => cases h
  | cons row rows ih =>
    rcases List.mem_append.mp h with h | h
    · exact ⟨row, List.mem_cons_self, sequence_of_checkEntry (Option.mem_toList.mp h)⟩
    · obtain ⟨row', hrow', hseq⟩ := ih h
      exact ⟨row', List.mem_cons_of_mem _ hrow', hseq⟩

/-- The pass over a linked part reports that part by itself and goes on behind its head. -/
theorem ledgerFailures_append {n : ℕ} {d : HexDigest} {rows rows' : List LedgerRow}
    (hlinked : LinkedFrom (ledgerReader C t) n d rows) :
    ledgerFailures C t source n d (rows ++ rows') =
      ledgerFailures C t source n d rows ++
        ledgerFailures C t source (n + rows.length) (headFrom (ledgerReader C t) d rows) rows' := by
  induction rows generalizing n d with
  | nil => rfl
  | cons row rows ih =>
    obtain ⟨⟨hseq, _⟩, hrest⟩ := hlinked
    have hseq : row.sequence = n := hseq
    have hlen : n + 1 + rows.length = n + (row :: rows).length := by simp; omega
    rw [List.cons_append, ledgerFailures, ledgerFailures, hseq]
    show _ ++ ledgerFailures C t source (n + 1) _ _ = _
    have := ih hrest
    rw [hlen] at this
    rw [show row.entrySha256 = (ledgerReader C t).entry row from rfl, this, List.append_assoc]
    rfl

/-- The source of an artifact that is stored under its identifier is its own row. -/
theorem sourceEnvelope_of_mem (rows : ArtifactKind → List ArtifactRow) {kind : ArtifactKind}
    (hk : Table.Keyed ArtifactRow.artifactId (rows kind)) {a : ArtifactRow} (ha : a ∈ rows kind) :
    sourceEnvelope rows kind a.artifactId = some (a.payloadSha256, a.envelope) := by
  have hlook := Table.lookup_of_mem hk.reverse (List.mem_reverse.mpr ha)
  show (Table.lookup ArtifactRow.artifactId a.artifactId (rows kind).reverse).map _ = _
  rw [hlook]
  rfl

theorem sourceEnvelope_some {rows : ArtifactKind → List ArtifactRow} {kind : ArtifactKind}
    {id : UUID} {digest : String} {envelope : Envelope}
    (h : sourceEnvelope rows kind id = some (digest, envelope)) :
    ∃ a ∈ rows kind, a.artifactId = id ∧ a.payloadSha256 = digest ∧ a.envelope = envelope := by
  obtain ⟨a, hfind, ha⟩ := Option.map_eq_some_iff.mp h
  obtain ⟨hmem, hid⟩ : a ∈ (rows kind).reverse ∧ a.artifactId = id := Table.lookup_some hfind
  obtain ⟨hdigest, henvelope⟩ := Prod.mk.inj ha
  exact ⟨a, List.mem_reverse.mp hmem, hid, hdigest, henvelope⟩

/-! ## Checkpoints -/

/-- `reason` of a `LedgerCheckpointFailure`. -/
inductive CheckpointFailureReason where
  | payloadDigest
  | signature
  | envelope
  | missingSequence
  | headMismatch
  deriving DecidableEq, Repr

/-- `LedgerCheckpointFailure`. -/
structure LedgerCheckpointFailure where
  checkpointId : UUID
  ledgerSequence : ℕ
  reason : CheckpointFailureReason
  expectedSha256 : Option HexDigest := none
  actualSha256 : Option HexDigest := none
  deriving DecidableEq

/-- `heads`: the hash of the ledger row with a number, the genesis value for number 0. -/
def headAt (rows : List LedgerRow) (sequence : ℕ) : Option HexDigest :=
  if sequence = 0 then some ledgerGenesisSha256
  else (rows.reverse.find? fun r => r.sequence = sequence).map fun r => r.entrySha256

/-- In a chain the head at a number is the head of the entries up to it. -/
theorem headAt_eq_some {rows : List LedgerRow} {sequence : ℕ} {head : HexDigest}
    (h : LinkedFrom (ledgerReader C t) 1 ledgerGenesisSha256 rows) :
    headAt rows sequence = some head ↔ sequence ≤ rows.length ∧
      headFrom (ledgerReader C t) ledgerGenesisSha256 (rows.take sequence) = head := by
  cases sequence with
  | zero => simp [headAt]
  | succ k =>
    have hkeyed : Table.Keyed (fun r : LedgerRow => r.sequence) rows := h.nodup
    have hfind : headAt rows (k + 1) =
        (Table.lookup (fun r : LedgerRow => r.sequence) (k + 1) rows.reverse).map
          fun r => r.entrySha256 := by
      simp [headAt, Table.lookup]
    rw [hfind]
    by_cases hk : k < rows.length
    · have hseq : rows[k].sequence = k + 1 := by
        have : (ledgerReader C t).sequence rows[k] = 1 + k := h.sequence_getElem hk
        rw [Nat.add_comm] at this
        exact this
      have hlook := Table.lookup_of_mem hkeyed.reverse
        (List.mem_reverse.mpr (List.getElem_mem hk))
      simp only [hseq] at hlook
      rw [hlook, headFrom_take_succ hk]
      simp [ledgerReader, Nat.succ_le_of_lt hk]
    · -- no row carries a number beyond the length
      have hnone : Table.lookup (fun r : LedgerRow => r.sequence) (k + 1) rows.reverse = none := by
        refine Table.lookup_none.mpr fun r hr hseq => ?_
        obtain ⟨i, hi, -, hri⟩ := h.exists_getElem (List.mem_reverse.mp hr)
        have hri : r.sequence = 1 + i := hri
        omega
      rw [hnone]
      simp only [Option.map_none, reduceCtorEq, false_iff]
      omega

/-- The comparison of a payload with the columns of its row. -/
def payloadMatches (t : TenantId) (payload : LedgerCheckpointPayload) (row : CheckpointRow) :
    Bool :=
  payload.checkpointId = row.checkpointId && payload.tenantId = t &&
    payload.ledgerSequence = row.ledgerSequence && payload.ledgerEntries = row.ledgerEntries &&
    payload.ledgerEntries = row.ledgerSequence &&
    payload.ledgerHeadSha256 = row.ledgerHeadSha256 &&
    payload.createdAt.instant = row.createdAt && payload.retentionUntil.instant = row.retentionUntil

variable (P : Platform)

/-- The checks of one checkpoint row. -/
def checkCheckpoint (keyring : Option (ArtifactKeyring P.toCrypto)) (t : TenantId)
    (heads : ℕ → Option HexDigest) (row : CheckpointRow) :
    Except EvidenceError (Option LedgerCheckpointFailure) :=
  let failure := fun (reason : CheckpointFailureReason) (expected actual : Option HexDigest) =>
    Except.ok (some ⟨row.checkpointId, row.ledgerSequence, reason, expected, actual⟩)
  match P.validatePayload row.payload with
  | none => failure .envelope none none
  | some payload => do
    let digest ← checkpointPayloadDigest P payload
    if digest ≠ row.payloadSha256 then
      failure .payloadDigest (some row.payloadSha256) (some digest)
    else
      match SignedLedgerCheckpoint.ofColumns payload row.payloadSha256 row.signingKeyId
          row.signatureValue with
      | .error _ => failure .envelope none none
      | .ok checkpoint => do
        let verified ← storeVerifies P keyring checkpoint
        if !verified then failure .signature none none
        else if !payloadMatches t payload row then failure .envelope none none
        else
          match heads row.ledgerSequence with
          | none => failure .missingSequence (some payload.ledgerHeadSha256) none
          | some head =>
            if head ≠ payload.ledgerHeadSha256 then
              failure .headMismatch (some payload.ledgerHeadSha256) (some head)
            else .ok none

/-- What a checkpoint row has to satisfy against the ledger heads. -/
structure Anchored (keyring : Option (ArtifactKeyring P.toCrypto)) (t : TenantId)
    (heads : ℕ → Option HexDigest) (row : CheckpointRow) (checkpoint : SignedLedgerCheckpoint) :
    Prop where
  validates : P.validatePayload row.payload = some checkpoint.payload
  columns : SignedLedgerCheckpoint.ofColumns checkpoint.payload row.payloadSha256 row.signingKeyId
    row.signatureValue = .ok checkpoint
  verifies : ∃ K, keyring = some K ∧ verifyCheckpoint P checkpoint K = .ok true
  matches_row : payloadMatches t checkpoint.payload row = true
  head : heads row.ledgerSequence = some checkpoint.payload.ledgerHeadSha256

variable {P}

/-- **The checkpoint pass does not report a row** exactly if the row is an intact signed checkpoint
    whose head is the ledger's at its sequence. -/
theorem checkCheckpoint_none {keyring : Option (ArtifactKeyring P.toCrypto)}
    {heads : ℕ → Option HexDigest} {row : CheckpointRow} :
    checkCheckpoint P keyring t heads row = .ok none ↔
      ∃ checkpoint, Anchored P keyring t heads row checkpoint := by
  constructor
  · intro h
    unfold checkCheckpoint at h
    cases hpayload : P.validatePayload row.payload with
    | none => rw [hpayload] at h; cases h
    | some payload =>
      rw [hpayload] at h
      obtain ⟨digest, hdigest, h⟩ := Raising.bind_ok h
      split at h
      · cases h
      · cases hcolumns : SignedLedgerCheckpoint.ofColumns payload row.payloadSha256
          row.signingKeyId row.signatureValue with
        | error e => rw [hcolumns] at h; cases h
        | ok checkpoint =>
          rw [hcolumns] at h
          obtain ⟨verified, hverified, h⟩ := Raising.bind_ok h
          split_ifs at h with hv hm
          · cases h
          · cases h
          -- the last check compares with the head at the sequence of the row
          · have hhead : heads row.ledgerSequence = some payload.ledgerHeadSha256 := by
              cases hfind : heads row.ledgerSequence with
              | none => rw [hfind] at h; cases h
              | some head =>
                rw [hfind] at h
                by_cases hne : head = payload.ledgerHeadSha256
                · rw [hne]
                · simp [hne] at h
            obtain ⟨rfl, _⟩ := SignedLedgerCheckpoint.ofColumns_ok hcolumns
            obtain rfl : verified = true := by simpa using hv
            exact ⟨checkpoint, hpayload, hcolumns, storeVerifies_true.mp hverified,
              by simpa using hm, hhead⟩
  · rintro ⟨checkpoint, hpayload, hcolumns, hverifies, hmatch, hhead⟩
    obtain ⟨_, hsha, _⟩ := SignedLedgerCheckpoint.ofColumns_ok hcolumns
    have hdigest : checkpointPayloadDigest P checkpoint.payload = .ok row.payloadSha256 := by
      obtain ⟨K, _, hK⟩ := hverifies
      exact hsha ▸ (verifyCheckpoint_true.mp hK).1
    have hverified := storeVerifies_true.mpr hverifies
    unfold checkCheckpoint
    simp only [hpayload, hdigest, bind, Except.bind, ne_eq, not_true_eq_false, if_false, hcolumns,
      hverified, hmatch, hhead, Bool.not_true, Bool.false_eq_true]

/-! ## The report -/

/-- `ArtifactIntegrityReport`. -/
structure ArtifactIntegrityReport where
  checked : ℕ
  valid : ℕ
  signed : ℕ
  unsigned : ℕ
  signatureAlgorithms : List (String × ℕ)
  ledgerChecked : ℕ
  ledgerValid : ℕ
  ledgerHeadSha256 : HexDigest
  ledgerFailures : List ArtifactLedgerFailure
  checkpointChecked : ℕ
  checkpointValid : ℕ
  checkpointFailures : List LedgerCheckpointFailure
  failures : List ArtifactIntegrityItem
  deriving DecidableEq

/-- Per-algorithm counts, by name. -/
def algorithmCounts (rows : List ArtifactRow) : List (String × ℕ) :=
  let algorithms := rows.filterMap fun r => r.envelope.algorithm
  (algorithms.dedup.map fun a => (a, algorithms.count a)).insertionSort fun p q => p.1 ≤ q.1

/-- The rows one artifact pass reads, with their class. -/
def auditRows (t : TenantId) (snap : AuditRead → Database) : List (ArtifactKind × ArtifactRow) :=
  [ArtifactKind.run, .comparison, .guardrailEvidence].flatMap fun kind =>
    ((snap (.digests kind)).rowsOf t kind).map fun row => (kind, row)

variable (P) in
/-- `verify_artifacts`. -/
def verifyArtifacts (keyring : Option (ArtifactKeyring P.toCrypto)) (t : TenantId)
    (snap : AuditRead → Database) : Except EvidenceError ArtifactIntegrityReport := do
  let rows := auditRows t snap
  let items ← rows.mapM fun (kind, row) => checkArtifact keyring kind row
  let failures := items.filterMap id
  let ledgerRows := (snap .ledger).ledgerOf t
  let source := sourceEnvelope fun kind => (snap (.sources kind)).rowsOf t kind
  let ledgerFailures := ledgerFailures P.toCrypto t source 1 ledgerGenesisSha256 ledgerRows
  let checkpointRows := ((snap .checkpoints).checkpointsOf t).insertionSort fun c c' =>
    c.ledgerSequence < c'.ledgerSequence ∨
      (c.ledgerSequence = c'.ledgerSequence ∧ c.createdAt ≤ c'.createdAt)
  let heads := headAt ((snap .heads).ledgerOf t)
  let checkpointItems ← checkpointRows.mapM fun row => checkCheckpoint P keyring t heads row
  let checkpointFailures := checkpointItems.filterMap id
  let signed := rows.countP fun (_, row) => row.envelope ≠ .unsigned
  .ok {
    checked := rows.length
    valid := rows.length - failures.length
    signed := signed
    unsigned := rows.length - signed
    signatureAlgorithms := algorithmCounts (rows.map Prod.snd)
    ledgerChecked := ledgerRows.length
    ledgerValid := ledgerRows.length - ledgerFailures.length
    ledgerHeadSha256 := headFrom (ledgerReader P.toCrypto t) ledgerGenesisSha256 ledgerRows
    ledgerFailures := ledgerFailures
    checkpointChecked := checkpointRows.length
    checkpointValid := checkpointRows.length - checkpointFailures.length
    checkpointFailures := checkpointFailures
    failures := failures }

/-- An audit is clean when no pass reports anything. -/
def ArtifactIntegrityReport.Clean (report : ArtifactIntegrityReport) : Prop :=
  report.failures = [] ∧ report.ledgerFailures = [] ∧ report.checkpointFailures = []

section Report

variable {keyring : Option (ArtifactKeyring P.toCrypto)} {snap : AuditRead → Database}

/-- The ledger pass of an audit. -/
abbrev auditLedger (C : Crypto) (t : TenantId) (snap : AuditRead → Database) :
    List ArtifactLedgerFailure :=
  ledgerFailures C t (sourceEnvelope fun kind => (snap (.sources kind)).rowsOf t kind) 1
    ledgerGenesisSha256 ((snap .ledger).ledgerOf t)

theorem mem_auditRows {kind : ArtifactKind} {row : ArtifactRow} :
    (kind, row) ∈ auditRows t snap ↔ row ∈ (snap (.digests kind)).rowsOf t kind := by
  cases kind <;> simp [auditRows]

/-- **A report taken apart**: what each of its three failure lists is empty for. -/
theorem verifyArtifacts_ok {report : ArtifactIntegrityReport}
    (h : verifyArtifacts P keyring t snap = .ok report) :
    (report.failures = [] ↔ ∀ kind, ∀ row ∈ (snap (.digests kind)).rowsOf t kind,
      checkArtifact keyring kind row = .ok none) ∧
    report.ledgerFailures = auditLedger P.toCrypto t snap ∧
    (report.checkpointFailures = [] ↔ ∀ row ∈ (snap .checkpoints).checkpointsOf t,
      checkCheckpoint P keyring t (headAt ((snap .heads).ledgerOf t)) row = .ok none) := by
  unfold verifyArtifacts at h
  obtain ⟨items, hitems, h⟩ := Raising.bind_ok h
  obtain ⟨checkpointItems, hcheckpoints, h⟩ := Raising.bind_ok h
  obtain rfl := Except.ok.inj h
  refine ⟨?_, rfl, ?_⟩
  · rw [Raising.findings_eq_nil hitems]
    constructor
    · exact fun hall kind row hrow => hall (kind, row) (mem_auditRows.mpr hrow)
    · rintro hall ⟨kind, row⟩ hrow
      exact hall kind row (mem_auditRows.mp hrow)
  · rw [Raising.findings_eq_nil hcheckpoints]
    constructor
    · exact fun hall row hrow => hall row ((List.mem_insertionSort _).mpr hrow)
    · exact fun hall row hrow => hall row ((List.mem_insertionSort _).mp hrow)

/-- An audit whose checks do not raise gives a report. -/
theorem verifyArtifacts_returns (snap : AuditRead → Database)
    (hartifacts : ∀ kind, ∀ row ∈ (snap (.digests kind)).rowsOf t kind,
      ∃ item, checkArtifact keyring kind row = .ok item)
    (hcheckpoints : ∀ row ∈ (snap .checkpoints).checkpointsOf t,
      ∃ item, checkCheckpoint P keyring t (headAt ((snap .heads).ledgerOf t)) row = .ok item) :
    ∃ report, verifyArtifacts P keyring t snap = .ok report := by
  obtain ⟨items, hitems⟩ := Raising.mapM_of_forall (f := fun p : ArtifactKind × ArtifactRow =>
    checkArtifact keyring p.1 p.2) fun p hp => hartifacts p.1 p.2 (mem_auditRows.mp hp)
  unfold verifyArtifacts
  simp only [hitems]
  obtain ⟨checkpointItems, hitems'⟩ := Raising.mapM_of_forall fun row hrow =>
    hcheckpoints row ((List.mem_insertionSort fun c c' : CheckpointRow =>
      c.ledgerSequence < c'.ledgerSequence ∨
        (c.ledgerSequence = c'.ledgerSequence ∧ c.createdAt ≤ c'.createdAt)).mp hrow)
  exact ⟨_, by rw [show _ = Except.ok _ from hitems']; rfl⟩

end Report

end AEControl.Evidence
