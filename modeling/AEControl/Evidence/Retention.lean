/-
  The retention a ledger checkpoint is asked for, and the one it gets.

  `create_ledger_checkpoint` gives back a checkpoint of the current head that is at most five
  minutes old, where there is one.  Everything the caller may rely on holds of it but one thing:
  the lookup does not ask how long it is kept, so a request for a longer retention than the earlier
  caller's gets the shorter one.

  Structure of the proof:
  1. `RetentionHonoured` is what a caller may rely on: the head, the signature, the row, and the
     days asked for, counted from the call;
  2. **the crux**, `recentCheckpoint_sound`: on every history a recent checkpoint still anchors the
     head, and its payload says what its columns say;
  3. a checkpoint that is made by the call is as asked (`insertCheckpoint_honoured`);
  4. with these `checkpointRetention_iff` is a case analysis over `createLedgerCheckpoint_cases`:
     the call is honoured exactly if a recent checkpoint is kept for as long (`RecentKeptFor`).
-/
import AEControl.Evidence.Replicas

namespace AEControl.Evidence

open HashChain Table

variable {P : Platform}

/-! ## What is asked of a call -/

/-- One day, in microseconds. -/
def day : Timestamp := 86400000000

/-- What a successful call that asked for `days` of retention leaves and gives back. -/
structure RetentionHonoured (P : Platform) (keyring : Option (ArtifactKeyring P.toCrypto))
    (t : TenantId) (days : ℤ) (db db' : Database) (checkpoint : SignedLedgerCheckpoint) : Prop where
  verifies : storeVerifies P keyring checkpoint = .ok true
  /-- It anchors the tenant's current head, with all its entries. -/
  tenant : checkpoint.payload.tenantId = t
  anchors : (checkpoint.payload.ledgerSequence, checkpoint.payload.ledgerHeadSha256) =
    ledgerHead db t
  entries : checkpoint.payload.ledgerEntries = checkpoint.payload.ledgerSequence
  retention : checkpoint.payload.createdAt.instant + days * day ≤
    checkpoint.payload.retentionUntil.instant
  /-- At most one checkpoint row is added, and nothing else changes. -/
  adds : db' = db ∨ ∃ row, db' = { db with checkpoints := db.checkpoints ++ [row] }

/-- A recent checkpoint of the head, if there is one, is kept for as many days. -/
def RecentKeptFor (db : Database) (t : TenantId) (lookupNow : Timestamp) (days : ℤ) : Prop :=
  ∀ row, recentCheckpoint db t (ledgerHead db t).1 (ledgerHead db t).2 lookupNow = some row →
    row.createdAt + days * day ≤ row.retentionUntil

/-! ## A recent checkpoint -/

/-- The row of the lookup is one of the tenant's, and names the head. -/
theorem recentCheckpoint_some {db : Database} {t : TenantId} {sequence : ℕ} {head : HexDigest}
    {now : Timestamp} {row : CheckpointRow}
    (h : recentCheckpoint db t sequence head now = some row) :
    row ∈ db.checkpoints ∧ row.tenantId = t ∧ row.ledgerSequence = sequence ∧
      row.ledgerHeadSha256 = head := by
  have hmem := (List.mem_insertionSort _).mp (List.mem_of_mem_head? (Option.mem_def.mpr h))
  obtain ⟨hrow, hmatch⟩ := List.mem_filter.mp hmem
  obtain ⟨hsequence, hhead, -⟩ := of_decide_eq_true hmatch
  obtain ⟨hdb, htenant⟩ := List.mem_filter.mp hrow
  exact ⟨hdb, of_decide_eq_true htenant, hsequence, hhead⟩

/-- A row is read back exactly if its payload validates, its columns fit and its signature
    verifies. -/
theorem checkpointFromRow_ok {keyring : Option (ArtifactKeyring P.toCrypto)} {row : CheckpointRow}
    {checkpoint : SignedLedgerCheckpoint} :
    checkpointFromRow P keyring row = .ok checkpoint ↔
      P.validatePayload row.payload = some checkpoint.payload ∧
        SignedLedgerCheckpoint.ofColumns checkpoint.payload row.payloadSha256 row.signingKeyId
          row.signatureValue = .ok checkpoint ∧
        storeVerifies P keyring checkpoint = .ok true := by
  unfold checkpointFromRow
  cases hvalid : P.validatePayload row.payload with
  | none =>
    constructor
    · intro h
      cases h
    · rintro ⟨h, -⟩
      cases h
  | some payload =>
    constructor
    · intro h
      obtain ⟨payload', hpayload, h⟩ := Raising.bind_ok h
      obtain rfl := Except.ok.inj hpayload
      obtain ⟨checkpoint', hcolumns, h⟩ := Raising.bind_ok h
      obtain ⟨verified, hverified, h⟩ := Raising.bind_ok h
      obtain ⟨hsame, -⟩ := SignedLedgerCheckpoint.ofColumns_ok hcolumns
      split at h
      · rename_i htrue
        obtain rfl := Except.ok.inj h
        rw [htrue] at hverified
        rw [hsame]
        exact ⟨rfl, hcolumns, hverified⟩
      · cases h
    · rintro ⟨hpayload, hcolumns, hverified⟩
      obtain rfl := Option.some.inj hpayload
      simp only [bind, Except.bind, hcolumns, hverified, if_true]

/-- **A recent checkpoint** that is read back anchors the head it was looked up by, and its
    payload has the dates of its columns. -/
theorem recentCheckpoint_sound (hpayload : PayloadRoundTrip P)
    {signers : ArtifactKeyring P.toCrypto → Prop} {db : Database}
    (hinv : CheckpointInvariant P signers db) {t : TenantId} {sequence : ℕ} {head : HexDigest}
    {lookupNow : Timestamp} {row : CheckpointRow}
    (hrow : recentCheckpoint db t sequence head lookupNow = some row)
    {keyring : Option (ArtifactKeyring P.toCrypto)} {checkpoint : SignedLedgerCheckpoint}
    (h : checkpointFromRow P keyring row = .ok checkpoint) :
    storeVerifies P keyring checkpoint = .ok true ∧ checkpoint.payload.tenantId = t ∧
      checkpoint.payload.ledgerSequence = sequence ∧ checkpoint.payload.ledgerHeadSha256 = head ∧
      checkpoint.payload.ledgerEntries = checkpoint.payload.ledgerSequence ∧
      checkpoint.payload.createdAt.instant = row.createdAt ∧
      checkpoint.payload.retentionUntil.instant = row.retentionUntil := by
  obtain ⟨hmem, htenant, hsequence, hhead⟩ := recentCheckpoint_some hrow
  obtain ⟨hvalid, -, hverifies⟩ := checkpointFromRow_ok.mp h
  obtain ⟨written, hsound⟩ := hinv.sound row hmem
  obtain ⟨j, hj, rfl⟩ := hsound.stored
  -- what was written comes back from the column
  have hback := hpayload written.payload hsound.utc.1 hsound.utc.2 j hj
  have hsame : checkpoint.payload = written.payload :=
    Option.some.inj (hvalid.symm.trans hback)
  rw [hsame]
  exact ⟨hverifies, htenant, hsequence, hhead, hsound.entries, rfl, rfl⟩

/-- A recent checkpoint of the head that is read back is given back. -/
theorem createLedgerCheckpoint_of_recent {K : ArtifactKeyring P.toCrypto} {t : TenantId} {days : ℤ}
    {lookupNow now : Timestamp} {id : UUID} {db : Database} {keyId : String}
    {checkpoint : SignedLedgerCheckpoint} {row : CheckpointRow}
    (hdays : 1 ≤ days ∧ days ≤ 3650) (hkey : K.activeKeyId = some keyId)
    (halgorithm : K.activeAlgorithm = some .ed25519)
    (hrecent : recentCheckpoint db t (ledgerHead db t).1 (ledgerHead db t).2 lookupNow = some row)
    (hread : checkpointFromRow P (some K) row = .ok checkpoint) :
    createLedgerCheckpoint P (some K) t days lookupNow now id db = .ok (checkpoint, db) := by
  unfold createLedgerCheckpoint
  simp only [dif_pos hdays, halgorithm, hkey, hrecent, hread, bind, Except.bind]

/-! ## A new checkpoint -/

/-- The head of a linked ledger is numbered by its length. -/
theorem ledgerHead_length {C : Crypto} {db : Database} (hinv : LedgerInvariant C db)
    (t : TenantId) : (db.ledgerOf t).length = (ledgerHead db t).1 := by
  rw [ledgerOf_eq (hinv.linked t), ledgerHead_eq (hinv.linked t)]

/-- A new checkpoint honours the request. -/
theorem insertCheckpoint_honoured (hcrypto : ArtifactKeyring.SignsVerify P.toCrypto)
    {db db' : Database} (hinv : LedgerInvariant P.toCrypto db) {K : ArtifactKeyring P.toCrypto}
    {keyId : String} (hkey : K.activeKeyId = some keyId)
    (halgorithm : K.activeAlgorithm = some .ed25519) {t : TenantId} {days : ℤ} {now : Timestamp}
    {id : UUID} {hretention} {checkpoint : SignedLedgerCheckpoint}
    (h : insertCheckpoint P K keyId ⟨id, t, (ledgerHead db t).1, (db.ledgerOf t).length,
      (ledgerHead db t).2, .utc now, .utc (now + days * 86400000000), hretention⟩ db =
        .ok (checkpoint, db')) :
    RetentionHonoured P (some K) t days db db' checkpoint := by
  obtain ⟨hpayload, hkeyId, hdigest, hsign, stored, -, hdb⟩ := insertCheckpoint_ok h
  rw [← hkeyId] at hkey
  rw [← hpayload] at hdigest hsign
  have hverify := ArtifactKeyring.verify_of_sign hcrypto (ArtifactKeyring.Covers.refl K) hkey
    halgorithm hsign
  refine ⟨verifyCheckpoint_true.mpr ⟨hdigest, hverify⟩, ?_, ?_, ?_, ?_, Or.inr ⟨_, hdb⟩⟩
  all_goals rw [hpayload]
  · exact ledgerHead_length hinv t
  · exact le_refl _

/-! ## The exact condition -/

/-- **Retention.**  After every history of committed transactions, a successful call gives its
    caller everything it promises exactly if a recent checkpoint of the head, where there is one,
    is kept for as long as the caller asks. -/
theorem checkpointRetention_iff (hcrypto : ArtifactKeyring.SignsVerify P.toCrypto)
    (hpayload : PayloadRoundTrip P) (hjson : KeepsCanonical P) (history : List (Transaction P))
    (keyring : Option (ArtifactKeyring P.toCrypto)) (t : TenantId) (days : ℤ)
    (lookupNow now : Timestamp) (id : UUID) (checkpoint : SignedLedgerCheckpoint)
    (db' : Database)
    (h : createLedgerCheckpoint P keyring t days lookupNow now id
      (Runs.run commit .empty history) = .ok (checkpoint, db')) :
    RetentionHonoured P keyring t days (Runs.run commit .empty history) db' checkpoint ↔
      RecentKeptFor (Runs.run commit .empty history) t lookupNow days := by
  have hinv : CheckpointInvariant P (fun _ => True) (Runs.run commit .empty history) :=
    checkpointInvariant_run hjson fun _ _ _ _ => trivial
  rcases createLedgerCheckpoint_cases h with
    ⟨hdb, row, hrow, hread⟩ | ⟨hnone, K, keyId, rfl, hkey, halgorithm, hretention, hinsert⟩
  · -- the checkpoint of an earlier caller
    obtain ⟨hverifies, htenant, hsequence, hhead, hentries, hcreated, huntil⟩ :=
      recentCheckpoint_sound hpayload hinv hrow hread
    constructor
    · intro hhonoured row' hrow'
      obtain rfl := Option.some.inj (hrow.symm.trans hrow')
      have := hhonoured.retention
      rw [hcreated, huntil] at this
      exact this
    · intro hkept
      refine ⟨hverifies, htenant, Prod.ext hsequence hhead, hentries, ?_, Or.inl hdb⟩
      rw [hcreated, huntil]
      exact hkept row hrow
  · -- a checkpoint of its own
    refine iff_of_true (insertCheckpoint_honoured hcrypto hinv.ledger hkey halgorithm hinsert) ?_
    intro row hrow
    rw [hnone] at hrow
    cases hrow

/-! ## The worked store -/

namespace Sample

/-- The run is saved; the first checkpoint is still to be made. -/
theorem run_saved : Runs.run commit .empty [.saveRun (some keyring) tenant 1
    (.obj (runItems "baseline"))] = savedDb := by
  rw [Runs.run_cons, Runs.run_nil]
  exact commit_of_ok saveRun_empty

end Sample

/-- The worked checkpoint, asked for a year of retention behind the run it is taken of. -/
theorem checkpointRetention_sample :
    RetentionHonoured Sample.platform (some Sample.keyring) Sample.tenant 365
        (Runs.run commit .empty [.saveRun (some Sample.keyring) Sample.tenant 1
          (.obj (Sample.runItems "baseline"))])
        Sample.anchoredDb Sample.checkpoint ↔
      RecentKeptFor (Runs.run commit .empty [.saveRun (some Sample.keyring) Sample.tenant 1
        (.obj (Sample.runItems "baseline"))]) Sample.tenant 0 365 :=
  checkpointRetention_iff Sample.signsVerify Sample.payloadRoundTrip Sample.keepsCanonical
    [.saveRun (some Sample.keyring) Sample.tenant 1 (.obj (Sample.runItems "baseline"))]
    (some Sample.keyring) Sample.tenant 365 0 1767225720000000 2 Sample.checkpoint
    Sample.anchoredDb (by
      rw [Sample.run_saved]
      exact Sample.createLedgerCheckpoint_savedDb 0)

namespace Sample

/-- The stored checkpoint is read back. -/
theorem checkpointFromRow_stored : checkpointFromRow platform (some keyring)
    (CheckpointRow.ofCheckpoint checkpoint (.obj storedPayloadItems)) = .ok checkpoint := by
  have hverify : keyring.verify "ed25519" "portfolio-2026-07" "ledger_checkpoint" 2
      checkpointDigest.val checkpointSignature = .ok true :=
    ArtifactKeyring.verify_of_sign signsVerify (ArtifactKeyring.Covers.refl _) (K := keyring)
      (a := .ed25519) rfl rfl sign_checkpoint
  have hverifies : storeVerifies platform (some keyring) checkpoint = .ok true :=
    verifyCheckpoint_true.mpr ⟨digest_payload, hverify⟩
  exact checkpointFromRow_ok.mpr ⟨validatePayload_stored, checkpoint.ofColumns_self, hverifies⟩

theorem ledgerHead_anchoredDb : ledgerHead anchoredDb tenant = (1, entryDigest) :=
  ledgerHead_savedDb

theorem recentCheckpoint_anchoredDb :
    recentCheckpoint anchoredDb tenant 1 entryDigest 1767225780000000 =
      some (CheckpointRow.ofCheckpoint checkpoint (.obj storedPayloadItems)) := by
  unfold recentCheckpoint Database.checkpointsOf
  rw [show anchoredDb.checkpoints =
    [CheckpointRow.ofCheckpoint checkpoint (.obj storedPayloadItems)] from rfl]
  rw [List.filter_cons_of_pos (by decide), List.filter_nil,
    List.filter_cons_of_pos (by decide), List.filter_nil]
  rfl

/-- A minute after a checkpoint for one year, ten years are asked for. -/
theorem createLedgerCheckpoint_anchoredDb : createLedgerCheckpoint platform (some keyring) tenant
    3650 1767225780000000 1767225780000000 3 anchoredDb = .ok (checkpoint, anchoredDb) :=
  createLedgerCheckpoint_of_recent (by decide) rfl rfl (by
    rw [ledgerHead_anchoredDb]
    exact recentCheckpoint_anchoredDb) checkpointFromRow_stored

end Sample

/-- **The caller who asks for ten years gets the checkpoint that is kept for one**: a recent
    checkpoint of the same head is returned as it is. -/
theorem checkpointRetention_fails :
    ∃ checkpoint db', createLedgerCheckpoint Sample.platform (some Sample.keyring) Sample.tenant
        3650 1767225780000000 1767225780000000 3 (Runs.run commit .empty Sample.txns) =
          .ok (checkpoint, db') ∧
      ¬ RetentionHonoured Sample.platform (some Sample.keyring) Sample.tenant 3650
        (Runs.run commit .empty Sample.txns) db' checkpoint := by
  refine ⟨Sample.checkpoint, Sample.anchoredDb, ?_, ?_⟩
  · rw [Sample.run_txns]
    exact Sample.createLedgerCheckpoint_anchoredDb
  · intro h
    exact absurd h.retention (by decide)

end AEControl.Evidence
