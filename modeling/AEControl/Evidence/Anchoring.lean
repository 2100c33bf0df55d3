/-
  What a clean audit certifies, for any content of the tables.

  The ledger pass compares entries with artifacts, never artifacts with entries: every entry of a
  clean audit has its artifact (`clean_audit_accounts_for_entries`).  A checkpoint pins the ledger
  below it: as long as its row is there, no rewriting of the ledger, hashes included, passes the
  audit (`rollback_detected`).  The head that the ledger pass returns binds the whole ledger, its
  length included (`ledgerHead_binds`).

  Structure of the proofs:
  1. a clean audit is taken apart by `verifyArtifacts_ok`; an entry that the ledger pass says
     nothing about has the digest and the envelope of its artifact (`checkEntry_none`);
  2. the checkpoint pass says that the head of the first `n` entries is the one the checkpoint was
     signed over (`Anchored.head_eq`).  **The crux**, `fields_eq_of_head_eq`: two chains of one
     length with one head have the same fields, by induction back from the head, as long as no two
     of the hashed entries collide (`Lib.HashChain`);
  3. `linkedFrom_iff_failures`: whatever the artifacts are, a ledger is a chain exactly if none of
     the failures is about the chain.  So the head binds a ledger even where its artifacts are gone.
-/
import AEControl.Evidence.Replicas

namespace AEControl.Evidence

open HashChain Table

variable {P : Platform}

/-! ## Entries and artifacts -/

/-- The key constraints of the schema on artifacts and ledger entries. -/
structure SchemaKeys (db : Database) : Prop where
  /-- `PRIMARY KEY` of the artifact tables. -/
  artifacts : ∀ kind, Keyed ArtifactRow.artifactId (db.artifacts kind)
  /-- `UNIQUE (tenant_id, artifact_type, artifact_id)` of the ledger. -/
  entries : Keyed LedgerRow.key db.ledger

/-- Artifacts and ledger entries of a tenant are in one-to-one correspondence, with equal digests
    and envelopes. -/
def OneToOne (db : Database) (t : TenantId) : Prop :=
  (∀ kind, ∀ a ∈ db.rowsOf t kind, ∃ e ∈ db.ledgerOf t, Records e kind a ∧
    ∀ e' ∈ db.ledgerOf t, e'.artifactType = kind → e'.artifactId = a.artifactId → e' = e) ∧
  ∀ e ∈ db.ledgerOf t, ∃ a ∈ db.rowsOf t e.artifactType, Records e e.artifactType a

/-- The artifact that the source of an entry stands for. -/
theorem records_of_source {db : Database} {t : TenantId} {e : LedgerRow} (he : e ∈ db.ledgerOf t)
    (h : sourceEnvelope (fun kind => db.rowsOf t kind) e.artifactType e.artifactId =
      some (e.payloadSha256.val, e.envelope)) :
    ∃ a ∈ db.rowsOf t e.artifactType, Records e e.artifactType a := by
  obtain ⟨a, ha, hid, hdigest, henvelope⟩ := sourceEnvelope_some h
  have htenant : e.tenantId = a.tenantId :=
    (mem_ledgerOf.mp he).2.trans (mem_rowsOf.mp ha).2.symm
  exact ⟨a, ha, htenant, rfl, hid.symm, hdigest.symm, henvelope.symm⟩

/-- **A clean audit accounts for every ledger entry.**  Whatever the tables hold, after a clean
    audit every entry has its artifact, with the same digest and envelope; and an artifact that has
    an entry has exactly one, which agrees with it. -/
theorem clean_audit_accounts_for_entries {keyring : Option (ArtifactKeyring P.toCrypto)}
    {t : TenantId} {db : Database} {report : ArtifactIntegrityReport} (hkeys : SchemaKeys db)
    (haudit : verifyArtifacts P keyring t (fun _ => db) = .ok report) (hclean : report.Clean) :
    (∀ e ∈ db.ledgerOf t, ∃ a ∈ db.rowsOf t e.artifactType, Records e e.artifactType a) ∧
    ∀ kind, ∀ a ∈ db.rowsOf t kind, ∀ e ∈ db.ledgerOf t,
      e.artifactType = kind → e.artifactId = a.artifactId → Records e kind a ∧
        ∀ e' ∈ db.ledgerOf t, e'.artifactType = kind → e'.artifactId = a.artifactId → e' = e := by
  obtain ⟨-, hledger, -⟩ := verifyArtifacts_ok haudit
  have hsources := (ledgerFailures_eq_nil.mp (hledger.symm.trans hclean.2.1)).2
  have hentry : ∀ e ∈ db.ledgerOf t, ∃ a ∈ db.rowsOf t e.artifactType,
      Records e e.artifactType a := fun e he => records_of_source he (hsources e he)
  refine ⟨hentry, ?_⟩
  rintro kind a ha e he rfl hid
  obtain ⟨a', ha', hrec⟩ := hentry e he
  obtain rfl : a = a' := (hkeys.artifacts e.artifactType).eq_of_key (mem_rowsOf.mp ha).1
    (mem_rowsOf.mp ha').1 (hid.symm.trans hrec.id)
  refine ⟨hrec, fun e' he' hkind hid' => ?_⟩
  obtain ⟨he, htenant⟩ := mem_ledgerOf.mp he
  obtain ⟨he', htenant'⟩ := mem_ledgerOf.mp he'
  refine hkeys.entries.eq_of_key he' he ?_
  rw [LedgerRow.key, LedgerRow.key, htenant, htenant', hkind, hid', hid]

theorem LedgerInvariant.schemaKeys {C : Crypto} {db : Database} (h : LedgerInvariant C db) :
    SchemaKeys db := ⟨h.artifacts_keyed, h.entries_keyed⟩

/-- The entry of the worked store is accounted for. -/
theorem clean_audit_accounts_for_sample_entry :
    ∃ a ∈ Sample.anchoredDb.rowsOf Sample.tenant .run, Records Sample.entry .run a := by
  obtain ⟨report, haudit, hclean⟩ := Sample.audit_clean
  have hinv := Sample.run_txns ▸ ledgerInvariant_run Sample.txns
  exact (clean_audit_accounts_for_entries hinv.schemaKeys haudit hclean).1 Sample.entry
    (mem_ledgerOf.mpr ⟨List.mem_singleton.mpr rfl, rfl⟩)

/-- A run without signature and without ledger entry. -/
def Sample.unrecordedDb : Database :=
  Database.empty.saved .run [{ Sample.row with envelope := .unsigned }] []

/-- **An unrecorded artifact is not reported**: the audit of the database above is clean. -/
theorem unrecorded_artifact_audits_clean :
    ∃ report, verifyArtifacts Sample.platform (some Sample.keyring) Sample.tenant
        (fun _ => Sample.unrecordedDb) = .ok report ∧ report.Clean ∧
      ¬OneToOne Sample.unrecordedDb Sample.tenant := by
  have hartifacts : ∀ kind, ∀ a ∈ Sample.unrecordedDb.rowsOf Sample.tenant kind,
      checkArtifact (some Sample.keyring) kind a = .ok none := by
    intro kind a ha
    cases kind with
    | run =>
      obtain rfl := List.mem_singleton.mp (mem_rowsOf.mp ha).1
      exact checkArtifact_none.mpr
        (verifyArtifact_of_digest _ _ _ _ rfl Sample.sha256_row)
    | comparison => cases (mem_rowsOf.mp ha).1
    | guardrailEvidence => cases (mem_rowsOf.mp ha).1
  obtain ⟨report, hreport⟩ := verifyArtifacts_returns (P := Sample.platform)
    (fun _ => Sample.unrecordedDb) (fun kind a ha => ⟨none, hartifacts kind a ha⟩)
    fun c hc => by cases hc
  obtain ⟨hfailures, hledger, hanchors⟩ := verifyArtifacts_ok hreport
  refine ⟨report, hreport, ⟨hfailures.mpr hartifacts, hledger, hanchors.mpr fun c hc => ?_⟩, ?_⟩
  · cases hc
  · rintro ⟨hrecorded, -⟩
    obtain ⟨e, he, -⟩ := hrecorded .run _ (mem_rowsOf.mpr ⟨List.mem_singleton.mpr rfl, rfl⟩)
    cases (mem_ledgerOf.mp he).1

/-! ## Rollback -/

/-- An anchored row names the head of the ledger at its sequence. -/
theorem Anchored.head_eq {keyring : Option (ArtifactKeyring P.toCrypto)} {t : TenantId}
    {heads : ℕ → Option HexDigest} {row : CheckpointRow} {checkpoint : SignedLedgerCheckpoint}
    (h : Anchored P keyring t heads row checkpoint) :
    heads row.ledgerSequence = some row.ledgerHeadSha256 := by
  have hmatch := h.matches_row
  simp only [payloadMatches, Bool.and_eq_true, decide_eq_true_eq] at hmatch
  rw [h.head, hmatch.1.1.2]

/-- Two ledgers of a tenant with one head, of one length, have the same hashed fields. -/
theorem fields_eq_of_head_eq {C : Crypto} {t : TenantId} {es fs : List LedgerRow}
    (hes : LinkedFrom (ledgerReader C t) 1 ledgerGenesisSha256 es)
    (hfs : LinkedFrom (ledgerReader C t) 1 ledgerGenesisSha256 fs) (hlen : es.length = fs.length)
    (hhead : headFrom (ledgerReader C t) ledgerGenesisSha256 es =
      headFrom (ledgerReader C t) ledgerGenesisSha256 fs)
    (hcollision : ∀ e ∈ es, ∀ f ∈ fs, C.sha256 (entryJson t.val e.toLedgerFields).canonicalText =
        C.sha256 (entryJson t.val f.toLedgerFields).canonicalText →
      (entryJson t.val e.toLedgerFields).canonicalText =
        (entryJson t.val f.toLedgerFields).canonicalText) :
    es.map LedgerRow.toLedgerFields = fs.map LedgerRow.toLedgerFields :=
  contents_eq_of_head_eq hes hfs hlen hhead
    (fun e he f hf hdigest => (entryJson_inj (hcollision e he f hf hdigest)).2)
    fun _ _ hcontent => congrArg LedgerFields.previousEntrySha256 hcontent

/-- **Checkpoint anchoring detects rollback.**  After any run of transactions a checkpoint is
    created.  Whatever the tables hold later, if the checkpoint's row is still there and the audit
    reports no ledger failure and no checkpoint failure, the ledger begins with the entries the
    checkpoint was taken of, in every hashed field.  SHA-256 is free of collisions on the entries
    of the two ledgers up to the checkpoint. -/
theorem rollback_detected {txns : List (Transaction P)}
    {store : Option (ArtifactKeyring P.toCrypto)} {t : TenantId} {days : ℤ}
    {lookupNow now : Timestamp} {id : UUID} {checkpoint : SignedLedgerCheckpoint} {db : Database}
    {row : CheckpointRow}
    (hcreate : createLedgerCheckpoint P store t days lookupNow now id
      (Runs.run commit .empty txns) = .ok (checkpoint, db))
    (hrow : db.checkpoints = (Runs.run commit .empty txns).checkpoints ++ [row])
    {tampered : Database} (hkept : row ∈ tampered.checkpoints)
    {keyring : Option (ArtifactKeyring P.toCrypto)} {report : ArtifactIntegrityReport}
    (haudit : verifyArtifacts P keyring t (fun _ => tampered) = .ok report)
    (hledger : report.ledgerFailures = []) (hcheckpoints : report.checkpointFailures = [])
    (hcollision : ∀ e ∈ (tampered.ledgerOf t).take checkpoint.payload.ledgerSequence,
      ∀ f ∈ (db.ledgerOf t).take checkpoint.payload.ledgerSequence,
        NoCollision P.toCrypto (entryJson t.val e.toLedgerFields).canonicalText
          (entryJson t.val f.toLedgerFields).canonicalText) :
    checkpoint.payload.ledgerSequence ≤ (db.ledgerOf t).length ∧
    ((tampered.ledgerOf t).take checkpoint.payload.ledgerSequence).map LedgerRow.toLedgerFields =
      ((db.ledgerOf t).take checkpoint.payload.ledgerSequence).map LedgerRow.toLedgerFields := by
  set origin := Runs.run commit .empty txns
  rcases createLedgerCheckpoint_ok hcreate with ⟨rfl, -⟩ | ⟨K, -, ⟨hnew⟩⟩
  · -- a reused checkpoint inserts no row
    exact absurd (congrArg List.length hrow) (by simp)
  have hlinked := (ledgerInvariant_run (P := P) txns).linked t
  obtain ⟨hsequence, hhead⟩ := Prod.mk.inj (hnew.hhead.trans (ledgerHead_eq hlinked))
  have horigin : db.ledgerOf t = origin.entriesOf t := by
    rw [hnew.hdb, ← ledgerOf_eq hlinked]
    rfl
  have hinserted : row = CheckpointRow.ofCheckpoint checkpoint hnew.stored := by
    have hlast := hrow.symm.trans (congrArg Database.checkpoints hnew.hdb)
    exact (List.cons.inj (List.append_cancel_left hlast)).1
  have hvisible : row ∈ tampered.checkpointsOf t :=
    List.mem_filter.mpr ⟨hkept, decide_eq_true (by rw [hinserted]; exact hnew.htenant)⟩
  -- what the two passes of the audit say about the tampered ledger
  obtain ⟨-, hledgerPass, hcheckpointPass⟩ := verifyArtifacts_ok haudit
  have htampered := (ledgerFailures_eq_nil.mp (hledgerPass.symm.trans hledger)).1
  obtain ⟨checkpoint', hanchored⟩ :=
    checkCheckpoint_none.mp (hcheckpointPass.mp hcheckpoints _ hvisible)
  have hpinned := (headAt_eq_some htampered).mp hanchored.head_eq
  rw [hinserted] at hpinned
  obtain ⟨hle, htamperedHead⟩ : checkpoint.payload.ledgerSequence ≤ (tampered.ledgerOf t).length ∧
      headFrom (ledgerReader P.toCrypto t) ledgerGenesisSha256
        ((tampered.ledgerOf t).take checkpoint.payload.ledgerSequence) =
          checkpoint.payload.ledgerHeadSha256 := hpinned
  -- the checkpoint was taken of the whole ledger
  have hwhole : (db.ledgerOf t).take checkpoint.payload.ledgerSequence = origin.entriesOf t := by
    rw [horigin, hsequence, List.take_length]
  rw [hwhole] at hcollision ⊢
  refine ⟨by rw [horigin, hsequence], fields_eq_of_head_eq (htampered.take _) hlinked ?_ ?_ hcollision⟩
  · rw [List.length_take, Nat.min_eq_left hle, hsequence]
  · rw [htamperedHead, hhead]

namespace Sample

/-- The run saved once more, unsigned and under another identifier. -/
def laterRow : ArtifactRow := { row with artifactId := 3, envelope := .unsigned }

def laterEntry : LedgerRow := ⟨laterFields, tenant, laterDigest⟩

/-- The worked store after a later save. -/
def laterDb : Database := anchoredDb.saved .run [row, laterRow] [entry, laterEntry]

theorem laterDb_grows : Grows anchoredDb laterDb := by
  refine ⟨⟨[laterEntry], rfl⟩, fun kind a ha => ⟨a, ?_, rfl, rfl, rfl, rfl⟩⟩
  exact @Database.mem_saved_append anchoredDb .run _ a kind ha [laterRow]

theorem laterDb_invariant : LedgerInvariant platform.toCrypto laterDb := by
  have hinv : LedgerInvariant platform.toCrypto anchoredDb := run_txns ▸ ledgerInvariant_run txns
  have hentry : nextEntry platform.toCrypto tenant .run 3 runDigest .unsigned (some entry) =
      laterEntry := congrArg (LedgerRow.mk laterFields tenant) sha256_later
  have hstep : SaveStep platform.toCrypto laterRow .run runDigest anchoredDb [row, laterRow]
      [entry, laterEntry] := by
    rw [← hentry]
    refine SaveStep.fresh (fun r hr => ?_) fun e he => ?_
    · obtain rfl := List.mem_singleton.mp hr
      decide
    · obtain rfl := List.mem_singleton.mp he
      decide
  exact hinv.save rfl hstep

/-- The audit of the later store is clean. -/
theorem laterDb_audit : ∃ report, verifyArtifacts platform (some keyring) tenant
    (fun _ => laterDb) = .ok report ∧ report.Clean := by
  refine audit_clean_of_grows laterDb_grows laterDb_invariant rfl fun kind a ha => ?_
  cases kind with
  | run =>
    rcases List.mem_cons.mp (mem_rowsOf.mp ha).1 with rfl | ha
    · exact checkArtifact_row
    · obtain rfl : a = laterRow := List.mem_singleton.mp ha
      exact checkArtifact_none.mpr (verifyArtifact_of_digest _ _ _ _ rfl sha256_row)
  | comparison => cases (mem_rowsOf.mp ha).1
  | guardrailEvidence => cases (mem_rowsOf.mp ha).1

/-- SHA-256 has no collision between the two entries. -/
theorem laterDb_noCollision : ∀ e ∈ [entry, laterEntry], ∀ f ∈ [entry, laterEntry],
    NoCollision platform.toCrypto (entryJson tenant.val e.toLedgerFields).canonicalText
      (entryJson tenant.val f.toLedgerFields).canonicalText := by
  have hne : entryDigest ≠ laterDigest := by decide +kernel
  intro e he f hf heq
  simp only [List.mem_cons, List.not_mem_nil, or_false] at he hf
  rcases he with rfl | rfl <;> rcases hf with rfl | rfl
  · rfl
  · exact absurd (sha256_entry.symm.trans (heq.trans sha256_later)) hne
  · exact absurd (sha256_entry.symm.trans (heq.symm.trans sha256_later)) hne
  · rfl

end Sample

/-- The checkpoint of the worked store, and the ledger after a later save. -/
theorem rollback_detected_later :
    Sample.checkpoint.payload.ledgerSequence ≤
      (Sample.anchoredDb.ledgerOf Sample.tenant).length ∧
    ((Sample.laterDb.ledgerOf Sample.tenant).take
        Sample.checkpoint.payload.ledgerSequence).map LedgerRow.toLedgerFields =
      ((Sample.anchoredDb.ledgerOf Sample.tenant).take
        Sample.checkpoint.payload.ledgerSequence).map LedgerRow.toLedgerFields := by
  obtain ⟨report, haudit, -, hledger, hcheckpoints⟩ := Sample.laterDb_audit
  have hsaved : Runs.run commit .empty (Sample.txns.take 1) = Sample.savedDb := by
    show Runs.run commit .empty [_] = _
    rw [Runs.run_cons, Runs.run_nil]
    exact commit_of_ok Sample.saveRun_empty
  have hcreate := Sample.createLedgerCheckpoint_savedDb 1767225720000000
  rw [← hsaved] at hcreate
  refine rollback_detected hcreate (by rw [hsaved]; rfl) (List.mem_singleton.mpr rfl) haudit hledger
    hcheckpoints fun e he f hf => Sample.laterDb_noCollision e ?_ f ?_
  · exact (mem_ledgerOf.mp (List.mem_of_mem_take he)).1
  · exact List.mem_cons.mpr (.inl (List.mem_singleton.mp (mem_ledgerOf.mp
      (List.mem_of_mem_take hf)).1))

/-! ## The head -/

/-- What `_verify_artifact_ledger` returns. -/
structure LedgerVerification where
  checked : ℕ
  valid : ℕ
  head : HexDigest
  failures : List ArtifactLedgerFailure

/-- `_verify_artifact_ledger` of the rows in the order of their numbers. -/
def verifyArtifactLedger (C : Crypto) (t : TenantId)
    (source : ArtifactKind → UUID → Option (String × Envelope)) (rows : List LedgerRow) :
    LedgerVerification :=
  let failures := ledgerFailures C t source 1 ledgerGenesisSha256 rows
  { checked := rows.length
    valid := rows.length - failures.length
    head := headFrom (ledgerReader C t) ledgerGenesisSha256 rows
    failures }

/-- The reasons that concern the chain, not the artifacts. -/
def LedgerFailureReason.breaksChain : LedgerFailureReason → Bool
  | sequenceGap | previousHash | entryHash => true
  | missingArtifact | artifactMismatch => false

section Head

variable {C : Crypto} {t : TenantId}
  {source source' : ArtifactKind → UUID → Option (String × Envelope)}

/-- A row continues the chain exactly if its failure, if it has one, is not about the chain. -/
theorem checkEntry_chain {n : ℕ} {d : HexDigest} {row : LedgerRow} :
    (∀ failure ∈ (checkEntry C t source n d row).toList, failure.reason.breaksChain = false) ↔
      row.sequence = n ∧ row.previousEntrySha256 = d ∧
        row.entrySha256 = ledgerEntryDigest C t.val row.toLedgerFields := by
  unfold checkEntry
  dsimp only
  split_ifs with hsequence hprevious hentry
  · simp [LedgerFailureReason.breaksChain, hsequence]
  · simp [LedgerFailureReason.breaksChain, hprevious]
  · simp [LedgerFailureReason.breaksChain, hentry]
  · refine iff_of_true ?_ ⟨not_not.mp hsequence, not_not.mp hprevious, not_not.mp hentry⟩
    cases source row.artifactType row.artifactId with
    | none => simp [LedgerFailureReason.breaksChain]
    | some envelope =>
      dsimp only
      split_ifs <;> simp [LedgerFailureReason.breaksChain]

/-- **A ledger is a chain exactly if no failure is about the chain**, whatever its artifacts are. -/
theorem linkedFrom_iff_failures {n : ℕ} {d : HexDigest} {rows : List LedgerRow} :
    (∀ failure ∈ ledgerFailures C t source n d rows, failure.reason.breaksChain = false) ↔
      LinkedFrom (ledgerReader C t) n d rows := by
  induction rows generalizing n d with
  | nil => simp [ledgerFailures]
  | cons row rows ih =>
    rw [ledgerFailures, List.forall_mem_append, checkEntry_chain, ih, linkedFrom_cons]
    constructor
    · rintro ⟨hlink, hrest⟩
      exact ⟨hlink, hlink.1 ▸ hrest⟩
    · rintro ⟨hlink, hrest⟩
      have hsequence : row.sequence = n := hlink.1
      exact ⟨hlink, hsequence ▸ hrest⟩

/-- **The head binds the whole ledger.**  Two ledgers of a tenant, with any rows and any artifacts,
    in each of which the ledger pass finds no failure of the chain: if it returns one head for both,
    they are of one length and agree row by row in every hashed field.  SHA-256 is free of
    collisions between the entries of the two, and none of them hashes to the genesis value. -/
theorem ledgerHead_binds {rows rows' : List LedgerRow}
    (hrows : ∀ failure ∈ (verifyArtifactLedger C t source rows).failures,
      failure.reason.breaksChain = false)
    (hrows' : ∀ failure ∈ (verifyArtifactLedger C t source' rows').failures,
      failure.reason.breaksChain = false)
    (hcollision : ∀ e ∈ rows, ∀ f ∈ rows',
      NoCollision C (entryJson t.val e.toLedgerFields).canonicalText
        (entryJson t.val f.toLedgerFields).canonicalText)
    (hgenesis : ∀ e ∈ rows ++ rows',
      C.sha256 (entryJson t.val e.toLedgerFields).canonicalText ≠ ledgerGenesisSha256)
    (hhead : (verifyArtifactLedger C t source rows).head =
      (verifyArtifactLedger C t source' rows').head) :
    rows.length = rows'.length ∧
      rows.map LedgerRow.toLedgerFields = rows'.map LedgerRow.toLedgerFields := by
  have hlinked := linkedFrom_iff_failures.mp hrows
  have hlinked' := linkedFrom_iff_failures.mp hrows'
  have hdigest : ∀ e ∈ rows, ∀ f ∈ rows', (ledgerReader C t).digest e =
      (ledgerReader C t).digest f → e.toLedgerFields = f.toLedgerFields :=
    fun e he f hf heq => (entryJson_inj (hcollision e he f hf heq)).2
  have hlength : rows.length = rows'.length :=
    length_eq_of_head_eq hlinked hlinked' hhead hdigest
      (fun _ _ hcontent => congrArg LedgerFields.sequence hcontent) hgenesis
  exact ⟨hlength, fields_eq_of_head_eq hlinked hlinked' hlength hhead hcollision⟩

end Head

/-- The later ledger as another audit finds it: listed in another order, and all artifacts gone. -/
def Sample.strippedDb : Database := { Database.empty with ledger := [laterEntry, entry] }

theorem Sample.strippedDb_ledgerOf : strippedDb.ledgerOf tenant = [entry, laterEntry] := by
  simp [Database.ledgerOf, strippedDb, entry, laterEntry, fields, laterFields]

/-- The head of the later ledger, found by the audit of the store and by that of the stripped one:
    the missing artifacts are no failure of the chain. -/
theorem ledgerHead_binds_sample :
    (Sample.laterDb.ledgerOf Sample.tenant).length =
      (Sample.strippedDb.ledgerOf Sample.tenant).length ∧
    (Sample.laterDb.ledgerOf Sample.tenant).map LedgerRow.toLedgerFields =
      (Sample.strippedDb.ledgerOf Sample.tenant).map LedgerRow.toLedgerFields := by
  have hlinked := Sample.laterDb_invariant.linked Sample.tenant
  have hlater : Sample.laterDb.ledgerOf Sample.tenant = [Sample.entry, Sample.laterEntry] :=
    ledgerOf_eq hlinked
  rw [← ledgerOf_eq hlinked, hlater] at hlinked
  rw [hlater, Sample.strippedDb_ledgerOf]
  have hstore : ∀ failure ∈ (verifyArtifactLedger Sample.crypto Sample.tenant (sourceEnvelope
      fun kind => Sample.laterDb.rowsOf Sample.tenant kind) [Sample.entry, Sample.laterEntry]).failures,
      failure.reason.breaksChain = false := linkedFrom_iff_failures.mpr hlinked
  have hstripped : ∀ failure ∈ (verifyArtifactLedger Sample.crypto Sample.tenant
      (fun _ _ => none) [Sample.entry, Sample.laterEntry]).failures,
      failure.reason.breaksChain = false := linkedFrom_iff_failures.mpr hlinked
  refine ledgerHead_binds hstore hstripped Sample.laterDb_noCollision (fun e he heq => ?_) rfl
  have hne : Sample.entryDigest ≠ ledgerGenesisSha256 ∧
      Sample.laterDigest ≠ ledgerGenesisSha256 := by decide +kernel
  simp only [List.cons_append, List.nil_append, List.mem_cons, List.not_mem_nil, or_false] at he
  rcases he with rfl | rfl | rfl | rfl
  · exact hne.1 (Sample.sha256_entry.symm.trans heq)
  · exact hne.2 (Sample.sha256_later.symm.trans heq)
  · exact hne.1 (Sample.sha256_entry.symm.trans heq)
  · exact hne.2 (Sample.sha256_later.symm.trans heq)

end AEControl.Evidence
