/-
  The evidence of every tenant under any interleaving of committed transactions.

  `Effect` says once what a transaction can do to the database; `LedgerInvariant` is what every
  transaction preserves: each tenant's ledger is a hash chain from the genesis value, and entries
  and artifacts record each other.  `Grows` is what only ever grows, which is why the audit may read
  its tables one after the other (`Evidence/Replicas`).

  Structure of the proof:
  1. the statements: a row is added, or takes the place of its key (`RowWrite`), whichever INSERT
     writes it (`insertRow_ok`, `upsertRow_ok`);
  2. the methods: a save that returns has done its four steps (`Saved`, `saveArtifact_ok`), a
     checkpoint call inserts at most one row (`createLedgerCheckpoint_cases`).  `commit_effect` is
     the inversion lemma over all of them, and no later proof unfolds a method;
  3. **the crux**, `LedgerInvariant.save`: the row that a save writes and the entry that it appends
     are recorded by each other, the other tenants' chains do not change, and the tenant's own
     grows at its end (`saveStep_of_write`, `linked_nextEntry`);
  4. `LedgerInvariant.commit` for every transaction, `ledgerInvariant_run` for every run.

  The worked store at the end is the one that the witnesses of the other evidence modules use.
-/
import AEControl.Evidence.Audit

namespace AEControl.Evidence

open HashChain Table

variable {P : Platform}

/-! ## What a transaction can do -/

/-- The entry repeats the identity, digest and envelope of an artifact row. -/
structure Records (e : LedgerRow) (kind : ArtifactKind) (a : ArtifactRow) : Prop where
  tenant : e.tenantId = a.tenantId
  kind_eq : e.artifactType = kind
  id : e.artifactId = a.artifactId
  digest : e.payloadSha256.val = a.payloadSha256
  envelope : e.envelope = a.envelope

/-- A row is written: appended under a fresh identifier, or in the place of the tenant's own. -/
inductive RowWrite (row : ArtifactRow) (rows : List ArtifactRow) : List ArtifactRow → Prop
  | inserted (hfresh : ∀ r ∈ rows, r.artifactId ≠ row.artifactId) : RowWrite row rows (rows ++ [row])
  | replaced {rows' : List ArtifactRow} {old : ArtifactRow}
      (hrep : Replaced rows rows' old row) (hid : old.artifactId = row.artifactId)
      (htenant : old.tenantId = row.tenantId) : RowWrite row rows rows'

/-- What every old row and the written one satisfy, every row satisfies afterwards. -/
theorem RowWrite.forall_mem {row : ArtifactRow} {rows rows' : List ArtifactRow}
    (h : RowWrite row rows rows') {Q : ArtifactRow → Prop} (hold : ∀ x ∈ rows, Q x)
    (hnew : Q row) : ∀ x ∈ rows', Q x := by
  cases h with
  | inserted _ =>
    intro x hx
    rcases List.mem_append.mp hx with hx | hx
    · exact hold x hx
    · exact List.mem_singleton.mp hx ▸ hnew
  | replaced hrep _ _ => exact hrep.forall_mem hold hnew

/-- The written row is in the table afterwards. -/
theorem RowWrite.mem_new {row : ArtifactRow} {rows rows' : List ArtifactRow}
    (h : RowWrite row rows rows') : row ∈ rows' := by
  cases h with
  | inserted _ => exact List.mem_append_right _ (List.mem_singleton.mpr rfl)
  | replaced hrep _ _ => exact hrep.mem_new

/-- A write keeps the primary key. -/
theorem RowWrite.keyed {row : ArtifactRow} {rows rows' : List ArtifactRow}
    (h : RowWrite row rows rows') (hk : Keyed ArtifactRow.artifactId rows) :
    Keyed ArtifactRow.artifactId rows' := by
  cases h with
  | inserted hfresh => exact hk.append_one hfresh
  | replaced hrep hid _ =>
    unfold Keyed
    rw [hrep.keys_eq hid.symm]
    exact hk

/-- A plain INSERT that returns has put a new key at the end. -/
theorem insertRow_ok {row : ArtifactRow} {rows rows' : List ArtifactRow}
    (h : insertRow row rows = .ok rows') : RowWrite row rows rows' := by
  unfold insertRow at h
  split at h
  · rename_i hnone
    obtain rfl := Except.ok.inj h
    exact RowWrite.inserted (lookup_none.mp hnone)
  · cases h

/-- An upsert that returns has put the row at the end or in the place of its key. -/
theorem upsertRow_ok {row : ArtifactRow} {rows rows' : List ArtifactRow}
    (hk : Keyed ArtifactRow.artifactId rows) (h : upsertRow row rows = .ok rows') :
    RowWrite row rows rows' := by
  unfold upsertRow at h
  split at h
  · rename_i hnone
    obtain rfl := Except.ok.inj h
    exact RowWrite.inserted (lookup_none.mp hnone)
  · rename_i old hold
    split at h
    · rename_i htenant
      obtain rfl := Except.ok.inj h
      obtain ⟨hmem, hid⟩ := lookup_some hold
      exact RowWrite.replaced (update_of_match hk hmem hid rfl).1 hid htenant
    · cases h

/-- The inversion of a save: what was computed, written and appended. -/
structure Saved (P : Platform) (keyring : Option (ArtifactKeyring P.toCrypto)) (t : TenantId)
    (kind : ArtifactKind) (id : UUID) (payload : Json) (db db' : Database) where
  digest : HexDigest
  envelope : Envelope
  stored : Json
  rows : List ArtifactRow
  ledger : List LedgerRow
  hdigest : artifactDigest P.toCrypto payload = .ok digest
  hsign : signArtifact keyring kind id digest = .ok envelope
  hstored : P.jsonb payload = some stored
  hwrite : RowWrite ⟨t, id, stored, digest.val, envelope⟩ (db.artifacts kind) rows
  hledger : appendLedgerValues P.toCrypto t kind id digest envelope db = .ok ledger
  hdb : db' = db.saved kind rows ledger

/-- The table of the saved kind holds the rows the statement left. -/
theorem Saved.artifacts_self {keyring : Option (ArtifactKeyring P.toCrypto)} {t : TenantId}
    {kind : ArtifactKind} {id : UUID} {payload : Json} {db db' : Database}
    (h : Saved P keyring t kind id payload db db') : db'.artifacts kind = h.rows :=
  (congrArg (fun d : Database => d.artifacts kind) h.hdb).trans Database.saved_artifacts_self

/-- A save keeps the primary keys. -/
theorem Saved.keyed {keyring : Option (ArtifactKeyring P.toCrypto)} {t : TenantId}
    {kind : ArtifactKind} {id : UUID} {payload : Json} {db db' : Database}
    (h : Saved P keyring t kind id payload db db')
    (hk : ∀ kind, Keyed ArtifactRow.artifactId (db.artifacts kind)) (kind' : ArtifactKind) :
    Keyed ArtifactRow.artifactId (db'.artifacts kind') := by
  rw [h.hdb]
  exact Database.forall_saved (Q := fun _ => Keyed ArtifactRow.artifactId) hk
    (h.hwrite.keyed (hk kind)) kind'

/-- What JSONB takes is what the column holds. -/
theorem storeJson_ok {j stored : Json} (h : storeJson P j = .ok stored) :
    P.jsonb j = some stored := by
  unfold storeJson at h
  split at h
  · rename_i hj
    rw [hj, Except.ok.inj h]
  · cases h

/-- **A save that returns has done all its steps**: digest, envelope, row and ledger entry, as
    `Saved` lists them. Every saving method is an instance. -/
theorem saveArtifact_ok {keyring : Option (ArtifactKeyring P.toCrypto)} {t : TenantId}
    {kind : ArtifactKind} {id : UUID} {payload : Json}
    {write : ArtifactRow → List ArtifactRow → Except EvidenceError (List ArtifactRow)}
    {db db' : Database}
    (hwrite : ∀ row rows, write row (db.artifacts kind) = .ok rows →
      RowWrite row (db.artifacts kind) rows)
    (h : saveArtifact P keyring t kind id payload write db = .ok db') :
    Nonempty (Saved P keyring t kind id payload db db') := by
  unfold saveArtifact at h
  obtain ⟨digest, hdigest, h⟩ := Raising.bind_ok h
  obtain ⟨envelope, hsign, h⟩ := Raising.bind_ok h
  obtain ⟨stored, hstored, h⟩ := Raising.bind_ok h
  obtain ⟨rows, hrows, h⟩ := Raising.bind_ok h
  obtain ⟨ledger, hledger, h⟩ := Raising.bind_ok h
  exact ⟨⟨digest, envelope, stored, rows, ledger, hdigest, hsign, storeJson_ok hstored,
    hwrite _ _ hrows, hledger, (Except.ok.inj h).symm⟩⟩

/-- The inversion of a new checkpoint. -/
structure CheckpointInserted (P : Platform) (K : ArtifactKeyring P.toCrypto) (t : TenantId)
    (db : Database) (checkpoint : SignedLedgerCheckpoint) (db' : Database) where
  stored : Json
  hkey : K.activeKeyId = some checkpoint.signingKeyId.val
  halgorithm : K.activeAlgorithm = some .ed25519
  htenant : checkpoint.payload.tenantId = t
  hhead : (checkpoint.payload.ledgerSequence, checkpoint.payload.ledgerHeadSha256) =
    ledgerHead db t
  hentries : checkpoint.payload.ledgerEntries = (db.ledgerOf t).length
  hutc : checkpoint.payload.createdAt.utcoffset = 0 ∧
    checkpoint.payload.retentionUntil.utcoffset = 0
  hdigest : checkpointPayloadDigest P checkpoint.payload = .ok checkpoint.payloadSha256
  hsign : K.sign "ledger_checkpoint" checkpoint.payload.checkpointId
    checkpoint.payloadSha256.val = .ok checkpoint.signature
  hstored : P.jsonb (checkpoint.payload.dump P) = some stored
  hdb : db' = { db with
    checkpoints := db.checkpoints ++ [CheckpointRow.ofCheckpoint checkpoint stored] }

/-- The inversion of the part that signs and stores a checkpoint. -/
theorem insertCheckpoint_ok {K : ArtifactKeyring P.toCrypto} {keyId : String}
    {payload : LedgerCheckpointPayload} {db db' : Database} {checkpoint : SignedLedgerCheckpoint}
    (h : insertCheckpoint P K keyId payload db = .ok (checkpoint, db')) :
    checkpoint.payload = payload ∧ checkpoint.signingKeyId.val = keyId ∧
      checkpointPayloadDigest P payload = .ok checkpoint.payloadSha256 ∧
      K.sign "ledger_checkpoint" payload.checkpointId checkpoint.payloadSha256.val =
        .ok checkpoint.signature ∧
      ∃ stored, P.jsonb (payload.dump P) = some stored ∧ db' = { db with
        checkpoints := db.checkpoints ++ [CheckpointRow.ofCheckpoint checkpoint stored] } := by
  unfold insertCheckpoint at h
  obtain ⟨digest, hdigest, h⟩ := Raising.bind_ok h
  obtain ⟨signature, hsign, h⟩ := Raising.bind_ok h
  obtain ⟨checkpoint', hcolumns, h⟩ := Raising.bind_ok h
  obtain ⟨stored, hstored, h⟩ := Raising.bind_ok h
  split at h
  · cases h
  · obtain ⟨rfl, rfl⟩ := Prod.mk.inj (Except.ok.inj h)
    obtain ⟨hpayload, rfl, rfl, rfl⟩ := SignedLedgerCheckpoint.ofColumns_ok hcolumns
    exact ⟨hpayload, rfl, hdigest, hsign, stored, storeJson_ok hstored, rfl⟩

/-- The inversion of `create_ledger_checkpoint`: a recent checkpoint of the head is read back, or
    there is none and a new one is signed and stored. -/
theorem createLedgerCheckpoint_cases {keyring : Option (ArtifactKeyring P.toCrypto)}
    {t : TenantId} {days : ℤ} {lookupNow now : Timestamp} {id : UUID} {db db' : Database}
    {checkpoint : SignedLedgerCheckpoint}
    (h : createLedgerCheckpoint P keyring t days lookupNow now id db = .ok (checkpoint, db')) :
    (db' = db ∧ ∃ row,
      recentCheckpoint db t (ledgerHead db t).1 (ledgerHead db t).2 lookupNow = some row ∧
        checkpointFromRow P keyring row = .ok checkpoint) ∨
      (recentCheckpoint db t (ledgerHead db t).1 (ledgerHead db t).2 lookupNow = none ∧
        ∃ K keyId, keyring = some K ∧ K.activeKeyId = some keyId ∧
          K.activeAlgorithm = some .ed25519 ∧
          ∃ hretention, insertCheckpoint P K keyId ⟨id, t, (ledgerHead db t).1,
            (db.ledgerOf t).length, (ledgerHead db t).2, .utc now,
            .utc (now + days * 86400000000), hretention⟩ db = .ok (checkpoint, db')) := by
  unfold createLedgerCheckpoint at h
  split at h
  · rename_i hdays
    cases keyring with
    | none => cases h
    | some K =>
      simp only at h
      split at h
      · rename_i keyId halgorithm hkey
        split at h
        · rename_i row hrow
          obtain ⟨checkpoint', hcheckpoint, h⟩ := Raising.bind_ok h
          obtain ⟨rfl, rfl⟩ := Prod.mk.inj (Except.ok.inj h)
          exact Or.inl ⟨rfl, row, hrow, hcheckpoint⟩
        · rename_i hnone
          split at h
          · exact Or.inr ⟨hnone, K, keyId, rfl, hkey, halgorithm, retention_after now hdays.1, h⟩
          · cases h
      · cases h
  · cases h

/-- What `create_ledger_checkpoint` can do: give back a stored checkpoint that verifies, or insert a
    new one. -/
theorem createLedgerCheckpoint_ok {keyring : Option (ArtifactKeyring P.toCrypto)} {t : TenantId}
    {days : ℤ} {lookupNow now : Timestamp} {id : UUID} {db db' : Database}
    {checkpoint : SignedLedgerCheckpoint}
    (h : createLedgerCheckpoint P keyring t days lookupNow now id db = .ok (checkpoint, db')) :
    (db' = db ∧ ∃ row ∈ db.checkpointsOf t, checkpointFromRow P keyring row = .ok checkpoint) ∨
      ∃ K, keyring = some K ∧ Nonempty (CheckpointInserted P K t db checkpoint db') := by
  rcases createLedgerCheckpoint_cases h with
    ⟨hdb, row, hrow, hcheckpoint⟩ | ⟨-, K, keyId, hkeyring, hkey, halgorithm, hretention, h⟩
  · refine Or.inl ⟨hdb, row, ?_, hcheckpoint⟩
    have hmem := List.mem_of_mem_head? (Option.mem_def.mpr hrow)
    exact (List.mem_filter.mp ((List.mem_insertionSort _).mp hmem)).1
  · obtain ⟨hpayload, rfl, hdigest, hsign, stored, hstored, hdb⟩ := insertCheckpoint_ok h
    refine Or.inr ⟨K, hkeyring, ⟨⟨stored, hkey, halgorithm, ?_, ?_, ?_, ?_, ?_, ?_, ?_, hdb⟩⟩⟩
    all_goals rw [hpayload]
    · exact ⟨rfl, rfl⟩
    · exact hdigest
    · exact hsign
    · exact hstored

/-- **What a transaction can do.** -/
inductive Effect (P : Platform) (txn : Transaction P) (db : Database) : Database → Prop
  /-- It raises and is rolled back, or reuses a checkpoint. -/
  | idle : Effect P txn db db
  | saved {t : TenantId} {kind : ArtifactKind} {id : UUID} {payload : Json} {db' : Database}
      (h : Saved P txn.keyring t kind id payload db db') : Effect P txn db db'
  | anchored {K : ArtifactKeyring P.toCrypto} {t : TenantId} {checkpoint : SignedLedgerCheckpoint}
      {db' : Database} (hkeyring : txn.keyring = some K)
      (h : CheckpointInserted P K t db checkpoint db') : Effect P txn db db'

/-- A comparison's foreign keys are checked behind the INSERT; where they hold, it is a save like
    the others. -/
theorem saveComparison_ok {keyring : Option (ArtifactKeyring P.toCrypto)} {t : TenantId}
    {id baseline candidate : UUID} {payload : Json} {db db' : Database}
    (h : saveComparison P keyring t id baseline candidate payload db = .ok db') :
    Nonempty (Saved P keyring t .comparison id payload db db') := by
  refine saveArtifact_ok (fun row rows hrows => ?_) h
  obtain ⟨rows', hinsert, hrows⟩ := Raising.bind_ok hrows
  split at hrows
  · obtain rfl := Except.ok.inj hrows
    exact insertRow_ok hinsert
  · cases hrows

/-- Every transaction has one of the effects, whatever it returns. -/
theorem commit_effect {db : Database}
    (hk : ∀ kind, Keyed ArtifactRow.artifactId (db.artifacts kind)) (txn : Transaction P) :
    Effect P txn db (commit db txn) := by
  unfold commit
  split
  · rename_i db' h
    cases txn with
    | saveRun keyring t runId payload =>
      obtain ⟨hs⟩ := saveArtifact_ok (fun _ _ => upsertRow_ok (hk _)) h
      exact Effect.saved hs
    | saveComparison keyring t id baseline candidate payload =>
      obtain ⟨hs⟩ := saveComparison_ok h
      exact Effect.saved hs
    | saveGuardrailEvidence keyring t id payload =>
      obtain ⟨hs⟩ := saveArtifact_ok (fun _ _ => insertRow_ok) h
      exact Effect.saved hs
    | createLedgerCheckpoint keyring t days lookupNow now id =>
      obtain ⟨⟨checkpoint, db''⟩, hcreate, rfl⟩ := Raising.map_ok h
      rcases createLedgerCheckpoint_ok hcreate with ⟨rfl, -⟩ | ⟨K, rfl, ⟨hs⟩⟩
      · exact Effect.idle
      · exact Effect.anchored rfl hs
  · exact Effect.idle

/-! ## The ledger and the artifacts -/

/-- The tenant's entries in the order they were appended. -/
def Database.entriesOf (db : Database) (t : TenantId) : List LedgerRow :=
  db.ledger.filter fun r => r.tenantId = t

/-- The entries a tenant reads are its own. -/
theorem mem_ledgerOf {db : Database} {t : TenantId} {e : LedgerRow} :
    e ∈ db.ledgerOf t ↔ e ∈ db.ledger ∧ e.tenantId = t := by
  simp [Database.ledgerOf, List.mem_insertionSort]

/-- The rows a tenant reads are its own. -/
theorem mem_rowsOf {db : Database} {t : TenantId} {kind : ArtifactKind} {a : ArtifactRow} :
    a ∈ db.rowsOf t kind ↔ a ∈ db.artifacts kind ∧ a.tenantId = t := by
  simp [Database.rowsOf]

/-- A linked ledger is read in the order it was written. -/
theorem ledgerOf_eq {C : Crypto} {db : Database} {t : TenantId} {n : ℕ} {d : HexDigest}
    (h : LinkedFrom (ledgerReader C t) n d (db.entriesOf t)) : db.ledgerOf t = db.entriesOf t :=
  List.Pairwise.insertionSort_eq (h.pairwise_lt.imp fun hlt => Nat.le_of_lt hlt)

/-- **The invariant of the evidence tables.** -/
structure LedgerInvariant (C : Crypto) (db : Database) : Prop where
  artifacts_keyed : ∀ kind, Keyed ArtifactRow.artifactId (db.artifacts kind)
  entries_keyed : Keyed LedgerRow.key db.ledger
  linked : ∀ t, LinkedFrom (ledgerReader C t) 1 ledgerGenesisSha256 (db.entriesOf t)
  recorded : ∀ kind, ∀ a ∈ db.artifacts kind, ∃ e ∈ db.ledger, Records e kind a
  stored : ∀ e ∈ db.ledger, ∃ a ∈ db.artifacts e.artifactType, Records e e.artifactType a

/-- An empty store is sound: nothing is recorded and nothing is to be recorded. -/
theorem LedgerInvariant.empty (C : Crypto) : LedgerInvariant C .empty where
  artifacts_keyed _ := List.nodup_nil
  entries_keyed := List.nodup_nil
  linked _ := trivial
  recorded _ _ ha := by cases ha
  stored _ he := by cases he

/-- Under the invariant a save does one of two things: it stores a new artifact with a new entry,
    or it stores an artifact again whose entry repeats digest and envelope already. -/
inductive SaveStep (C : Crypto) (row : ArtifactRow) (kind : ArtifactKind) (digest : HexDigest)
    (db : Database) : List ArtifactRow → List LedgerRow → Prop
  | fresh (hfresh : ∀ r ∈ db.artifacts kind, r.artifactId ≠ row.artifactId)
      (hnew : ∀ e ∈ db.ledger, e.key ≠ (row.tenantId, kind, row.artifactId)) :
      SaveStep C row kind digest db (db.artifacts kind ++ [row])
        (db.ledger ++ [nextEntry C row.tenantId kind row.artifactId digest row.envelope
          (db.entriesOf row.tenantId).getLast?])
  | again {rows : List ArtifactRow} {old : ArtifactRow}
      (hrep : Replaced (db.artifacts kind) rows old row) (hid : old.artifactId = row.artifactId)
      (htenant : old.tenantId = row.tenantId) (hsha : old.payloadSha256 = row.payloadSha256)
      (henvelope : old.envelope = row.envelope) : SaveStep C row kind digest db rows db.ledger

/-- An entry that records a row has its key. -/
theorem Records.key_eq {e : LedgerRow} {kind : ArtifactKind} {a : ArtifactRow}
    (h : Records e kind a) : e.key = (a.tenantId, kind, a.artifactId) := by
  rw [LedgerRow.key, h.tenant, h.kind_eq, h.id]

/-- A written row with the entry appended for it is one step of the ledger: either the entry is new
    and follows the tenant's last one, or it was there already and nothing is appended. -/
theorem saveStep_of_write {C : Crypto} {db : Database} (hinv : LedgerInvariant C db)
    {row : ArtifactRow} {kind : ArtifactKind} {digest : HexDigest} {rows : List ArtifactRow}
    {ledger : List LedgerRow} (hwrite : RowWrite row (db.artifacts kind) rows)
    (hledger : appendLedgerValues C row.tenantId kind row.artifactId digest row.envelope db =
      .ok ledger) (hdigest : row.payloadSha256 = digest.val) :
    SaveStep C row kind digest db rows ledger := by
  unfold appendLedgerValues at hledger
  cases hwrite with
  | inserted hfresh =>
    -- no entry has the key, for its artifact would have the identifier
    have hnew : ∀ e ∈ db.ledger, e.key ≠ (row.tenantId, kind, row.artifactId) := by
      intro e he hkey
      obtain ⟨a, ha, hrec⟩ := hinv.stored e he
      obtain ⟨-, hkind, hid⟩ : e.tenantId = row.tenantId ∧ e.artifactType = kind ∧
          e.artifactId = row.artifactId := by simpa [LedgerRow.key] using hkey
      rw [hkind] at ha
      exact hfresh a ha (by rw [← hrec.id, hid])
    rw [lookup_none.mpr hnew, ledgerOf_eq (hinv.linked row.tenantId)] at hledger
    obtain rfl := Except.ok.inj hledger
    exact SaveStep.fresh hfresh hnew
  | @replaced _ old hrep hid htenant =>
    obtain ⟨e, he, hrec⟩ := hinv.recorded kind old hrep.mem_old
    have hkey : e.key = (row.tenantId, kind, row.artifactId) := by
      rw [hrec.key_eq, htenant, hid]
    rw [← hkey, lookup_of_mem hinv.entries_keyed he] at hledger
    simp only at hledger
    split_ifs at hledger with hsame
    obtain rfl := Except.ok.inj hledger
    refine SaveStep.again hrep hid htenant ?_ ?_
    · rw [← hrec.digest, hsame.1, hdigest]
    · rw [← hrec.envelope, hsame.2]

/-- The entry that follows a chain continues it. -/
theorem linked_nextEntry {C : Crypto} {t : TenantId} {kind : ArtifactKind} {id : UUID}
    {digest : HexDigest} {envelope : Envelope} {entries : List LedgerRow}
    (h : LinkedFrom (ledgerReader C t) 1 ledgerGenesisSha256 entries) :
    LinkedFrom (ledgerReader C t) 1 ledgerGenesisSha256
      (entries ++ [nextEntry C t kind id digest envelope entries.getLast?]) := by
  refine linkedFrom_append_one.mpr ⟨h, ?_, ?_, rfl⟩
  · cases hlast : entries.getLast? with
    | none =>
      obtain rfl : entries = [] := List.getLast?_eq_none_iff.mp hlast
      rfl
    | some e =>
      have := h.sequence_getLast? hlast
      show e.sequence + 1 = 1 + entries.length
      exact this
  · rw [headFrom_eq_getLast?]
    cases entries.getLast? <;> rfl

/-- An appended entry is seen by its tenant only, at the end. -/
theorem entriesOf_append_one {db : Database} {kind : ArtifactKind} {rows : List ArtifactRow}
    {e : LedgerRow} (t : TenantId) :
    (db.saved kind rows (db.ledger ++ [e])).entriesOf t =
      if e.tenantId = t then db.entriesOf t ++ [e] else db.entriesOf t := by
  show (db.ledger ++ [e]).filter _ = _
  rw [List.filter_append]
  split_ifs with h
  · rw [List.filter_cons_of_pos (by simpa using h)]; rfl
  · rw [List.filter_cons_of_neg (by simpa using h)]; exact List.append_nil _

/-- **A save preserves the invariant.** -/
theorem LedgerInvariant.save {C : Crypto} {db : Database} (hinv : LedgerInvariant C db)
    {row : ArtifactRow} {kind : ArtifactKind} {digest : HexDigest}
    (hdigest : row.payloadSha256 = digest.val) {rows : List ArtifactRow} {ledger : List LedgerRow}
    (h : SaveStep C row kind digest db rows ledger) :
    LedgerInvariant C (db.saved kind rows ledger) := by
  cases h with
  | fresh hfresh hnew =>
    generalize hentry : nextEntry C row.tenantId kind row.artifactId digest row.envelope
      (db.entriesOf row.tenantId).getLast? = entry
    have hrecords : Records entry kind row := by
      subst hentry
      exact ⟨rfl, rfl, rfl, hdigest.symm, rfl⟩
    refine ⟨?_, ?_, fun t => ?_, ?_, fun e he => ?_⟩
    · exact Database.forall_saved (Q := fun _ => Keyed ArtifactRow.artifactId) hinv.artifacts_keyed
        ((hinv.artifacts_keyed kind).append_one hfresh)
    · exact hinv.entries_keyed.append_one fun e he hkey =>
        hnew e he (hkey.trans hrecords.key_eq)
    · rw [entriesOf_append_one]
      split_ifs with ht
      · obtain rfl : row.tenantId = t := hrecords.tenant.symm.trans ht
        rw [← hentry]
        exact linked_nextEntry (hinv.linked row.tenantId)
      · exact hinv.linked t
    · have hold : ∀ kind', ∀ a ∈ db.artifacts kind',
          ∃ e ∈ db.ledger ++ [entry], Records e kind' a := by
        intro kind' a ha
        obtain ⟨e, he, hrec⟩ := hinv.recorded kind' a ha
        exact ⟨e, List.mem_append_left _ he, hrec⟩
      refine Database.forall_saved
        (Q := fun k as => ∀ a ∈ as, ∃ e ∈ db.ledger ++ [entry], Records e k a) hold ?_
      intro a ha
      rcases List.mem_append.mp ha with ha | ha
      · exact hold kind a ha
      · obtain rfl := List.mem_singleton.mp ha
        exact ⟨entry, List.mem_append_right _ (List.mem_singleton.mpr rfl), hrecords⟩
    · rcases List.mem_append.mp he with he | he
      · obtain ⟨a, ha, hrec⟩ := hinv.stored e he
        exact ⟨a, Database.mem_saved_append ha [row], hrec⟩
      · obtain rfl := List.mem_singleton.mp he
        rw [hrecords.kind_eq, Database.saved_artifacts_self]
        exact ⟨row, List.mem_append_right _ (List.mem_singleton.mpr rfl), hrecords⟩
  | @again rows old hrep hid htenant hsha henvelope =>
    -- the replaced row and its replacement are recorded by the same entry
    have hsame : ∀ e, Records e kind old → Records e kind row := fun e h =>
      ⟨h.tenant.trans htenant, h.kind_eq, h.id.trans hid, h.digest.trans hsha,
        h.envelope.trans henvelope⟩
    refine ⟨?_, hinv.entries_keyed, hinv.linked, ?_, fun e he => ?_⟩
    · refine Database.forall_saved (Q := fun _ => Keyed ArtifactRow.artifactId)
        hinv.artifacts_keyed ?_
      unfold Keyed
      rw [hrep.keys_eq hid.symm]
      exact hinv.artifacts_keyed kind
    · refine Database.forall_saved (Q := fun k as => ∀ a ∈ as, ∃ e ∈ db.ledger, Records e k a)
        hinv.recorded ?_
      obtain ⟨e, he, hrec⟩ := hinv.recorded kind old hrep.mem_old
      exact hrep.forall_mem (hinv.recorded kind) ⟨e, he, hsame e hrec⟩
    · obtain ⟨a, ha, hrec⟩ := hinv.stored e he
      refine Database.forall_saved
        (Q := fun k as => ∀ a ∈ db.artifacts k, Records e k a → ∃ a' ∈ as, Records e k a')
        (fun _ a ha hrec => ⟨a, ha, hrec⟩) ?_ e.artifactType a ha hrec
      intro a ha hrec
      rcases hrep.mem_cases ha with ha | rfl
      · exact ⟨a, ha, hrec⟩
      · exact ⟨row, hrep.mem_new, hsame e hrec⟩

/-- **Every transaction preserves the invariant.** -/
theorem LedgerInvariant.commit {db : Database} (hinv : LedgerInvariant P.toCrypto db)
    (txn : Transaction P) : LedgerInvariant P.toCrypto (commit db txn) := by
  have heffect := commit_effect hinv.artifacts_keyed txn
  generalize Evidence.commit db txn = db' at heffect
  cases heffect with
  | idle => exact hinv
  | saved h =>
    rw [h.hdb]
    exact hinv.save rfl (saveStep_of_write hinv h.hwrite h.hledger rfl)
  | anchored _ h =>
    rw [h.hdb]
    exact ⟨hinv.artifacts_keyed, hinv.entries_keyed, hinv.linked, hinv.recorded, hinv.stored⟩

/-- **The ledger is sound after every run of transactions**, by induction on the run. -/
theorem ledgerInvariant_run (txns : List (Transaction P)) :
    LedgerInvariant P.toCrypto (Runs.run commit .empty txns) :=
  Runs.run_invariant commit _ (fun _ txn h => h.commit txn) (LedgerInvariant.empty _) txns

/-! ## A worked store

A run without cases, its ledger entry and a checkpoint of the two, with their real digests and
signatures under one Ed25519 key. -/

namespace Sample

/-- `model_dump` of the run, by agent version. -/
def runItems (agentVersion : String) : List (String × Json) :=
  [("run_id", .str "00000000-0000-0000-0000-000000000001"), ("suite_name", .str "coding"),
    ("dataset_name", .str "repair"), ("dataset_version", .str "1"),
    ("agent_version", .str agentVersion), ("started_at", .str "2026-01-01T00:00:00Z"),
    ("completed_at", .str "2026-01-01T00:01:00Z"), ("case_results", .arr [])]

/-- The items in the order JSONB gives them back: by length, then by bytes. -/
def storedRunItems (agentVersion : String) : List (String × Json) :=
  [("run_id", .str "00000000-0000-0000-0000-000000000001"),
    ("started_at", .str "2026-01-01T00:00:00Z"), ("suite_name", .str "coding"),
    ("case_results", .arr []), ("completed_at", .str "2026-01-01T00:01:00Z"),
    ("dataset_name", .str "repair"), ("agent_version", .str agentVersion),
    ("dataset_version", .str "1")]

def tenant : TenantId := ⟨"default", isTenantId_default⟩

def runDigest : HexDigest :=
  ⟨"d442748d594dbf103aeb896f065f131d852610dbf3f7949c67346c19f4531058", by decide +kernel⟩

/-- The digest of the same run with another agent version. -/
def tamperedDigest : HexDigest :=
  ⟨"219ffd6855000c846afe1fe92070afc6abaf50793b5d31834006756d8d4c1a57", by decide +kernel⟩

def entryDigest : HexDigest :=
  ⟨"3265464d491597d6fa67f9a0d15cf4ceebbbb15a7db3396cda3184272949d083", by decide +kernel⟩

def checkpointDigest : HexDigest :=
  ⟨"10ccae6967d8c9e1585718e76e9a659b0b9c6dbce97c5935f162038f684dc216", by decide +kernel⟩

def runSignature : String :=
  "/vikQCFHre4kE6k+DJOYfK6YwYR5YocBRk1P1qLsnl3yeNk2Z6DQoOjJHANu3S0ltVcazuCpF+wj04g99dXzAg=="

def checkpointSignature : String :=
  "bcgrBWNTbQvbhApA4eQwhz6g5N1Ql/gCDg56IwEarLqJcA7NblgwdOZJlyNOcLDqNquLbdNHx+t95vQ/TFp5DQ=="

def envelope : Envelope := ⟨some "ed25519", some "portfolio-2026-07", some runSignature⟩

/-- The hashed fields of the run's ledger entry. -/
def fields : LedgerFields := ⟨1, .run, 1, runDigest, envelope, ledgerGenesisSha256, le_rfl⟩

def createdAt : Datetime := .utc 1767225720000000

def retentionUntil : Datetime := .utc 1798761720000000

def laterDigest : HexDigest :=
  ⟨"74b52291b11ec77a2f0db38d19776fc981fb6f810581461a62b51f28c1b35586", by decide +kernel⟩

/-- The hashed fields of a later entry: the run saved once more, unsigned and under another
    identifier. -/
def laterFields : LedgerFields := ⟨2, .run, 3, runDigest, .unsigned, entryDigest, by decide⟩

/-- The checkpoint's payload. -/
def payload : LedgerCheckpointPayload :=
  ⟨2, tenant, 1, 1, entryDigest, createdAt, retentionUntil, by decide⟩

@[irreducible] def isoformat (d : Datetime) : String :=
  if d = createdAt then "2026-01-01T00:02:00Z"
  else if d = retentionUntil then "2027-01-01T00:02:00Z" else ""

/-- The payload's items in the order of JSONB. -/
def storedPayloadItems : List (String × Json) :=
  [("tenant_id", .str "default"), ("created_at", .str "2026-01-01T00:02:00Z"),
    ("checkpoint_id", .str "00000000-0000-0000-0000-000000000002"), ("ledger_entries", .int 1),
    ("schema_version", .str "1.0"), ("ledger_sequence", .int 1),
    ("retention_until", .str "2027-01-01T00:02:00Z"),
    ("ledger_head_sha256", .str entryDigest.val)]

/-- SHA-256 on the texts of this store. -/
@[irreducible] def sha256 (text : String) : HexDigest :=
  if text = (Json.obj (runItems "baseline")).canonicalText then runDigest
  else if text = (Json.obj (runItems "tampered")).canonicalText then tamperedDigest
  else if text = (entryJson tenant.val fields).canonicalText then entryDigest
  else if text = (Json.obj (payload.items isoformat)).canonicalText then checkpointDigest
  else if text = (entryJson tenant.val laterFields).canonicalText then laterDigest
  else ledgerGenesisSha256

/-- The signatures of the private key. -/
@[irreducible] def signature (message : String) : String :=
  if message = signatureMessage "run" 1 runDigest.val then runSignature
  else if message = signatureMessage "ledger_checkpoint" 2 checkpointDigest.val then
    checkpointSignature
  else ""

def crypto : Crypto where
  recursionLimit := 900
  recursionLimit_ge := sample_recursionLimit
  sha256 := sha256
  hmacSha256 _ _ := ledgerGenesisSha256
  ed25519PublicKey _ := [3, 161, 7, 191, 243, 206, 16, 190, 29, 112, 221, 24, 231, 75, 192, 153,
    103, 228, 214, 48, 155, 165, 13, 95, 29, 220, 134, 100, 18, 85, 49, 184]
  ed25519Sign _ message := signature message
  ed25519Verify _ message s := s = signature message

/-- The columns of this store take the run and the checkpoint's payload. -/
@[irreducible] def jsonb (j : Json) : Option Json :=
  if j.canonicalText = (Json.obj (runItems "baseline")).canonicalText then
    some (.obj (storedRunItems "baseline"))
  else if j.canonicalText = (Json.obj (payload.items isoformat)).canonicalText then
    some (.obj storedPayloadItems)
  else none

@[irreducible] def validatePayload (j : Json) : Option LedgerCheckpointPayload :=
  if j.canonicalText = (Json.obj storedPayloadItems).canonicalText then some payload else none

def platform : Platform := ⟨crypto, jsonb, isoformat, validatePayload⟩

@[simp] theorem platform_jsonb : platform.jsonb = jsonb := rfl

@[simp] theorem platform_validatePayload : platform.validatePayload = validatePayload := rfl

@[simp] theorem platform_dump (p : LedgerCheckpointPayload) :
    p.dump platform = .obj (p.items isoformat) := rfl

/-- The key is the bytes 0 to 31. -/
def privateKey : Bytes := (List.range 32).map UInt8.ofNat

def keyring : ArtifactKeyring platform.toCrypto where
  hmacKeys := []
  ed25519PrivateKeys := [("portfolio-2026-07", privateKey)]
  ed25519PublicKeys := [("portfolio-2026-07", crypto.ed25519PublicKey privateKey)]
  key_ids := by simp [isKeyId]
  hmac_length := by simp
  ed25519_length := by simp [privateKey]
  derived := by
    intro keyId key h
    simp only [List.lookup_cons, List.lookup_nil] at h ⊢
    split at h
    · rfl
    · cases h
  activeKeyId := some "portfolio-2026-07"
  activeAlgorithm := some .ed25519
  remoteSigner := none
  active_together := rfl
  active_hmac := by simp
  active_ed25519 := by simp
  remote := by simp

/-! ### Its digests -/

/-- The digest of the canonical text of the saved run. -/
theorem sha256_run : sha256 (Json.obj (runItems "baseline")).canonicalText = runDigest := by
  unfold sha256
  exact if_pos rfl

/-- The run with another agent version has another digest. -/
theorem sha256_tampered :
    sha256 (Json.obj (runItems "tampered")).canonicalText = tamperedDigest := by
  have hne : (Json.obj (runItems "tampered")).canonicalText ≠
      (Json.obj (runItems "baseline")).canonicalText := by
    intro h
    have hversion := Json.canon_obj_field (k := "agent_version") (by decide)
      (Json.canonicalText_inj.mp h) (v := .str "tampered") (w := .str "baseline")
      (by simp [runItems]) (by simp [runItems])
    simp [Json.canon] at hversion
  unfold sha256
  exact (if_neg hne).trans (if_pos rfl)

/-- Only a run has a `run_id`. -/
theorem text_ne_run {items : List (String × Json)} (h : "run_id" ∉ items.map Prod.fst)
    (agentVersion : String) :
    (Json.obj items).canonicalText ≠ (Json.obj (runItems agentVersion)).canonicalText :=
  fun heq => h (Json.mem_keys_of_canonicalText_eq heq.symm (by simp [runItems]))

/-- The digest of the canonical text of the run's ledger entry. -/
theorem sha256_entry : sha256 (entryJson tenant.val fields).canonicalText = entryDigest := by
  have hne : ∀ v, (entryJson tenant.val fields).canonicalText ≠
      (Json.obj (runItems v)).canonicalText := text_ne_run (by simp [entryItems])
  unfold sha256
  exact (if_neg (hne "baseline")).trans ((if_neg (hne "tampered")).trans (if_pos rfl))

/-- The digest of the checkpoint's payload, over which the checkpoint is signed. -/
theorem sha256_checkpoint :
    sha256 (Json.obj (payload.items isoformat)).canonicalText = checkpointDigest := by
  have hne : ∀ v, (Json.obj (payload.items isoformat)).canonicalText ≠
      (Json.obj (runItems v)).canonicalText :=
    text_ne_run (by simp [LedgerCheckpointPayload.items])
  have hentry : (Json.obj (payload.items isoformat)).canonicalText ≠
      (entryJson tenant.val fields).canonicalText := by
    intro h
    have hmem := Json.mem_keys_of_canonicalText_eq h (k := "created_at")
      (by simp [LedgerCheckpointPayload.items])
    simp [entryItems] at hmem
  unfold sha256
  exact (if_neg (hne "baseline")).trans ((if_neg (hne "tampered")).trans
    ((if_neg hentry).trans (if_pos rfl)))

/-- The digest of the entry that a later save appends behind the run's. -/
theorem sha256_later :
    sha256 (entryJson tenant.val laterFields).canonicalText = laterDigest := by
  have hne : ∀ v, (entryJson tenant.val laterFields).canonicalText ≠
      (Json.obj (runItems v)).canonicalText := text_ne_run (by simp [entryItems])
  have hentry : (entryJson tenant.val laterFields).canonicalText ≠
      (entryJson tenant.val fields).canonicalText := fun h =>
    absurd (congrArg LedgerFields.sequence (entryJson_inj h).2) (by decide)
  have hcheckpoint : (entryJson tenant.val laterFields).canonicalText ≠
      (Json.obj (payload.items isoformat)).canonicalText := by
    intro h
    have hmem := Json.mem_keys_of_canonicalText_eq h.symm (k := "created_at")
      (by simp [LedgerCheckpointPayload.items])
    simp [entryItems] at hmem
  unfold sha256
  exact (if_neg (hne "baseline")).trans ((if_neg (hne "tampered")).trans
    ((if_neg hentry).trans ((if_neg hcheckpoint).trans (if_pos rfl))))

/-- The stored run has the digest of the dumped one. -/
theorem storedRun_text (agentVersion : String) :
    (Json.obj (storedRunItems agentVersion)).canonicalText =
      (Json.obj (runItems agentVersion)).canonicalText := by
  refine Json.canonicalText_inj.mpr (Json.canon_obj_congr (by simp [storedRunItems])
    (by simp [runItems]) fun f => ?_)
  simp only [storedRunItems, runItems, List.mem_cons, List.not_mem_nil]
  tauto

/-! ### Its laws -/

/-- What the sample key signs it verifies. -/
theorem signsVerify : ArtifactKeyring.SignsVerify platform.toCrypto := fun _ _ =>
  decide_eq_true rfl

/-- The two times of the checkpoint have texts that no other time has. -/
theorem isoformat_inj {d : Datetime} : (isoformat d = isoformat createdAt → d = createdAt) ∧
    (isoformat d = isoformat retentionUntil → d = retentionUntil) := by
  unfold isoformat
  constructor <;> split_ifs <;> simp_all [createdAt, retentionUntil]

/-- The run as the column holds it. -/
theorem jsonb_run :
    jsonb (.obj (runItems "baseline")) = some (.obj (storedRunItems "baseline")) := by
  unfold jsonb
  exact if_pos rfl

/-- Of the checkpoint payloads the column takes the sample's. -/
theorem jsonb_payload (p : LedgerCheckpointPayload) :
    jsonb (.obj (p.items isoformat)) =
      if (Json.obj (p.items isoformat)).canonicalText =
        (Json.obj (payload.items isoformat)).canonicalText then some (.obj storedPayloadItems)
      else none := by
  unfold jsonb
  exact if_neg (text_ne_run (by simp [LedgerCheckpointPayload.items]) "baseline")

/-- The stored payload validates to the payload that was stored. -/
theorem validatePayload_stored :
    platform.validatePayload (.obj storedPayloadItems) = some payload := by
  rw [platform_validatePayload]
  unfold validatePayload
  exact if_pos rfl

/-- The sample store reads back the checkpoint payloads it takes. -/
theorem payloadRoundTrip : PayloadRoundTrip platform := by
  intro p _ _ j hj
  rw [platform_jsonb, platform_dump, jsonb_payload] at hj
  split_ifs at hj with htext
  obtain rfl := Option.some.inj hj
  obtain ⟨hid, htenant, hsequence, hentries, hhead, hcreated, hretention⟩ :=
    LedgerCheckpointPayload.items_inj htext
  have hpayload : p = payload := by
    obtain ⟨id, t, sequence, entries, head, created, retention, _⟩ := p
    simp only [LedgerCheckpointPayload.mk.injEq, payload] at *
    exact ⟨hid, htenant, hsequence, hentries, hhead, isoformat_inj.1 hcreated,
      isoformat_inj.2 hretention⟩
  rw [hpayload]
  exact validatePayload_stored

theorem intPrintable_one : Json.intPrintable 1 = true := Json.intPrintable_of_natAbs_lt (by decide)

/-- What the sample's columns take has a canonical text before and after. -/
theorem keepsCanonical : KeepsCanonical platform := by
  intro j k _ hk
  rw [platform_jsonb] at hk
  unfold jsonb at hk
  split_ifs at hk
  · obtain rfl := Option.some.inj hk
    rfl
  · obtain rfl := Option.some.inj hk
    refine Interpreter.canonicalizes_of_height (by decide) ?_
    simp [storedPayloadItems, Json.encodable, Json.encodableFields, intPrintable_one]

/-! ### Its transactions -/

/-- The columns of the run, `payload` and `payload_sha256` and `signature_…`. -/
def row : ArtifactRow := ⟨tenant, 1, .obj (storedRunItems "baseline"), runDigest.val, envelope⟩

def entry : LedgerRow := ⟨fields, tenant, entryDigest⟩

/-- The run is saved. -/
def savedDb : Database := Database.empty.saved .run [row] [entry]

def checkpoint : SignedLedgerCheckpoint :=
  ⟨payload, checkpointDigest, ⟨"portfolio-2026-07", by decide⟩, checkpointSignature, by decide⟩

/-- The checkpoint is created. -/
def anchoredDb : Database :=
  { savedDb with checkpoints := [CheckpointRow.ofCheckpoint checkpoint (.obj storedPayloadItems)] }

/-- The sample key signs the run's digest with the first of its two texts. -/
theorem signature_run : signature (signatureMessage "run" 1 runDigest.val) = runSignature := by
  unfold signature
  exact if_pos rfl

/-- The sample key signs the checkpoint's digest with the other one. -/
theorem signature_checkpoint :
    signature (signatureMessage "ledger_checkpoint" 2 checkpointDigest.val) =
      checkpointSignature := by
  have hne : signatureMessage "ledger_checkpoint" 2 checkpointDigest.val ≠
      signatureMessage "run" 1 runDigest.val := fun h => by
    have hkind := (signatureMessage_inj (by decide) (by decide) h).1
    simp at hkind
  unfold signature
  exact (if_neg hne).trans (if_pos rfl)

/-- The digest is computed from the canonical text, which is within the limits. -/
theorem digest_run : artifactDigest platform.toCrypto (.obj (runItems "baseline")) =
    .ok runDigest := artifactDigest_ok.mpr ⟨rfl, sha256_run⟩

/-- The digest of the checkpoint's payload is computed likewise. -/
theorem digest_payload : checkpointPayloadDigest platform payload = .ok checkpointDigest :=
  artifactDigest_ok.mpr ⟨Interpreter.canonicalizes_of_height (by decide) <| by
    simp [LedgerCheckpointPayload.items, Json.encodable, Json.encodableFields, payload,
      intPrintable_one], sha256_checkpoint⟩

/-- The keyring signs the run with its private key. -/
theorem sign_run : keyring.sign "run" 1 runDigest.val = .ok runSignature :=
  congrArg Except.ok signature_run

/-- The keyring signs the checkpoint with the same key. -/
theorem sign_checkpoint : keyring.sign "ledger_checkpoint" 2 checkpointDigest.val =
    .ok checkpointSignature := congrArg Except.ok signature_checkpoint

/-- Saving the run into an empty store leaves its row and the first entry. -/
theorem saveRun_empty : saveRun platform (some keyring) tenant 1 (.obj (runItems "baseline")) .empty =
    .ok savedDb := by
  have hentry : nextEntry platform.toCrypto tenant .run 1 runDigest envelope none = entry :=
    congrArg (LedgerRow.mk fields tenant) sha256_entry
  have hledger : appendLedgerValues platform.toCrypto tenant .run 1 runDigest envelope .empty =
      .ok [entry] := congrArg (fun e => Except.ok [e]) hentry
  have hstored : platform.jsonb (.obj (runItems "baseline")) =
      some (.obj (storedRunItems "baseline")) := (congrFun platform_jsonb _).trans jsonb_run
  have hwrite : upsertRow row (Database.empty.artifacts .run) = .ok [row] := rfl
  exact saveArtifact_of_steps digest_run (signArtifact_of_sign sign_run) hstored hwrite hledger

/-- The head of the ledger is the run's entry. -/
theorem ledgerHead_savedDb : ledgerHead savedDb tenant = (1, entryDigest) := by
  have hledger : savedDb.ledgerOf tenant = [entry] := by
    simp [Database.ledgerOf, savedDb, entry]
  unfold ledgerHead
  rw [hledger]
  rfl

/-- The checkpoint's row is inserted under the signature. -/
theorem insertCheckpoint_savedDb :
    insertCheckpoint platform keyring "portfolio-2026-07" payload savedDb =
      .ok (checkpoint, anchoredDb) := by
  have hstored : platform.jsonb (payload.dump platform) = some (.obj storedPayloadItems) :=
    (congrFun platform_jsonb _).trans ((jsonb_payload payload).trans (if_pos rfl))
  exact insertCheckpoint_of_steps digest_payload sign_checkpoint checkpoint.ofColumns_self hstored
    fun c hc => by cases hc

/-- Creating a checkpoint of the head, retained for a year, inserts that row. -/
theorem createLedgerCheckpoint_savedDb (lookupNow : Timestamp) :
    createLedgerCheckpoint platform (some keyring) tenant 365 lookupNow 1767225720000000 2 savedDb =
      .ok (checkpoint, anchoredDb) :=
  createLedgerCheckpoint_of_steps (by decide) rfl rfl ledgerHead_savedDb rfl (by decide)
    insertCheckpoint_savedDb

/-- The two transactions. -/
def txns : List (Transaction platform) :=
  [.saveRun (some keyring) tenant 1 (.obj (runItems "baseline")),
    .createLedgerCheckpoint (some keyring) tenant 365 1767225720000000 1767225720000000 2]

/-- The worked store is what the two transactions leave. -/
theorem run_txns : Runs.run commit .empty txns = anchoredDb := by
  have hsave : commit .empty (.saveRun (some keyring) tenant 1 (.obj (runItems "baseline"))) =
      savedDb := commit_of_ok saveRun_empty
  have hcreate : commit savedDb (.createLedgerCheckpoint (some keyring) tenant 365 1767225720000000
      1767225720000000 2) = anchoredDb :=
    commit_of_ok (Transaction.perform_create (createLedgerCheckpoint_savedDb _))
  rw [txns, Runs.run_cons, Runs.run_cons, hsave, hcreate, Runs.run_nil]

/-- Both transactions are made with the one keyring. -/
theorem txns_covered : ∀ txn ∈ txns, ∀ K, txn.keyring = some K → keyring.Covers K := by
  intro txn htxn K hK
  obtain rfl : keyring = K := by
    simp only [txns, List.mem_cons, List.not_mem_nil, or_false] at htxn
    rcases htxn with rfl | rfl
    · exact Option.some.inj hK
    · exact Option.some.inj hK
  exact ArtifactKeyring.Covers.refl _

end Sample

end AEControl.Evidence
