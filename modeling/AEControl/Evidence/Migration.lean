/-
  `_initialize_schema`, the part that migrates evidence: missing digests, old HMAC columns, missing
  tenants, and the ledger of what is not in it yet.

  The order matters, for the ledger hashes what the steps before it write.

  Structure of the proof:
  1. the steps before the ledger come to one map over the rows (`migratedRow`, `prepare_ok`): a row
     gets the digest of its payload if it has none, the envelope of its old HMAC columns, and the
     default tenant;
  2. the ledger is a fold over the artifacts in `ORDER BY` order.  **The crux**, `appendEvent_ok`:
     one turn keeps every tenant's chain, extends it at its end only and leaves the artifact
     recorded, so the fold does (`backfill_ok`, by induction on the artifacts that are left);
  3. what is recorded is never appended again (`appendEvent_recorded`), which is why a second run
     changes nothing (`Settled`, `initializeSchema_settled`);
  4. `initializeSchema_builds_ledger` starts from any database of an earlier release that has a
     valid ledger of some of its artifacts (`WellFormed`, `ValidLedger`).
-/
import AEControl.Evidence.Replicas

namespace AEControl.Evidence.Migration

open HashChain Table

/-! ## Schemas of any release -/

/-- A row of an artifact table as some release left it. -/
structure LegacyRow where
  tenantId : Option TenantId
  artifactId : UUID
  /-- `completed_at` of a run, `created_at` of the others. -/
  eventAt : Timestamp
  /-- `baseline_run_id` and `candidate_run_id` of a comparison. -/
  runIds : List UUID
  payload : Json
  payloadSha256 : Option String
  signatureHmacSha256 : Option String
  envelope : Envelope

/-- The evidence tables of one schema, all tenants together. -/
structure SchemaDatabase where
  artifacts : ArtifactKind → List LegacyRow
  ledger : List LedgerRow
  checkpoints : List CheckpointRow
  /-- The row of `schema_metadata`. -/
  schemaVersion : Option ℕ

/-- What makes the initialization raise. -/
inductive MigrationError where
  /-- What `artifact_digest` raises. -/
  | evidence (error : EvidenceError)
  | checkViolation
  | foreignKeyViolation
  | runtimeError (message : String)
  deriving DecidableEq

/-- The tenant of rows without one. -/
def defaultTenant : TenantId := ⟨"default", isTenantId_default⟩

/-- A row as the store of this release reads it. -/
def LegacyRow.toArtifactRow (row : LegacyRow) : ArtifactRow :=
  ⟨row.tenantId.getD defaultTenant, row.artifactId, row.payload, row.payloadSha256.getD "None",
    row.envelope⟩

/-- The database as the store of this release reads it. -/
def SchemaDatabase.toDatabase (db : SchemaDatabase) : Database :=
  ⟨fun kind => (db.artifacts kind).map LegacyRow.toArtifactRow, db.ledger, db.checkpoints⟩

variable (C : Crypto)

/-! ## The steps -/

/-- `artifact_digest` for a row without a digest. -/
def backfillDigest (row : LegacyRow) : Except MigrationError LegacyRow :=
  match row.payloadSha256 with
  | some _ => .ok row
  | none =>
    match artifactDigest C row.payload with
    | .ok digest => .ok { row with payloadSha256 := some digest.val }
    | .error e => .error (.evidence e)

/-- `_backfill_artifact_digests`: the digest of guardrail evidence was never optional. -/
def backfillArtifactDigests (db : SchemaDatabase) : Except MigrationError SchemaDatabase := do
  let runs ← (db.artifacts .run).mapM (backfillDigest C)
  let comparisons ← (db.artifacts .comparison).mapM (backfillDigest C)
  .ok { db with artifacts := fun
    | .run => runs
    | .comparison => comparisons
    | .guardrailEvidence => db.artifacts .guardrailEvidence }

/-- `WHERE signature_algorithm IS NULL AND signature_value IS NULL AND …`. -/
def LegacyRow.isOldStyle (row : LegacyRow) : Bool :=
  row.envelope.algorithm.isNone && row.envelope.value.isNone && row.envelope.keyId.isSome &&
    row.signatureHmacSha256.isSome

/-- The `UPDATE` of `_migrate_signature_envelopes` on one row. -/
def migrateEnvelope (row : LegacyRow) : LegacyRow :=
  if row.isOldStyle then
    { row with envelope := ⟨some SignatureAlgorithm.hmacSha256.value, row.envelope.keyId,
        row.signatureHmacSha256⟩ }
  else row

/-- `_migrate_signature_envelopes`. -/
def migrateSignatureEnvelopes (db : SchemaDatabase) : SchemaDatabase :=
  { db with artifacts := fun kind => (db.artifacts kind).map migrateEnvelope }

/-- `SET tenant_id = 'default' WHERE tenant_id IS NULL` on one row. -/
def setTenant (row : LegacyRow) : LegacyRow :=
  { row with tenantId := some (row.tenantId.getD defaultTenant) }

/-- The foreign keys of comparisons on the runs of their tenant. -/
def referencesRuns (artifacts : ArtifactKind → List LegacyRow) : Bool :=
  (artifacts .comparison).all fun c => c.runIds.all fun id =>
    (artifacts .run).any fun r => r.tenantId = c.tenantId && r.artifactId = id

/-- `_enable_tenant_isolation`. -/
def enableTenantIsolation (db : SchemaDatabase) : Except MigrationError SchemaDatabase :=
  let artifacts := fun kind => (db.artifacts kind).map setTenant
  if referencesRuns artifacts then .ok { db with artifacts := artifacts }
  else .error .foreignKeyViolation

/-- The `ORDER BY` of the ledger backfill; texts are compared by the database's collation. -/
def eventLe (collate : String → String → Bool) (a b : ArtifactKind × LegacyRow) : Bool :=
  let tenant := fun e : ArtifactKind × LegacyRow => (e.2.tenantId.getD defaultTenant).val
  if tenant a ≠ tenant b then collate (tenant a) (tenant b)
  else if a.2.eventAt ≠ b.2.eventAt then a.2.eventAt < b.2.eventAt
  else if a.1 ≠ b.1 then collate a.1.value b.1.value
  else a.2.artifactId ≤ b.2.artifactId

/-- The `UNION ALL` of the artifact tables, in order. -/
def artifactEvents (collate : String → String → Bool) (db : SchemaDatabase) :
    List (ArtifactKind × LegacyRow) :=
  (([.run, .comparison, .guardrailEvidence] : List ArtifactKind).flatMap fun kind =>
    (db.artifacts kind).map fun row => (kind, row)).insertionSort
      fun a b => eventLe collate a b = true

/-- A tenant's entries, `ORDER BY sequence`. -/
def tenantLedger (ledger : List LedgerRow) (t : TenantId) : List LedgerRow :=
  (ledger.filter fun r => r.tenantId = t).insertionSort fun r r' => r.sequence ≤ r'.sequence

/-- `_append_ledger_values` without `require_match`. -/
def appendEvent (ledger : List LedgerRow) (event : ArtifactKind × LegacyRow) :
    Except MigrationError (List LedgerRow) :=
  match event.2.tenantId with
  | none => .error .checkViolation
  | some t =>
    match Table.lookup LedgerRow.key (t, event.1, event.2.artifactId) ledger with
    | some _ => .ok ledger
    | none =>
      match event.2.payloadSha256 with
      | none => .error .checkViolation
      | some digest =>
        if h : isHexDigest digest = true then
          .ok (ledger ++ [nextEntry C t event.1 event.2.artifactId ⟨digest, h⟩ event.2.envelope
            (tenantLedger ledger t).getLast?])
        else .error .checkViolation

/-- `_backfill_artifact_ledger`. -/
def backfillArtifactLedger (collate : String → String → Bool) (db : SchemaDatabase) :
    Except MigrationError SchemaDatabase := do
  let ledger ← (artifactEvents collate db).foldlM (appendEvent C) db.ledger
  .ok { db with ledger := ledger }

/-- `SCHEMA_VERSION`. -/
def currentVersion : ℕ := 18

/-- The version the schema has afterwards. -/
def migrateVersion : Option ℕ → Except MigrationError ℕ
  | none => .ok currentVersion
  | some stored =>
    if 1 ≤ stored ∧ stored ≤ currentVersion then .ok currentVersion
    else .error (.runtimeError ("unsupported database schema version: " ++ toString stored))

/-- `_initialize_schema`; what raises is rolled back as a whole. -/
def initializeSchema (collate : String → String → Bool) (db : SchemaDatabase) :
    Except MigrationError SchemaDatabase := do
  let db ← backfillArtifactDigests C db
  let db ← enableTenantIsolation (migrateSignatureEnvelopes db)
  let db ← backfillArtifactLedger C collate db
  let db ← enableTenantIsolation db
  let version ← migrateVersion db.schemaVersion
  .ok { db with schemaVersion := some version }

/-! ## The rows -/

variable {C}

/-- The row with the digest it has, or that of its payload. -/
def withDigest (C : Crypto) (row : LegacyRow) : LegacyRow := { row with
  payloadSha256 := some (row.payloadSha256.getD (C.sha256 row.payload.canonicalText).val) }

/-- What the steps before the ledger make of a row. -/
def migratedRow (C : Crypto) (row : LegacyRow) : LegacyRow :=
  setTenant (migrateEnvelope (withDigest C row))

/-- What a database of an earlier release satisfies: its keys and foreign keys, digests that are
    digests where there are any, payloads that can be hashed where there are none. -/
structure WellFormed (C : Crypto) (db : SchemaDatabase) : Prop where
  keyed : ∀ kind, Keyed LegacyRow.artifactId (db.artifacts kind)
  canonical : ∀ kind, ∀ row ∈ db.artifacts kind, row.payloadSha256 = none →
    C.canonicalizes row.payload = true
  digests : ∀ kind, ∀ row ∈ db.artifacts kind, ∀ digest, row.payloadSha256 = some digest →
    isHexDigest digest = true
  /-- `payload_sha256 TEXT NOT NULL` of `guardrail_evidence`. -/
  guardrail_digest : ∀ row ∈ db.artifacts .guardrailEvidence, row.payloadSha256 ≠ none
  references : ∀ c ∈ db.artifacts .comparison, ∀ id ∈ c.runIds, ∃ r ∈ db.artifacts .run,
    r.artifactId = id ∧ r.tenantId.getD defaultTenant = c.tenantId.getD defaultTenant
  version : ∀ v, db.schemaVersion = some v → 1 ≤ v ∧ v ≤ currentVersion

/-- The columns of a migrated row: what is not missing stays. -/
theorem migratedRow_columns (C : Crypto) (row : LegacyRow) :
    (migratedRow C row).artifactId = row.artifactId ∧
      (migratedRow C row).tenantId = some (row.tenantId.getD defaultTenant) ∧
      (migratedRow C row).payload = row.payload ∧ (migratedRow C row).runIds = row.runIds ∧
      (migratedRow C row).payloadSha256 =
        some (row.payloadSha256.getD (C.sha256 row.payload.canonicalText).val) ∧
      (row.isOldStyle = false → (migratedRow C row).envelope = row.envelope) ∧
      (migratedRow C row).isOldStyle = false := by
  unfold migratedRow
  refine ⟨?_, ?_, ?_, ?_, ?_, ?_, ?_⟩
  all_goals
    unfold migrateEnvelope LegacyRow.isOldStyle setTenant withDigest
    simp only
    split_ifs with hold
  all_goals simp_all

theorem backfillDigest_ok {row : LegacyRow}
    (h : row.payloadSha256 = none → C.canonicalizes row.payload = true) :
    backfillDigest C row = .ok (withDigest C row) := by
  unfold backfillDigest withDigest
  cases hsha : row.payloadSha256 with
  | some digest =>
    refine congrArg Except.ok ?_
    rw [Option.getD_some, ← hsha]
  | none =>
    have hdigest : artifactDigest C row.payload = .ok (C.sha256 row.payload.canonicalText) :=
      artifactDigest_of (h hsha)
    simp only [hdigest, Option.getD_none]

/-- The references hold of the migrated rows if they hold of the old ones. -/
theorem referencesRuns_migrated {db : SchemaDatabase} (hwf : WellFormed C db) :
    referencesRuns (fun kind => (db.artifacts kind).map (migratedRow C)) = true := by
  refine List.all_eq_true.mpr fun c' hc' => List.all_eq_true.mpr fun id hid => ?_
  obtain ⟨c, hc, rfl⟩ := List.mem_map.mp hc'
  obtain ⟨-, hctenant, -, hcids, -⟩ := migratedRow_columns C c
  rw [hcids] at hid
  obtain ⟨r, hr, hrid, hrtenant⟩ := hwf.references c hc id hid
  obtain ⟨hid', htenant', -⟩ := migratedRow_columns C r
  refine List.any_eq_true.mpr ⟨migratedRow C r, List.mem_map_of_mem hr, ?_⟩
  rw [htenant', hid', hctenant, hrtenant, hrid]
  simp

/-- **The steps before the ledger are one map over the rows.** -/
theorem prepare_ok {db : SchemaDatabase} (hwf : WellFormed C db) :
    ∃ db₀, backfillArtifactDigests C db = .ok db₀ ∧
      enableTenantIsolation (migrateSignatureEnvelopes db₀) =
        .ok { db with artifacts := fun kind => (db.artifacts kind).map (migratedRow C) } := by
  have htable : ∀ kind, (db.artifacts kind).mapM (backfillDigest C) =
      .ok ((db.artifacts kind).map (withDigest C)) := fun kind =>
    Raising.mapM_eq_map fun row hrow => backfillDigest_ok (hwf.canonical kind row hrow)
  -- guardrail evidence has its digests already
  have hguardrail : (db.artifacts .guardrailEvidence).map (withDigest C) =
      db.artifacts .guardrailEvidence := by
    conv_rhs => rw [← List.map_id (db.artifacts .guardrailEvidence)]
    refine List.map_congr_left fun row hrow => ?_
    obtain ⟨digest, hdigest⟩ :=
      Option.ne_none_iff_exists'.mp (hwf.guardrail_digest row hrow)
    show { row with payloadSha256 := some (row.payloadSha256.getD _) } = row
    rw [hdigest, Option.getD_some, ← hdigest]
  refine ⟨{ db with artifacts := fun kind => (db.artifacts kind).map (withDigest C) }, ?_, ?_⟩
  · unfold backfillArtifactDigests
    rw [htable, htable]
    refine congrArg Except.ok ?_
    refine (SchemaDatabase.mk.injEq ..).mpr ⟨?_, rfl, rfl, rfl⟩
    funext kind
    cases kind with
    | run => rfl
    | comparison => rfl
    | guardrailEvidence => exact hguardrail.symm
  · have hrows : (fun kind => (((db.artifacts kind).map (withDigest C)).map migrateEnvelope).map
        setTenant) = fun kind => (db.artifacts kind).map (migratedRow C) := by
      funext kind
      rw [List.map_map, List.map_map]
      rfl
    unfold enableTenantIsolation migrateSignatureEnvelopes
    simp only
    rw [hrows, if_pos (referencesRuns_migrated hwf)]

/-! ## One turn of the ledger backfill -/

/-- The entry repeats the tenant, identifier, digest and envelope of a row. -/
structure EntryOf (e : LedgerRow) (row : LegacyRow) : Prop where
  tenant : row.tenantId = some e.tenantId
  id : row.artifactId = e.artifactId
  digest : row.payloadSha256 = some e.payloadSha256.val
  envelope : row.envelope = e.envelope

/-- Rows the ledger can be built from: keyed, with their tenants and digests. -/
structure Ready (db : SchemaDatabase) : Prop where
  keyed : ∀ kind, Keyed LegacyRow.artifactId (db.artifacts kind)
  tenant : ∀ kind, ∀ row ∈ db.artifacts kind, ∃ t, row.tenantId = some t
  digest : ∀ kind, ∀ row ∈ db.artifacts kind, ∃ d : HexDigest, row.payloadSha256 = some d.val

/-- **A valid ledger** of some of the artifacts. -/
structure LedgerFor (C : Crypto) (artifacts : ArtifactKind → List LegacyRow)
    (ledger : List LedgerRow) : Prop where
  keyed : Keyed LedgerRow.key ledger
  linked : ∀ t, LinkedFrom (ledgerReader C t) 1 ledgerGenesisSha256 (tenantLedger ledger t)
  covers : ∀ e ∈ ledger, ∃ row ∈ artifacts e.artifactType, EntryOf e row

theorem mem_tenantLedger {ledger : List LedgerRow} {t : TenantId} {e : LedgerRow} :
    e ∈ tenantLedger ledger t ↔ e ∈ ledger ∧ e.tenantId = t := by
  simp [tenantLedger, List.mem_insertionSort]

/-- The entry that follows a tenant's ledger is read at its end, and by that tenant only. -/
theorem tenantLedger_append {C : Crypto} {ledger : List LedgerRow} {t : TenantId}
    (hlinked : LinkedFrom (ledgerReader C t) 1 ledgerGenesisSha256 (tenantLedger ledger t))
    (kind : ArtifactKind) (id : UUID) (digest : HexDigest) (envelope : Envelope) (t' : TenantId) :
    tenantLedger (ledger ++ [nextEntry C t kind id digest envelope
        (tenantLedger ledger t).getLast?]) t' =
      if t' = t then tenantLedger ledger t ++ [nextEntry C t kind id digest envelope
        (tenantLedger ledger t).getLast?] else tenantLedger ledger t' := by
  generalize hentry : nextEntry C t kind id digest envelope (tenantLedger ledger t).getLast? = e
  have htenant : e.tenantId = t := by
    rw [← hentry]
    rfl
  have hnext : e.sequence = 1 + (tenantLedger ledger t).length := by
    have hgrown : LinkedFrom (ledgerReader C t) 1 ledgerGenesisSha256 (tenantLedger ledger t ++
        [nextEntry C t kind id digest envelope (tenantLedger ledger t).getLast?]) :=
      linked_nextEntry hlinked
    rw [hentry] at hgrown
    exact (linkedFrom_append_one.mp hgrown).2.1
  unfold tenantLedger
  rw [List.filter_append]
  split_ifs with ht
  · subst ht
    rw [List.filter_cons_of_pos (by simpa using htenant), List.filter_nil,
      insertionSort_append_one]
    -- every number of the chain is at most its length
    intro x hx
    obtain ⟨hx, hxt⟩ := List.mem_filter.mp hx
    obtain ⟨i, hi, -, hseq⟩ :=
      hlinked.exists_getElem (mem_tenantLedger.mpr ⟨hx, of_decide_eq_true hxt⟩)
    have hseq : x.sequence = 1 + i := hseq
    omega
  · have hne : e.tenantId ≠ t' := fun h => ht (h.symm.trans htenant)
    rw [List.filter_cons_of_neg (by simpa using hne), List.filter_nil, List.append_nil]

theorem EntryOf.key_eq {e : LedgerRow} {row : LegacyRow} (h : EntryOf e row) {t : TenantId}
    (ht : row.tenantId = some t) : e.key = (t, e.artifactType, row.artifactId) := by
  have htenant : e.tenantId = t := Option.some.inj (h.tenant.symm.trans ht)
  rw [LedgerRow.key, htenant, h.id]

/-- **One turn of the backfill.**  It returns, every tenant's chain grows at its end at most, and
    the artifact is recorded as it stands. -/
theorem appendEvent_ok {db : SchemaDatabase} (hready : Ready db) {ledger : List LedgerRow}
    (hledger : LedgerFor C db.artifacts ledger) {kind : ArtifactKind} {row : LegacyRow}
    (hrow : row ∈ db.artifacts kind) :
    ∃ ledger', appendEvent C ledger (kind, row) = .ok ledger' ∧
      LedgerFor C db.artifacts ledger' ∧
      (∀ t, tenantLedger ledger t <+: tenantLedger ledger' t) ∧ ledger <+: ledger' ∧
      ∃ e ∈ ledger', e.artifactType = kind ∧ EntryOf e row := by
  obtain ⟨t, ht⟩ := hready.tenant kind row hrow
  obtain ⟨digest, hdigest⟩ := hready.digest kind row hrow
  unfold appendEvent
  simp only [ht]
  cases hlookup : lookup LedgerRow.key (t, kind, row.artifactId) ledger with
  | some e =>
    -- the entry is that of the row: identifiers are keys
    obtain ⟨he, hkey⟩ := lookup_some hlookup
    obtain ⟨-, hkind, hid⟩ : e.tenantId = t ∧ e.artifactType = kind ∧
        e.artifactId = row.artifactId := by simpa [LedgerRow.key] using hkey
    obtain ⟨row', hrow', hentry⟩ := hledger.covers e he
    rw [hkind] at hrow'
    obtain rfl : row' = row :=
      (hready.keyed kind).eq_of_key hrow' hrow (hentry.id.trans hid)
    exact ⟨ledger, rfl, hledger, fun _ => List.prefix_refl _, List.prefix_refl _, e, he, hkind,
      hentry⟩
  | none =>
    simp only [hdigest, digest.property, dif_pos]
    refine ⟨_, rfl, ?_⟩
    have happend := tenantLedger_append (hledger.linked t) kind row.artifactId digest row.envelope
    have hgrown : LinkedFrom (ledgerReader C t) 1 ledgerGenesisSha256 (tenantLedger ledger t ++
        [nextEntry C t kind row.artifactId digest row.envelope
          (tenantLedger ledger t).getLast?]) := linked_nextEntry (hledger.linked t)
    generalize hentry : nextEntry C t kind row.artifactId digest row.envelope
      (tenantLedger ledger t).getLast? = e at happend hgrown
    have hof : e.artifactType = kind ∧ EntryOf e row := by
      rw [← hentry]
      exact ⟨rfl, ht, rfl, hdigest, rfl⟩
    refine ⟨⟨?_, ?_, ?_⟩, ?_, List.prefix_append _ _, e, List.mem_append_right _
      (List.mem_singleton.mpr rfl), hof⟩
    · refine hledger.keyed.append_one fun x hx hkey => ?_
      rw [hof.2.key_eq ht, hof.1] at hkey
      exact lookup_none.mp hlookup x hx hkey
    · intro t'
      rw [happend]
      split_ifs with ht'
      · rw [ht']
        exact hgrown
      · exact hledger.linked t'
    · intro x hx
      rcases List.mem_append.mp hx with hx | hx
      · exact hledger.covers x hx
      · obtain rfl := List.mem_singleton.mp hx
        exact ⟨row, hof.1.symm ▸ hrow, hof.2⟩
    · intro t'
      rw [happend]
      split_ifs with ht'
      · rw [ht']
        exact List.prefix_append _ _
      · exact List.prefix_refl _

/-- A recorded artifact is not appended again. -/
theorem appendEvent_recorded {ledger : List LedgerRow} (hkeyed : Keyed LedgerRow.key ledger)
    {kind : ArtifactKind} {row : LegacyRow} {e : LedgerRow} (he : e ∈ ledger)
    (hkind : e.artifactType = kind) (hentry : EntryOf e row) :
    appendEvent C ledger (kind, row) = .ok ledger := by
  have hlookup : lookup LedgerRow.key (e.tenantId, kind, row.artifactId) ledger = some e := by
    rw [← hkind, ← hentry.key_eq hentry.tenant]
    exact lookup_of_mem hkeyed he
  unfold appendEvent
  simp only [hentry.tenant, hlookup]

/-! ## The ledger backfill -/

theorem mem_artifactEvents {collate : String → String → Bool} {db : SchemaDatabase}
    {event : ArtifactKind × LegacyRow} :
    event ∈ artifactEvents collate db ↔ event.2 ∈ db.artifacts event.1 := by
  obtain ⟨kind, row⟩ := event
  unfold artifactEvents
  rw [List.mem_insertionSort]
  cases kind <;> simp

/-- **The backfill** by induction on the artifacts that are left. -/
theorem backfill_ok {db : SchemaDatabase} (hready : Ready db)
    {events : List (ArtifactKind × LegacyRow)}
    (hevents : ∀ event ∈ events, event.2 ∈ db.artifacts event.1) {ledger : List LedgerRow}
    (hledger : LedgerFor C db.artifacts ledger) :
    ∃ ledger', events.foldlM (appendEvent C) ledger = .ok ledger' ∧
      LedgerFor C db.artifacts ledger' ∧
      (∀ t, tenantLedger ledger t <+: tenantLedger ledger' t) ∧ ledger <+: ledger' ∧
      ∀ event ∈ events, ∃ e ∈ ledger', e.artifactType = event.1 ∧ EntryOf e event.2 := by
  induction events generalizing ledger with
  | nil =>
    exact ⟨ledger, rfl, hledger, fun _ => List.prefix_refl _, List.prefix_refl _,
      fun _ h => by cases h⟩
  | cons event events ih =>
    obtain ⟨hevent, hrest⟩ := List.forall_mem_cons.mp hevents
    obtain ⟨ledger₁, hstep, hledger₁, hgrows₁, hkeeps₁, e, he, hof⟩ :=
      appendEvent_ok hready hledger hevent
    obtain ⟨ledger₂, hfold, hledger₂, hgrows₂, hkeeps₂, hall⟩ := ih hrest hledger₁
    refine ⟨ledger₂, ?_, hledger₂, fun t => (hgrows₁ t).trans (hgrows₂ t), hkeeps₁.trans hkeeps₂,
      List.forall_mem_cons.mpr ⟨⟨e, hkeeps₂.subset he, hof⟩, hall⟩⟩
    rw [List.foldlM_cons, hstep]
    exact hfold

/-- Where every artifact is recorded, the backfill appends nothing. -/
theorem backfill_recorded {ledger : List LedgerRow} (hkeyed : Keyed LedgerRow.key ledger)
    {events : List (ArtifactKind × LegacyRow)}
    (h : ∀ event ∈ events, ∃ e ∈ ledger, e.artifactType = event.1 ∧ EntryOf e event.2) :
    events.foldlM (appendEvent C) ledger = .ok ledger := by
  induction events with
  | nil => rfl
  | cons event events ih =>
    obtain ⟨⟨e, he, hkind, hentry⟩, hrest⟩ := List.forall_mem_cons.mp h
    have hstep : appendEvent C ledger event = .ok ledger :=
      appendEvent_recorded hkeyed he hkind hentry
    rw [List.foldlM_cons, hstep]
    exact ih hrest

/-! ## A schema that is up to date -/

/-- Nothing is left to migrate. -/
structure Settled (db : SchemaDatabase) : Prop where
  ready : Ready db
  envelopes : ∀ kind, ∀ row ∈ db.artifacts kind, row.isOldStyle = false
  references : referencesRuns db.artifacts = true
  entries_keyed : Keyed LedgerRow.key db.ledger
  recorded : ∀ kind, ∀ row ∈ db.artifacts kind, ∃ e ∈ db.ledger, e.artifactType = kind ∧
    EntryOf e row
  version : db.schemaVersion = some currentVersion

/-- Tables whose rows a step leaves alone are left alone. -/
theorem map_artifacts_eq {artifacts : ArtifactKind → List LegacyRow} {f : LegacyRow → LegacyRow}
    (h : ∀ kind, ∀ row ∈ artifacts kind, f row = row) :
    (fun kind => (artifacts kind).map f) = artifacts := by
  funext kind
  conv_rhs => rw [← List.map_id (artifacts kind)]
  exact List.map_congr_left fun row hrow => h kind row hrow

theorem enableTenantIsolation_ready {db : SchemaDatabase} (hready : Ready db)
    (hreferences : referencesRuns db.artifacts = true) : enableTenantIsolation db = .ok db := by
  have hrows : (fun kind => (db.artifacts kind).map setTenant) = db.artifacts :=
    map_artifacts_eq fun kind row hrow => by
      obtain ⟨t, ht⟩ := hready.tenant kind row hrow
      unfold setTenant
      rw [ht, Option.getD_some, ← ht]
  unfold enableTenantIsolation
  simp only [hrows]
  rw [if_pos hreferences]

/-- **A second initialization changes nothing.** -/
theorem initializeSchema_settled {collate : String → String → Bool} {db : SchemaDatabase}
    (h : Settled db) : initializeSchema C collate db = .ok db := by
  -- each part of the migration finds its work done
  have hdigests : backfillArtifactDigests C db = .ok db := by
    have htable : ∀ kind, (db.artifacts kind).mapM (backfillDigest C) =
        .ok ((db.artifacts kind).map id) := fun kind =>
      Raising.mapM_eq_map fun row hrow => by
        obtain ⟨digest, hdigest⟩ := h.ready.digest kind row hrow
        unfold backfillDigest
        rw [hdigest]
        rfl
    unfold backfillArtifactDigests
    rw [htable, htable, List.map_id, List.map_id]
    refine congrArg Except.ok ((SchemaDatabase.mk.injEq ..).mpr ⟨?_, rfl, rfl, rfl⟩)
    funext kind
    cases kind <;> rfl
  have henvelopes : migrateSignatureEnvelopes db = db := by
    have hrows : (fun kind => (db.artifacts kind).map migrateEnvelope) = db.artifacts :=
      map_artifacts_eq fun kind row hrow => by
        unfold migrateEnvelope
        rw [h.envelopes kind row hrow]
        rfl
    unfold migrateSignatureEnvelopes
    rw [hrows]
  have htenants := enableTenantIsolation_ready h.ready h.references
  have hledger : backfillArtifactLedger C collate db = .ok db := by
    have hfold : (artifactEvents collate db).foldlM (appendEvent C) db.ledger = .ok db.ledger :=
      backfill_recorded h.entries_keyed fun event hevent =>
        h.recorded event.1 event.2 (mem_artifactEvents.mp hevent)
    unfold backfillArtifactLedger
    rw [hfold]
    rfl
  have hversion : migrateVersion db.schemaVersion = .ok currentVersion := by
    rw [h.version]
    rfl
  unfold initializeSchema
  simp only [hdigests, henvelopes, htenants, hledger, hversion, bind, Except.bind, ← h.version]

/-! ## The migration -/

/-- A valid ledger of some artifacts, each with a digest and no envelope of the old style. -/
structure ValidLedger (C : Crypto) (db : SchemaDatabase) : Prop where
  keyed : Keyed LedgerRow.key db.ledger
  linked : ∀ t, LinkedFrom (ledgerReader C t) 1 ledgerGenesisSha256 (tenantLedger db.ledger t)
  covers : ∀ e ∈ db.ledger, ∃ row ∈ db.artifacts e.artifactType,
    row.tenantId.getD defaultTenant = e.tenantId ∧ row.artifactId = e.artifactId ∧
      row.payloadSha256 = some e.payloadSha256.val ∧ row.envelope = e.envelope ∧
      row.isOldStyle = false

/-- What the initialization promises a tenant. -/
structure LedgerBuilt (C : Crypto) (db db' : SchemaDatabase) (t : TenantId) : Prop where
  /-- The audit of this release finds nothing wrong with the ledger. -/
  audited : ledgerFailures C t (sourceEnvelope fun kind => db'.toDatabase.rowsOf t kind) 1
    ledgerGenesisSha256 (db'.toDatabase.ledgerOf t) = []
  extended : db.toDatabase.ledgerOf t <+: db'.toDatabase.ledgerOf t
  recorded : ∀ kind, ∀ row ∈ db'.toDatabase.rowsOf t kind, ∃ e,
    (db'.toDatabase.ledgerOf t).filter
        (fun e => e.artifactType = kind ∧ e.artifactId = row.artifactId) = [e] ∧
      e.payloadSha256.val = row.payloadSha256 ∧ e.envelope = row.envelope

theorem ready_migrated {db : SchemaDatabase} (hwf : WellFormed C db) (ledger : List LedgerRow)
    (version : Option ℕ) : Ready ⟨fun kind => (db.artifacts kind).map (migratedRow C), ledger,
      db.checkpoints, version⟩ := by
  refine ⟨fun kind => ?_, fun kind row' hrow' => ?_, fun kind row' hrow' => ?_⟩
  · have hids : ((db.artifacts kind).map (migratedRow C)).map LegacyRow.artifactId =
        (db.artifacts kind).map LegacyRow.artifactId := by
      rw [List.map_map]
      exact List.map_congr_left fun row _ => (migratedRow_columns C row).1
    unfold Keyed
    rw [hids]
    exact hwf.keyed kind
  · obtain ⟨row, -, rfl⟩ := List.mem_map.mp hrow'
    exact ⟨_, (migratedRow_columns C row).2.1⟩
  · obtain ⟨row, hrow, rfl⟩ := List.mem_map.mp hrow'
    obtain ⟨-, -, -, -, hdigest, -⟩ := migratedRow_columns C row
    rw [hdigest]
    cases hsha : row.payloadSha256 with
    | none => exact ⟨_, rfl⟩
    | some digest => exact ⟨⟨digest, hwf.digests kind row hrow digest hsha⟩, rfl⟩

/-- What was recorded is not touched by the steps before the ledger. -/
theorem ledgerFor_migrated {db : SchemaDatabase} (hledger : ValidLedger C db) :
    LedgerFor C (fun kind => (db.artifacts kind).map (migratedRow C)) db.ledger := by
  refine ⟨hledger.keyed, hledger.linked, fun e he => ?_⟩
  obtain ⟨row, hrow, htenant, hid, hdigest, henvelope, hstyle⟩ := hledger.covers e he
  obtain ⟨hid', htenant', -, -, hdigest', henvelope', -⟩ := migratedRow_columns C row
  refine ⟨migratedRow C row, List.mem_map_of_mem hrow, ?_, hid'.trans hid, ?_,
    (henvelope' hstyle).trans henvelope⟩
  · rw [htenant', htenant]
  · rw [hdigest', hdigest, Option.getD_some]

theorem keyed_tenantLedger {ledger : List LedgerRow} (hkeyed : Keyed LedgerRow.key ledger)
    (t : TenantId) : Keyed LedgerRow.key (tenantLedger ledger t) := by
  have hfilter : Keyed LedgerRow.key (ledger.filter fun r => r.tenantId = t) :=
    hkeyed.sublist List.filter_sublist
  exact ((List.perm_insertionSort _ _).map LedgerRow.key).nodup_iff.mpr hfilter

/-- The identifiers a tenant sees are keys. -/
theorem keyed_rowsOf {db : SchemaDatabase} (hready : Ready db) (t : TenantId)
    (kind : ArtifactKind) : Keyed ArtifactRow.artifactId (db.toDatabase.rowsOf t kind) := by
  have hrows : Keyed ArtifactRow.artifactId (db.toDatabase.artifacts kind) := by
    show (((db.artifacts kind).map LegacyRow.toArtifactRow).map ArtifactRow.artifactId).Nodup
    rw [List.map_map]
    exact hready.keyed kind
  exact hrows.sublist List.filter_sublist

/-- The row a store of this release reads has what the entry repeats. -/
theorem EntryOf.toArtifactRow {e : LedgerRow} {row : LegacyRow} (h : EntryOf e row) :
    row.toArtifactRow.tenantId = e.tenantId ∧ row.toArtifactRow.artifactId = e.artifactId ∧
      row.toArtifactRow.payloadSha256 = e.payloadSha256.val ∧
      row.toArtifactRow.envelope = e.envelope := by
  unfold LegacyRow.toArtifactRow
  rw [h.tenant, h.digest]
  exact ⟨rfl, h.id, rfl, h.envelope⟩

/-- A valid ledger of all artifacts, grown from the old one, is what is promised. -/
theorem ledgerBuilt_of {db db' : SchemaDatabase} (hready : Ready db')
    (hledger : LedgerFor C db'.artifacts db'.ledger)
    (hgrows : ∀ t, tenantLedger db.ledger t <+: tenantLedger db'.ledger t)
    (hall : ∀ kind, ∀ row ∈ db'.artifacts kind, ∃ e ∈ db'.ledger, e.artifactType = kind ∧
      EntryOf e row) (t : TenantId) : LedgerBuilt C db db' t := by
  refine ⟨ledgerFailures_eq_nil.mpr ⟨hledger.linked t, fun e he => ?_⟩, hgrows t, ?_⟩
  · obtain ⟨he, htenant⟩ := mem_tenantLedger.mp he
    obtain ⟨row, hrow, hentry⟩ := hledger.covers e he
    obtain ⟨hrowTenant, hid, hdigest, henvelope⟩ := hentry.toArtifactRow
    have hmem : row.toArtifactRow ∈ db'.toDatabase.rowsOf t e.artifactType :=
      mem_rowsOf.mpr ⟨List.mem_map_of_mem hrow, hrowTenant.trans htenant⟩
    rw [← hid, ← hdigest, ← henvelope]
    exact sourceEnvelope_of_mem (fun kind => db'.toDatabase.rowsOf t kind)
      (keyed_rowsOf hready t e.artifactType) hmem
  · intro kind a ha
    obtain ⟨ha, htenant⟩ := mem_rowsOf.mp ha
    obtain ⟨row, hrow, rfl⟩ := List.mem_map.mp ha
    obtain ⟨e, he, hkind, hentry⟩ := hall kind row hrow
    obtain ⟨hrowTenant, hid, hdigest, henvelope⟩ := hentry.toArtifactRow
    refine ⟨e, ?_, hdigest.symm, henvelope.symm⟩
    have hmem : e ∈ tenantLedger db'.ledger t :=
      mem_tenantLedger.mpr ⟨he, hrowTenant.symm.trans htenant⟩
    show (tenantLedger db'.ledger t).filter _ = [e]
    -- an entry of the artifact has its key, and the keys are unique
    rw [← (keyed_tenantLedger hledger.keyed t).filter_eq_singleton hmem]
    refine List.filter_congr fun x hx => ?_
    rw [LedgerRow.key, LedgerRow.key, (mem_tenantLedger.mp hx).2, (mem_tenantLedger.mp hmem).2,
      hkind, hid]
    simp

/-- **Migration.**  From every database of an earlier release with a valid ledger of some of its
    artifacts, the initialization ends: the rows are migrated, every tenant's ledger extends the
    old one, passes the audit and records every artifact of the tenant once as it stands, and a
    second initialization changes nothing. -/
theorem initializeSchema_builds_ledger (collate : String → String → Bool) {db : SchemaDatabase}
    (hwf : WellFormed C db) (hledger : ValidLedger C db) :
    ∃ db', initializeSchema C collate db = .ok db' ∧
      (∀ kind, db'.artifacts kind = (db.artifacts kind).map (migratedRow C)) ∧
      db'.checkpoints = db.checkpoints ∧ (∀ t, LedgerBuilt C db db' t) ∧
      initializeSchema C collate db' = .ok db' := by
  obtain ⟨db₀, hdigests, htenants⟩ := prepare_ok (C := C) hwf
  have hevents : ∀ event ∈ artifactEvents collate
      ⟨fun kind => (db.artifacts kind).map (migratedRow C), db.ledger, db.checkpoints,
        db.schemaVersion⟩, event.2 ∈ (db.artifacts event.1).map (migratedRow C) :=
    fun event => mem_artifactEvents.mp
  -- the backfill goes over migrated rows, which have their digests
  obtain ⟨ledger, hfold, hbuilt, hgrows, -, hall⟩ :=
    backfill_ok (ready_migrated (C := C) hwf db.ledger db.schemaVersion) hevents
      (ledgerFor_migrated hledger)
  have hready := ready_migrated (C := C) hwf ledger
  have hrecorded : ∀ kind, ∀ row ∈ (db.artifacts kind).map (migratedRow C), ∃ e ∈ ledger,
      e.artifactType = kind ∧ EntryOf e row := fun kind row hrow =>
    hall (kind, row) (mem_artifactEvents.mpr hrow)
  have hversion : migrateVersion db.schemaVersion = .ok currentVersion := by
    cases hstored : db.schemaVersion with
    | none => rfl
    | some v => exact if_pos (hwf.version v hstored)
  refine ⟨⟨fun kind => (db.artifacts kind).map (migratedRow C), ledger, db.checkpoints,
    some currentVersion⟩, ?_, fun _ => rfl, rfl, ?_, ?_⟩
  · have hbackfill : backfillArtifactLedger C collate
        ⟨fun kind => (db.artifacts kind).map (migratedRow C), db.ledger, db.checkpoints,
          db.schemaVersion⟩ = .ok ⟨fun kind => (db.artifacts kind).map (migratedRow C), ledger,
            db.checkpoints, db.schemaVersion⟩ := by
      unfold backfillArtifactLedger
      rw [hfold]
      rfl
    have hagain := enableTenantIsolation_ready (hready db.schemaVersion)
      (referencesRuns_migrated hwf)
    unfold initializeSchema
    simp only [hdigests, htenants, hbackfill, hagain, hversion, bind, Except.bind]
  · exact ledgerBuilt_of (hready (some currentVersion)) hbuilt hgrows hrecorded
  · refine initializeSchema_settled ⟨hready (some currentVersion), fun kind row' hrow' => ?_,
      referencesRuns_migrated hwf, hbuilt.keyed, hrecorded, rfl⟩
    obtain ⟨row, -, rfl⟩ := List.mem_map.mp hrow'
    exact (migratedRow_columns C row).2.2.2.2.2.2

/-! ### A schema of two releases -/

namespace Sample

open Evidence.Sample

/-- The run that has its entry in the ledger. -/
def recordedRun : LegacyRow :=
  ⟨some tenant, 1, 1767225660000000, [], .obj (storedRunItems "baseline"), some runDigest.val, none,
    envelope⟩

/-- A run from before tenants and digests, with an HMAC in its old column. -/
def legacyRun : LegacyRow :=
  ⟨none, 3, 1735689600000000, [], .obj (storedRunItems "tampered"), none,
    some "6f1ed002ab5595859014ebf0951522d9", ⟨none, some "old", none⟩⟩

def legacyDb : SchemaDatabase where
  artifacts
    | .run => [recordedRun, legacyRun]
    | _ => []
  ledger := [entry]
  checkpoints := []
  schemaVersion := some 12

theorem legacyDb_wellFormed : WellFormed platform.toCrypto legacyDb where
  keyed kind := by cases kind <;> simp [Keyed, legacyDb, recordedRun, legacyRun]
  canonical kind row hrow hnone := by
    cases kind with
    | run =>
      have hcases : row = recordedRun ∨ row = legacyRun := by simpa [legacyDb] using hrow
      rcases hcases with rfl | rfl
      · cases hnone
      · rfl
    | comparison => cases hrow
    | guardrailEvidence => cases hrow
  digests kind row hrow digest hdigest := by
    cases kind with
    | run =>
      have hcases : row = recordedRun ∨ row = legacyRun := by simpa [legacyDb] using hrow
      rcases hcases with rfl | rfl
      · rw [← Option.some.inj hdigest]
        exact runDigest.property
      · cases hdigest
    | comparison => cases hrow
    | guardrailEvidence => cases hrow
  guardrail_digest row hrow := by cases hrow
  references c hc := by cases hc
  version v hv := by
    obtain rfl : 12 = v := Option.some.inj hv
    decide

theorem legacyDb_validLedger : ValidLedger crypto legacyDb where
  keyed := by simp [Keyed, legacyDb]
  linked t := by
    by_cases ht : tenant = t
    · subst ht
      have hledger : tenantLedger legacyDb.ledger tenant = [entry] := by
        simp [tenantLedger, legacyDb, entry]
      rw [hledger]
      exact ⟨⟨rfl, rfl, sha256_entry.symm⟩, trivial⟩
    · have hledger : tenantLedger legacyDb.ledger t = [] := by
        simp [tenantLedger, legacyDb, entry, ht]
      rw [hledger]
      trivial
  covers e he := by
    obtain rfl := List.mem_singleton.mp he
    exact ⟨recordedRun, List.mem_cons_self, rfl, rfl, rfl, rfl, rfl⟩

end Sample

/-- The worked legacy database: its rows are kept with the new columns, the ledger is built over
    them, and initializing the schema once more changes nothing. -/
theorem initializeSchema_builds_ledger_sample :
    ∃ db', initializeSchema Evidence.Sample.crypto (fun a b => a ≤ b) Sample.legacyDb = .ok db' ∧
      (∀ kind, db'.artifacts kind =
        (Sample.legacyDb.artifacts kind).map (migratedRow Evidence.Sample.crypto)) ∧
      db'.checkpoints = Sample.legacyDb.checkpoints ∧
      (∀ t, LedgerBuilt Evidence.Sample.crypto Sample.legacyDb db' t) ∧
      initializeSchema Evidence.Sample.crypto (fun a b => a ≤ b) db' = .ok db' :=
  initializeSchema_builds_ledger _ Sample.legacyDb_wellFormed Sample.legacyDb_validLedger

end AEControl.Evidence.Migration
