/-
  The audit under concurrent writers.

  Replicas commit transactions while an audit reads table after table, each read seeing a later
  database than the one before.  Two facts make that safe.  What an earlier read saw is still there
  for a later one (`Grows`): the ledger is only appended to and a recorded artifact keeps its digest
  and envelope.  And the audit reads each table before the table it is compared with: ledger before
  sources, checkpoints before heads.

  Structure of the proof:
  1. `grows_commit` and `grows_run`: every transaction only adds to what was recorded;
  2. a saved artifact can be checked by every keyring that covers its store's (`readable_of_saved`,
     `checkArtifact_returns`), so the artifact pass reports nothing;
  3. `ledgerFailures_of_grows`: the ledger of an earlier moment agrees with the artifacts of a later
     one, so the ledger pass reports nothing;
  4. `CheckpointInvariant`: every checkpoint anchors a prefix of its tenant's ledger, and stays
     anchored as the ledger grows (`SoundCheckpoint.grow`), so the checkpoint pass reports nothing;
  5. `ledger_correct_and_no_false_alarm`, for every run and every assignment of later and later
     moments to the nine reads.
-/
import AEControl.Evidence.Ledger

namespace AEControl.Evidence

open HashChain Table

variable {P : Platform}

/-! ## What only ever grows -/

/-- The later database keeps what the earlier one recorded. -/
structure Grows (db db' : Database) : Prop where
  ledger : db.ledger <+: db'.ledger
  artifacts : ∀ kind, ∀ a ∈ db.artifacts kind, ∃ a' ∈ db'.artifacts kind,
    a'.tenantId = a.tenantId ∧ a'.artifactId = a.artifactId ∧
      a'.payloadSha256 = a.payloadSha256 ∧ a'.envelope = a.envelope

theorem Grows.refl (db : Database) : Grows db db :=
  ⟨List.prefix_refl _, fun _ a ha => ⟨a, ha, rfl, rfl, rfl, rfl⟩⟩

theorem Grows.trans {db db' db'' : Database} (h : Grows db db') (h' : Grows db' db'') :
    Grows db db'' := by
  refine ⟨h.ledger.trans h'.ledger, fun kind a ha => ?_⟩
  obtain ⟨a', ha', htenant, hid, hsha, henvelope⟩ := h.artifacts kind a ha
  obtain ⟨a'', ha'', htenant', hid', hsha', henvelope'⟩ := h'.artifacts kind a' ha'
  exact ⟨a'', ha'', htenant'.trans htenant, hid'.trans hid, hsha'.trans hsha,
    henvelope'.trans henvelope⟩

theorem Grows.entriesOf {db db' : Database} (h : Grows db db') (t : TenantId) :
    db.entriesOf t <+: db'.entriesOf t := h.ledger.filter _

theorem grows_save {C : Crypto} {db : Database} {row : ArtifactRow} {kind : ArtifactKind}
    {digest : HexDigest} {rows : List ArtifactRow} {ledger : List LedgerRow}
    (h : SaveStep C row kind digest db rows ledger) : Grows db (db.saved kind rows ledger) := by
  cases h with
  | fresh hfresh hnew =>
    exact ⟨List.prefix_append _ _, fun _ a ha =>
      ⟨a, Database.mem_saved_append ha [row], rfl, rfl, rfl, rfl⟩⟩
  | @again rows old hrep hid htenant hsha henvelope =>
    refine ⟨List.prefix_refl _, Database.forall_saved
      (Q := fun k as => ∀ a ∈ db.artifacts k, ∃ a' ∈ as, a'.tenantId = a.tenantId ∧
        a'.artifactId = a.artifactId ∧ a'.payloadSha256 = a.payloadSha256 ∧
        a'.envelope = a.envelope)
      (fun _ a ha => ⟨a, ha, rfl, rfl, rfl, rfl⟩) ?_⟩
    intro a ha
    rcases hrep.mem_cases ha with ha | rfl
    · exact ⟨a, ha, rfl, rfl, rfl, rfl⟩
    · exact ⟨row, hrep.mem_new, htenant.symm, hid.symm, hsha.symm, henvelope.symm⟩

theorem grows_commit {db : Database} (hinv : LedgerInvariant P.toCrypto db)
    (txn : Transaction P) : Grows db (commit db txn) := by
  have heffect := commit_effect hinv.artifacts_keyed txn
  generalize commit db txn = db' at heffect
  cases heffect with
  | idle => exact Grows.refl db
  | saved h =>
    rw [h.hdb]
    exact grows_save (saveStep_of_write hinv h.hwrite h.hledger rfl)
  | anchored _ h =>
    rw [h.hdb]
    exact ⟨List.prefix_refl _, fun _ a ha => ⟨a, ha, rfl, rfl, rfl, rfl⟩⟩

/-- The database after a run keeps what it recorded after any part of it. -/
theorem grows_run (txns : List (Transaction P)) {m n : ℕ} (h : m ≤ n) :
    Grows (Runs.run commit .empty (txns.take m)) (Runs.run commit .empty (txns.take n)) := by
  obtain ⟨k, rfl⟩ := Nat.exists_eq_add_of_le h
  rw [List.take_add, Runs.run_append]
  exact Runs.run_grows commit (LedgerInvariant P.toCrypto) Grows.refl Grows.trans
    (fun _ txn hinv => hinv.commit txn) (fun _ txn hinv => grows_commit hinv txn)
    (ledgerInvariant_run _) _

/-! ## Stored artifacts can be checked -/

/-- The checks of an artifact row raise nothing. -/
structure Readable (C : Crypto) (a : ArtifactRow) : Prop where
  canonical : C.canonicalizes a.payload = true
  hex : isHexDigest a.payloadSha256 = true
  ascii : a.envelope.algorithm = some SignatureAlgorithm.hmacSha256.value →
    ∀ signature, a.envelope.value = some signature → isAscii signature = true

/-- Verification raises an authenticity error or nothing, if HMAC signatures are ASCII. -/
theorem verifyAuthenticity_cases {C : Crypto} (keyring : Option (ArtifactKeyring C))
    (artifactType : String) (id : UUID) (digest : String) {envelope : Envelope}
    (hascii : envelope.algorithm = some SignatureAlgorithm.hmacSha256.value →
      ∀ signature, envelope.value = some signature → isAscii signature = true) :
    verifyAuthenticity keyring artifactType id digest envelope = .ok () ∨
      ∃ reason, verifyAuthenticity keyring artifactType id digest envelope =
        .error (.artifactAuthenticity artifactType id envelope.keyId reason envelope.algorithm) := by
  obtain ⟨algorithm, keyId, value⟩ := envelope
  rcases algorithm with _ | algorithm <;> rcases keyId with _ | keyId <;>
    rcases value with _ | signature
  case some.some.some =>
    rcases verifyAuthenticity_complete keyring artifactType id digest algorithm keyId signature with
      ⟨hok, -⟩ | ⟨-, herror⟩ | ⟨⟨K, -, hraises⟩, -⟩
    · exact Or.inl hok
    · exact Or.inr herror
    · obtain ⟨hhmac, -, hnot⟩ := ArtifactKeyring.verify_typeError_iff.mp hraises
      rw [hascii (congrArg some hhmac) signature rfl] at hnot
      cases hnot
  case none.none.none => exact Or.inl rfl
  all_goals exact Or.inr ⟨_, rfl⟩

theorem checkArtifact_returns {C : Crypto} (keyring : Option (ArtifactKeyring C))
    (kind : ArtifactKind) {a : ArtifactRow} (h : Readable C a) :
    ∃ item, checkArtifact keyring kind a = .ok item := by
  have hdigest : artifactDigest C a.payload = .ok (C.sha256 a.payload.canonicalText) :=
    artifactDigest_of h.canonical
  have hcompare : compareDigest (C.sha256 a.payload.canonicalText).val a.payloadSha256 =
      .ok ((C.sha256 a.payload.canonicalText).val = a.payloadSha256) := by
    simp [compareDigest, isAscii_of_isHexDigest h.hex]
  unfold checkArtifact
  simp only [hdigest, hcompare, bind, Except.bind]
  by_cases hsame : (C.sha256 a.payload.canonicalText).val = a.payloadSha256
  · rw [if_pos (by simpa using hsame)]
    rcases verifyAuthenticity_cases keyring kind.value a.artifactId a.payloadSha256 h.ascii with
      hv | ⟨reason, hv⟩
    · exact ⟨_, by rw [hv]⟩
    · exact ⟨_, by rw [hv]⟩
  · rw [if_neg (by simpa using hsame), dif_pos h.hex]
    exact ⟨_, rfl⟩

/-- A store writes ASCII signatures with HMAC. -/
theorem signArtifact_ascii {C : Crypto} {keyring : Option (ArtifactKeyring C)} {kind : ArtifactKind}
    {id : UUID} {digest : HexDigest} {envelope : Envelope}
    (h : signArtifact keyring kind id digest = .ok envelope)
    (halgorithm : envelope.algorithm = some SignatureAlgorithm.hmacSha256.value) :
    ∀ signature, envelope.value = some signature → isAscii signature = true := by
  intro signature hsignature
  cases keyring with
  | none => cases h; cases hsignature
  | some K =>
    obtain ⟨s, hsign, h⟩ := Raising.bind_ok h
    obtain rfl := Except.ok.inj h
    obtain rfl := Option.some.inj hsignature
    obtain ⟨keyId, a, hkey, ha⟩ := ArtifactKeyring.sign_active hsign
    have hhmac : a = .hmacSha256 := by
      simp only [ha, Option.map_some, Option.some.injEq] at halgorithm
      revert halgorithm
      cases a <;> decide
    unfold ArtifactKeyring.sign at hsign
    simp only [hkey, ha, hhmac] at hsign
    cases hlook : K.hmacKeys.lookup keyId with
    | none => rw [hlook] at hsign; cases hsign
    | some key =>
      rw [hlook] at hsign
      obtain rfl := Except.ok.inj hsign
      exact HexDigest.isAscii _

/-! ## Checkpoints stay anchored -/

/-- A checkpoint row that some signer among `signers` produced, and that the ledger confirms. -/
structure SoundCheckpoint (P : Platform) (signers : ArtifactKeyring P.toCrypto → Prop)
    (db : Database) (row : CheckpointRow) (checkpoint : SignedLedgerCheckpoint) : Prop where
  stored : ∃ j, P.jsonb (checkpoint.payload.dump P) = some j ∧
    row = CheckpointRow.ofCheckpoint checkpoint j
  utc : checkpoint.payload.createdAt.utcoffset = 0 ∧
    checkpoint.payload.retentionUntil.utcoffset = 0
  digest : checkpointPayloadDigest P checkpoint.payload = .ok checkpoint.payloadSha256
  signed : ∃ K, signers K ∧ K.activeKeyId = some checkpoint.signingKeyId.val ∧
    K.activeAlgorithm = some .ed25519 ∧ K.sign "ledger_checkpoint" checkpoint.payload.checkpointId
      checkpoint.payloadSha256.val = .ok checkpoint.signature
  entries : checkpoint.payload.ledgerEntries = checkpoint.payload.ledgerSequence
  sequence_le : checkpoint.payload.ledgerSequence ≤
    (db.entriesOf checkpoint.payload.tenantId).length
  head : headFrom (ledgerReader P.toCrypto checkpoint.payload.tenantId) ledgerGenesisSha256
    ((db.entriesOf checkpoint.payload.tenantId).take checkpoint.payload.ledgerSequence) =
      checkpoint.payload.ledgerHeadSha256

/-- The head of a chain is where its length says. -/
theorem ledgerHead_eq {C : Crypto} {db : Database} {t : TenantId}
    (h : LinkedFrom (ledgerReader C t) 1 ledgerGenesisSha256 (db.entriesOf t)) :
    ledgerHead db t = ((db.entriesOf t).length,
      headFrom (ledgerReader C t) ledgerGenesisSha256 (db.entriesOf t)) := by
  unfold ledgerHead
  rw [ledgerOf_eq h, headFrom_eq_getLast?]
  cases hlast : (db.entriesOf t).getLast? with
  | none =>
    rw [List.getLast?_eq_none_iff.mp hlast]
    rfl
  | some e =>
    have hseq : e.sequence + 1 = 1 + (db.entriesOf t).length := h.sequence_getLast? hlast
    have hseq' : e.sequence = (db.entriesOf t).length := by omega
    simp [hseq', ledgerReader]

/-- An anchored head survives the growth of the ledger. -/
theorem SoundCheckpoint.grow {signers : ArtifactKeyring P.toCrypto → Prop} {db db' : Database}
    {row : CheckpointRow} {checkpoint : SignedLedgerCheckpoint}
    (h : SoundCheckpoint P signers db row checkpoint) (hgrows : Grows db db') :
    SoundCheckpoint P signers db' row checkpoint := by
  obtain ⟨later, hlater⟩ := hgrows.entriesOf checkpoint.payload.tenantId
  refine ⟨h.stored, h.utc, h.digest, h.signed, h.entries, ?_, ?_⟩
  · rw [← hlater, List.length_append]
    exact Nat.le_add_right_of_le h.sequence_le
  · rw [← hlater, List.take_append_of_le_length h.sequence_le]
    exact h.head

/-- The checkpoints of a database whose transactions ran under the keyrings `signers`. -/
structure CheckpointInvariant (P : Platform) (signers : ArtifactKeyring P.toCrypto → Prop)
    (db : Database) : Prop where
  ledger : LedgerInvariant P.toCrypto db
  readable : ∀ kind, ∀ a ∈ db.artifacts kind, Readable P.toCrypto a
  sound : ∀ row ∈ db.checkpoints, ∃ checkpoint, SoundCheckpoint P signers db row checkpoint

theorem CheckpointInvariant.empty (signers : ArtifactKeyring P.toCrypto → Prop) :
    CheckpointInvariant P signers .empty :=
  ⟨LedgerInvariant.empty _, (fun _ _ ha => by cases ha), (fun _ hrow => by cases hrow)⟩

/-- A save leaves every artifact readable. -/
theorem readable_of_saved (hjson : KeepsCanonical P) {db db' : Database}
    (hreadable : ∀ kind, ∀ a ∈ db.artifacts kind, Readable P.toCrypto a)
    {keyring : Option (ArtifactKeyring P.toCrypto)} {t : TenantId} {kind : ArtifactKind} {id : UUID}
    {payload : Json} (h : Saved P keyring t kind id payload db db') :
    ∀ kind, ∀ a ∈ db'.artifacts kind, Readable P.toCrypto a := by
  have hnew : Readable P.toCrypto ⟨t, id, h.stored, h.digest.val, h.envelope⟩ :=
    ⟨hjson _ _ (artifactDigest_ok.mp h.hdigest).1 h.hstored, h.digest.property,
      signArtifact_ascii h.hsign⟩
  have hrows : ∀ a ∈ h.rows, Readable P.toCrypto a := h.hwrite.forall_mem (hreadable kind) hnew
  rw [h.hdb]
  exact Database.forall_saved (Q := fun _ as => ∀ a ∈ as, Readable P.toCrypto a) hreadable hrows

/-- **Every transaction preserves the invariant**, its store's keyring being one of the signers. -/
theorem CheckpointInvariant.commit (hjson : KeepsCanonical P)
    {signers : ArtifactKeyring P.toCrypto → Prop} {db : Database} (txn : Transaction P)
    (hsigner : ∀ K, txn.keyring = some K → signers K) (hinv : CheckpointInvariant P signers db) :
    CheckpointInvariant P signers (commit db txn) := by
  have hgrows := grows_commit hinv.ledger txn
  have hledger := hinv.ledger.commit txn
  have heffect := commit_effect hinv.ledger.artifacts_keyed txn
  generalize Evidence.commit db txn = db' at heffect hgrows hledger
  have hkept : ∀ row ∈ db.checkpoints, ∃ checkpoint, SoundCheckpoint P signers db' row checkpoint :=
    fun row hrow => (hinv.sound row hrow).imp fun _ h => h.grow hgrows
  cases heffect with
  | idle => exact hinv
  | saved h =>
    refine ⟨hledger, readable_of_saved hjson hinv.readable h, fun row hrow => hkept row ?_⟩
    rw [h.hdb] at hrow
    exact hrow
  | @anchored K t checkpoint _ hkeyring h =>
    have hdb := h.hdb
    refine ⟨hledger, ?_, ?_⟩
    · rw [hdb]
      exact hinv.readable
    intro row hrow
    rw [hdb] at hrow
    rcases List.mem_append.mp hrow with hrow | hrow
    · exact hkept row hrow
    · -- the new checkpoint names the head of the ledger as it stands
      obtain rfl := List.mem_singleton.mp hrow
      have hlinked := hinv.ledger.linked t
      obtain ⟨hsequence, hhead⟩ :=
        Prod.mk.inj (h.hhead.trans (ledgerHead_eq hlinked))
      have hentries : checkpoint.payload.ledgerEntries = (db.entriesOf t).length := by
        rw [h.hentries, ledgerOf_eq hlinked]
      have hsame : db'.entriesOf t = db.entriesOf t := by rw [hdb]; rfl
      refine ⟨checkpoint, ⟨h.stored, h.hstored, rfl⟩, h.hutc, h.hdigest,
        ⟨K, hsigner K hkeyring, h.hkey, h.halgorithm, h.hsign⟩, hentries.trans hsequence.symm, ?_, ?_⟩
      · rw [h.htenant, hsame, hsequence]
      · rw [h.htenant, hsame, hsequence, List.take_length, hhead]

/-- The invariant along a run whose keyrings are all among the signers. -/
theorem checkpointInvariant_run (hjson : KeepsCanonical P)
    {signers : ArtifactKeyring P.toCrypto → Prop} {txns : List (Transaction P)}
    (hsigners : ∀ txn ∈ txns, ∀ K, txn.keyring = some K → signers K) :
    CheckpointInvariant P signers (Runs.run commit .empty txns) :=
  Runs.run_invariant_of_mem commit (CheckpointInvariant P signers)
    (fun _ txn hsigner hinv => hinv.commit hjson txn hsigner) (CheckpointInvariant.empty signers)
    hsigners

/-! ## The ledger is correct and the audit raises no false alarm -/

/-- A tenant's ledger as the documentation promises it: numbered from 1 without gaps, every entry
    naming the hash before it and hashing its own fields, and one entry for every stored artifact,
    with the artifact's digest and envelope. -/
structure LedgerCorrect (C : Crypto) (db : Database) (t : TenantId) : Prop where
  sequences : (db.ledgerOf t).map (fun e => e.sequence) = List.range' 1 (db.ledgerOf t).length
  previous : (db.ledgerOf t).map (fun e => e.previousEntrySha256) =
    (ledgerGenesisSha256 :: (db.ledgerOf t).map fun e => e.entrySha256).dropLast
  hashes : ∀ e ∈ db.ledgerOf t, e.entrySha256 = ledgerEntryDigest C t.val e.toLedgerFields
  recorded : ∀ kind, ∀ a ∈ db.rowsOf t kind, ∃ e,
    (db.ledgerOf t).filter (fun e => e.artifactType = kind ∧ e.artifactId = a.artifactId) = [e] ∧
      e.payloadSha256.val = a.payloadSha256 ∧ e.envelope = a.envelope

theorem LedgerInvariant.ledgerCorrect {C : Crypto} {db : Database} (hinv : LedgerInvariant C db)
    (t : TenantId) : LedgerCorrect C db t := by
  have hlinked := hinv.linked t
  rw [← ledgerOf_eq hlinked] at hlinked
  refine ⟨hlinked.sequences, hlinked.previous_eq, hlinked.entry_eq, fun kind a ha => ?_⟩
  obtain ⟨ha, htenant⟩ := mem_rowsOf.mp ha
  obtain ⟨e, he, hrec⟩ := hinv.recorded kind a ha
  refine ⟨e, ?_, hrec.digest, hrec.envelope⟩
  have hkeyed : Keyed LedgerRow.key (db.ledgerOf t) := by
    rw [ledgerOf_eq (hinv.linked t)]
    exact hinv.entries_keyed.sublist List.filter_sublist
  have hmem : e ∈ db.ledgerOf t := mem_ledgerOf.mpr ⟨he, hrec.tenant.trans htenant⟩
  rw [← hkeyed.filter_eq_singleton hmem]
  refine List.filter_congr fun x hx => ?_
  rw [hrec.key_eq, LedgerRow.key, (mem_ledgerOf.mp hx).2, htenant]
  simp

/-- The later reads of an audit see databases that keep what the earlier ones saw. -/
theorem grows_of_reads (txns : List (Transaction P)) {position : AuditRead → ℕ}
    (horder : (AuditRead.inOrder.map position).Pairwise (· ≤ ·)) :
    (∀ kind, Grows (Runs.run commit .empty (txns.take (position .ledger)))
      (Runs.run commit .empty (txns.take (position (.sources kind))))) ∧
    Grows (Runs.run commit .empty (txns.take (position .checkpoints)))
      (Runs.run commit .empty (txns.take (position .heads))) := by
  simp only [AuditRead.inOrder, List.map_cons, List.map_nil, List.pairwise_cons,
    List.mem_cons] at horder
  refine ⟨fun kind => grows_run txns ?_, grows_run txns ?_⟩
  · obtain ⟨-, -, -, hledger, -⟩ := horder
    cases kind
    · exact hledger _ (by simp)
    · exact hledger _ (by simp)
    · exact hledger _ (by simp)
  · obtain ⟨-, -, -, -, -, -, -, hcheckpoints, -⟩ := horder
    exact hcheckpoints _ (by simp)

/-- A ledger that is read before the sources agrees with them. -/
theorem ledgerFailures_of_grows {C : Crypto} {db : Database} {sources : ArtifactKind → Database}
    {t : TenantId} (hinv : LedgerInvariant C db)
    (hsources : ∀ kind, LedgerInvariant C (sources kind))
    (hgrows : ∀ kind, Grows db (sources kind)) :
    ledgerFailures C t (sourceEnvelope fun kind => (sources kind).rowsOf t kind) 1
      ledgerGenesisSha256 (db.ledgerOf t) = [] := by
  have hlinked := hinv.linked t
  rw [← ledgerOf_eq hlinked] at hlinked
  refine ledgerFailures_eq_nil.mpr ⟨hlinked, fun e he => ?_⟩
  obtain ⟨he, htenant⟩ := mem_ledgerOf.mp he
  obtain ⟨a, ha, hrec⟩ := hinv.stored e he
  obtain ⟨a', ha', htenant', hid, hsha, henvelope⟩ := (hgrows e.artifactType).artifacts _ a ha
  have hrow : a' ∈ (sources e.artifactType).rowsOf t e.artifactType :=
    mem_rowsOf.mpr ⟨ha', by rw [htenant', ← hrec.tenant, htenant]⟩
  have hkeyed : Keyed ArtifactRow.artifactId
      ((sources e.artifactType).rowsOf t e.artifactType) :=
    ((hsources e.artifactType).artifacts_keyed _).sublist List.filter_sublist
  have hsource := sourceEnvelope_of_mem (fun kind => (sources kind).rowsOf t kind) hkeyed hrow
  rw [hid, ← hrec.id, hsha, ← hrec.digest, henvelope, ← hrec.envelope] at hsource
  exact hsource

/-- A sound checkpoint passes against every later ledger, under a keyring that holds its signer's
    keys. -/
theorem checkCheckpoint_of_sound (hcrypto : ArtifactKeyring.SignsVerify P.toCrypto)
    (hpayload : PayloadRoundTrip P) {A : ArtifactKeyring P.toCrypto} {db db' : Database}
    {row : CheckpointRow} {checkpoint : SignedLedgerCheckpoint}
    (h : SoundCheckpoint P (fun K => A.Covers K) db row checkpoint) (hgrows : Grows db db')
    (hinv : LedgerInvariant P.toCrypto db') :
    checkCheckpoint P (some A) row.tenantId (headAt (db'.ledgerOf row.tenantId)) row =
      .ok none := by
  obtain ⟨j, hj, hrow⟩ := h.stored
  obtain ⟨K, hcovers, hkey, halgorithm, hsign⟩ := h.signed
  have hlater := h.grow hgrows
  have htenant : row.tenantId = checkpoint.payload.tenantId := by rw [hrow]; rfl
  have hlinked := hinv.linked checkpoint.payload.tenantId
  rw [← ledgerOf_eq hlinked] at hlinked
  refine checkCheckpoint_none.mpr ⟨checkpoint, ?_, ?_, ⟨A, rfl, ?_⟩, ?_, ?_⟩
  · rw [hrow]
    exact hpayload checkpoint.payload h.utc.1 h.utc.2 j hj
  · rw [hrow]
    exact checkpoint.ofColumns_self
  · exact verifyCheckpoint_true.mpr
      ⟨h.digest, ArtifactKeyring.verify_of_sign hcrypto hcovers hkey halgorithm hsign⟩
  · rw [htenant, hrow]
    simp [payloadMatches, CheckpointRow.ofCheckpoint, h.entries]
  · rw [htenant]
    refine (headAt_eq_some hlinked).mpr ?_
    rw [ledgerOf_eq (hinv.linked checkpoint.payload.tenantId), hrow]
    exact ⟨hlater.sequence_le, hlater.head⟩

/-- **Ledger invariant and no false alarm.**  After every interleaving of committed transactions,
    of any number of stores and tenants, every tenant's ledger is correct; and an audit by a store
    that holds every key used, each of whose reads sees the database after at least as many of the
    transactions as the read before, reports no ledger failure and no checkpoint failure. -/
theorem ledger_correct_and_no_false_alarm (hcrypto : ArtifactKeyring.SignsVerify P.toCrypto)
    (hpayload : PayloadRoundTrip P) (hjson : KeepsCanonical P) (txns : List (Transaction P)) :
    (∀ t, LedgerCorrect P.toCrypto (Runs.run commit .empty txns) t) ∧
    ∀ A : ArtifactKeyring P.toCrypto,
      (∀ txn ∈ txns, ∀ K, txn.keyring = some K → A.Covers K) →
      ∀ (t : TenantId) (position : AuditRead → ℕ),
        (AuditRead.inOrder.map position).Pairwise (· ≤ ·) →
        ∃ report, verifyArtifacts P (some A) t
            (fun read => Runs.run commit .empty (txns.take (position read))) = .ok report ∧
          report.ledgerFailures = [] ∧ report.checkpointFailures = [] := by
  refine ⟨(ledgerInvariant_run txns).ledgerCorrect, fun A hcovers t position horder => ?_⟩
  -- what an earlier read saw is a part of what a later one sees
  obtain ⟨hsources, hheads⟩ := grows_of_reads txns horder
  have hinv : ∀ n, CheckpointInvariant P (fun K => A.Covers K)
      (Runs.run commit .empty (txns.take n)) := fun n =>
    checkpointInvariant_run hjson fun txn htxn => hcovers txn (List.mem_of_mem_take htxn)
  have hcheckpoints : ∀ row ∈ (Runs.run commit .empty
      (txns.take (position .checkpoints))).checkpointsOf t,
      checkCheckpoint P (some A) t
        (headAt ((Runs.run commit .empty (txns.take (position .heads))).ledgerOf t)) row =
          .ok none := by
    intro row hrow
    obtain ⟨hrow, htenant⟩ : row ∈ _ ∧ row.tenantId = t := by
      simpa [Database.checkpointsOf] using hrow
    obtain ⟨checkpoint, hsound⟩ := (hinv _).sound row hrow
    exact htenant ▸ checkCheckpoint_of_sound hcrypto hpayload hsound hheads (hinv _).ledger
  obtain ⟨report, hreport⟩ := verifyArtifacts_returns (P := P)
    (fun read => Runs.run commit .empty (txns.take (position read)))
    (fun kind row hrow => checkArtifact_returns (some A) kind
      ((hinv _).readable kind row (mem_rowsOf.mp hrow).1))
    (fun row hrow => ⟨none, hcheckpoints row hrow⟩)
  obtain ⟨-, hledger, hanchors⟩ := verifyArtifacts_ok hreport
  refine ⟨report, hreport, ?_, hanchors.mpr hcheckpoints⟩
  rw [hledger]
  exact ledgerFailures_of_grows (ledgerInvariant_run _) (fun _ => ledgerInvariant_run _) hsources

/-- How many transactions each read of an audit of the worked store sees. -/
def Sample.position : AuditRead → ℕ
  | .digests _ => 0
  | .ledger => 1
  | _ => 2

/-- An audit that reads the ledger before the checkpoint is committed and the rest after it. -/
theorem ledger_correct_and_no_false_alarm_sample :
    LedgerCorrect Sample.platform.toCrypto (Runs.run commit .empty Sample.txns) Sample.tenant ∧
    ∃ report, verifyArtifacts Sample.platform (some Sample.keyring) Sample.tenant
        (fun read => Runs.run commit .empty (Sample.txns.take (Sample.position read))) =
          .ok report ∧
      report.ledgerFailures = [] ∧ report.checkpointFailures = [] := by
  obtain ⟨hcorrect, haudit⟩ := ledger_correct_and_no_false_alarm Sample.signsVerify
    Sample.payloadRoundTrip Sample.keepsCanonical Sample.txns
  exact ⟨hcorrect Sample.tenant,
    haudit Sample.keyring Sample.txns_covered Sample.tenant Sample.position (by decide)⟩

namespace Sample

theorem sha256_row :
    (platform.toCrypto.sha256 row.payload.canonicalText).val = row.payloadSha256 :=
  congrArg Subtype.val ((congrArg sha256 (storedRun_text "baseline")).trans sha256_run)

/-- A read of the saved run accepts it. -/
theorem verifyArtifact_row :
    verifyArtifact (some keyring) ArtifactKind.run.value row.artifactId row.payloadSha256
      row.payload row.envelope = .ok () := by
  have hverify : keyring.verify "ed25519" "portfolio-2026-07" "run" 1 runDigest.val runSignature =
      .ok true := ArtifactKeyring.verify_of_sign signsVerify (ArtifactKeyring.Covers.refl _)
        (K := keyring) (a := .ed25519) rfl rfl sign_run
  rw [verifyArtifact_of_digest _ _ _ _ rfl sha256_row]
  unfold verifyAuthenticity
  simp only [row, envelope, ArtifactKind.value, hverify]

/-- The audit of a later state of the worked store is clean, if its artifacts are accepted. -/
theorem audit_clean_of_grows {db : Database} (hgrows : Grows anchoredDb db)
    (hledger : LedgerInvariant platform.toCrypto db) (hkept : db.checkpoints = anchoredDb.checkpoints)
    (hartifacts : ∀ kind, ∀ a ∈ db.rowsOf tenant kind,
      checkArtifact (some keyring) kind a = .ok none) :
    ∃ report, verifyArtifacts platform (some keyring) tenant (fun _ => db) = .ok report ∧
      report.Clean := by
  have hinv : CheckpointInvariant platform (fun K => keyring.Covers K) anchoredDb :=
    run_txns ▸ checkpointInvariant_run keepsCanonical txns_covered
  have hcheckpoints : ∀ c ∈ db.checkpointsOf tenant,
      checkCheckpoint platform (some keyring) tenant (headAt (db.ledgerOf tenant)) c =
        .ok none := by
    intro c hc
    obtain ⟨hc, htenant⟩ := List.mem_filter.mp hc
    obtain ⟨c', hsound⟩ := hinv.sound c (hkept ▸ hc)
    exact of_decide_eq_true htenant ▸ checkCheckpoint_of_sound signsVerify payloadRoundTrip hsound
      hgrows hledger
  obtain ⟨report, hreport⟩ := verifyArtifacts_returns (P := platform) (fun _ => db)
    (fun kind a ha => ⟨none, hartifacts kind a ha⟩) fun c hc => ⟨none, hcheckpoints c hc⟩
  obtain ⟨hfailures, hledgerPass, hanchors⟩ := verifyArtifacts_ok hreport
  refine ⟨report, hreport, hfailures.mpr hartifacts, ?_, hanchors.mpr hcheckpoints⟩
  rw [hledgerPass]
  exact ledgerFailures_of_grows hledger (fun _ => hledger) fun _ => Grows.refl _

theorem checkArtifact_row : checkArtifact (some keyring) .run row = .ok none :=
  checkArtifact_none.mpr verifyArtifact_row

/-- The audit of the worked store is clean. -/
theorem audit_clean : ∃ report, verifyArtifacts platform (some keyring) tenant
    (fun _ => anchoredDb) = .ok report ∧ report.Clean := by
  have hinv : LedgerInvariant platform.toCrypto anchoredDb := run_txns ▸ ledgerInvariant_run txns
  refine audit_clean_of_grows (Grows.refl _) hinv rfl fun kind a ha => ?_
  cases kind with
  | run =>
    obtain rfl : a = row := List.mem_singleton.mp (mem_rowsOf.mp ha).1
    exact checkArtifact_row
  | comparison => cases (mem_rowsOf.mp ha).1
  | guardrailEvidence => cases (mem_rowsOf.mp ha).1

end Sample

end AEControl.Evidence
