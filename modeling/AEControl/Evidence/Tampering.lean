/-
  The audit and the reads on artifact rows of any content.

  `payload`, `payload_sha256` and the envelope columns hold what a writer of the tables puts there.
  A check of such a row answers (`Answerable`) unless one of four calls raises: `_normalize_json` on
  a payload nested beyond the recursion limit, `json.dumps` on its numbers, the
  `ArtifactIntegrityItem` of a row whose digest differs, or `hmac.compare_digest` on a non-ASCII
  HMAC.

  Structure of the proof:
  1. one row: `checkArtifact_returns_iff` for the audit, `verifyArtifact_answers` for a read.  The
     fields of `Answerable` rule the calls out: `canonical` the first two, `hex` the third and
     `ascii` the last one, which is made only if the digests agree;
  2. the checkpoint pass raises on none of the rows that a run of transactions inserted
     (`checkCheckpoint_returns`), and the ledger pass raises never;
  3. the audit goes through the rows of all kinds in one loop, so one bad row stops it:
     `answerable_of_verifyArtifacts`, and with `verifyArtifacts_items` the other way round;
  4. `failsClosed_iff`: audit and reads name every tampered row and raise nothing else, exactly if
     every row is answerable.
-/
import AEControl.Evidence.Replicas

namespace AEControl.Evidence

open Table

/-! ## One row -/

/-- The digest and the envelope of a row verify. -/
def Verified {C : Crypto} (keyring : Option (ArtifactKeyring C)) (kind : ArtifactKind)
    (row : ArtifactRow) : Prop :=
  artifactDigest C row.payload = .ok (C.sha256 row.payload.canonicalText) ∧
    (C.sha256 row.payload.canonicalText).val = row.payloadSha256 ∧
    verifyAuthenticity keyring kind.value row.artifactId row.payloadSha256 row.envelope = .ok ()

/-- A signature that is compared with an HMAC of the keyring is ASCII text. -/
def AsciiSignature {C : Crypto} (keyring : Option (ArtifactKeyring C)) (envelope : Envelope) :
    Prop :=
  ∀ K keyId signature, keyring = some K → (K.hmacKeys.lookup keyId).isSome = true →
    envelope = ⟨some SignatureAlgorithm.hmacSha256.value, some keyId, some signature⟩ →
    isAscii signature = true

/-- The columns of a row on which no check raises. -/
structure Answerable {C : Crypto} (keyring : Option (ArtifactKeyring C)) (row : ArtifactRow) :
    Prop where
  canonical : C.canonicalizes row.payload = true
  hex : isHexDigest row.payloadSha256 = true
  ascii : (C.sha256 row.payload.canonicalText).val = row.payloadSha256 →
    AsciiSignature keyring row.envelope

section Row

variable {C : Crypto} {keyring : Option (ArtifactKeyring C)} {kind : ArtifactKind}

/-- An envelope with an ASCII signature is accepted or refused … -/
theorem verifyAuthenticity_answers {envelope : Envelope} (h : AsciiSignature keyring envelope)
    (artifactType : String) (id : UUID) (digest : String) :
    verifyAuthenticity keyring artifactType id digest envelope = .ok () ∨
      ∃ reason, verifyAuthenticity keyring artifactType id digest envelope =
        .error (.artifactAuthenticity artifactType id envelope.keyId reason envelope.algorithm) := by
  obtain ⟨algorithm, keyId, value⟩ := envelope
  rcases algorithm with _ | algorithm <;> rcases keyId with _ | keyId <;>
    rcases value with _ | signature
  case some.some.some =>
    rcases verifyAuthenticity_complete keyring artifactType id digest algorithm keyId signature with
      ⟨hok, -⟩ | ⟨-, herror⟩ | ⟨⟨K, hK, hraises⟩, -⟩
    · exact Or.inl hok
    · exact Or.inr herror
    · obtain ⟨rfl, hkey, hnot⟩ := ArtifactKeyring.verify_typeError_iff.mp hraises
      rw [h K keyId signature hK hkey rfl] at hnot
      cases hnot
  case none.none.none => exact Or.inl rfl
  all_goals exact Or.inr ⟨_, rfl⟩

/-- … and one without raises `TypeError`. -/
theorem verifyAuthenticity_raises {envelope : Envelope} (h : ¬AsciiSignature keyring envelope)
    (artifactType : String) (id : UUID) (digest : String) :
    verifyAuthenticity keyring artifactType id digest envelope = .error .typeError := by
  simp only [AsciiSignature, not_forall] at h
  obtain ⟨K, keyId, signature, hK, hkey, rfl, hascii⟩ := h
  have hraises : K.verify SignatureAlgorithm.hmacSha256.value keyId artifactType id digest
      signature = .error .typeError :=
    ArtifactKeyring.verify_typeError_iff.mpr ⟨rfl, hkey, by simpa using hascii⟩
  simp [verifyAuthenticity, hK, hraises, EvidenceError.isKeyError, EvidenceError.isValueError]

/-- A read accepts a row exactly if it is verified. -/
theorem verifyArtifact_ok_iff {row : ArtifactRow} :
    verifyArtifact keyring kind.value row.artifactId row.payloadSha256 row.payload row.envelope =
      .ok () ↔ Verified keyring kind row := by
  constructor
  · intro h
    rw [verifyArtifact_eq] at h
    split at h
    · cases h
    rename_i text htext
    obtain ⟨hcanonical, rfl⟩ := canonicalJsonText_ok.mp htext
    split_ifs at h with hascii hsame
    exact ⟨artifactDigest_of hcanonical, hsame, h⟩
  · rintro ⟨hdigest, hsame, hauthentic⟩
    rw [verifyArtifact_of_digest keyring kind.value row.artifactId row.envelope
      (artifactDigest_ok.mp hdigest).1 hsame]
    exact hauthentic

/-- A read of an answerable row accepts it or raises an `ArtifactVerificationError`. -/
theorem verifyArtifact_answers (kind : ArtifactKind) {row : ArtifactRow}
    (h : Answerable keyring row) :
    Verified keyring kind row ∨ ∃ e, verifyArtifact keyring kind.value row.artifactId
      row.payloadSha256 row.payload row.envelope = .error e ∧ e.isVerificationError = true := by
  rw [← verifyArtifact_ok_iff, verifyArtifact_eq, canonicalJsonText_of h.canonical]
  simp only [if_pos (isAscii_of_isHexDigest h.hex)]
  split
  · rename_i hsame
    rcases verifyAuthenticity_answers (h.ascii hsame) kind.value row.artifactId row.payloadSha256
      with hok | ⟨reason, herror⟩
    · exact Or.inl hok
    · exact Or.inr ⟨_, herror, rfl⟩
  · exact Or.inr ⟨_, rfl, rfl⟩

/-- **A check of a row returns** exactly if the row is answerable. -/
theorem checkArtifact_returns_iff {row : ArtifactRow} :
    (∃ item, checkArtifact keyring kind row = .ok item) ↔ Answerable keyring row := by
  constructor
  · rintro ⟨item, h⟩
    unfold checkArtifact at h
    obtain ⟨actual, hactual, h⟩ := Raising.bind_ok h
    obtain ⟨same, hcompare, h⟩ := Raising.bind_ok h
    obtain ⟨hcanonical, rfl⟩ := artifactDigest_ok.mp hactual
    obtain rfl := compareDigest_ok hcompare
    -- the envelope is looked at only if the digest is right
    by_cases hsame : (C.sha256 row.payload.canonicalText).val = row.payloadSha256
    · refine ⟨hcanonical, hsame ▸ (C.sha256 row.payload.canonicalText).property, fun _ => ?_⟩
      by_contra hnot
      rw [if_pos (decide_eq_true hsame), verifyAuthenticity_raises hnot] at h
      cases h
    · rw [if_neg (by simpa using hsame)] at h
      split at h
      · rename_i hhex
        exact ⟨hcanonical, hhex, fun heq => absurd heq hsame⟩
      · cases h
  · intro h
    have hdigest : artifactDigest C row.payload = .ok (C.sha256 row.payload.canonicalText) :=
      artifactDigest_of h.canonical
    have hcompare : compareDigest (C.sha256 row.payload.canonicalText).val row.payloadSha256 =
        .ok ((C.sha256 row.payload.canonicalText).val = row.payloadSha256) := by
      simp [compareDigest, isAscii_of_isHexDigest h.hex]
    unfold checkArtifact
    simp only [hdigest, hcompare, bind, Except.bind]
    by_cases hsame : (C.sha256 row.payload.canonicalText).val = row.payloadSha256
    · rw [if_pos (decide_eq_true hsame)]
      rcases verifyAuthenticity_answers (h.ascii hsame) kind.value row.artifactId
        row.payloadSha256 with hok | ⟨reason, herror⟩
      · exact ⟨none, by rw [hok]⟩
      · exact ⟨_, by rw [herror]⟩
    · rw [if_neg (by simpa using hsame), dif_pos h.hex]
      exact ⟨_, rfl⟩

/-- A mismatch with a digest column that holds no digest cannot be reported. -/
theorem checkArtifact_invalid {row : ArtifactRow} (hcanonical : C.canonicalizes row.payload = true)
    (hascii : isAscii row.payloadSha256 = true) (hhex : ¬isHexDigest row.payloadSha256 = true) :
    checkArtifact keyring kind row = .error (.validationError "expected_sha256") := by
  have hdigest : artifactDigest C row.payload = .ok (C.sha256 row.payload.canonicalText) :=
    artifactDigest_of hcanonical
  have hne : (C.sha256 row.payload.canonicalText).val ≠ row.payloadSha256 := fun h =>
    hhex (h ▸ (C.sha256 row.payload.canonicalText).property)
  have hcompare : compareDigest (C.sha256 row.payload.canonicalText).val row.payloadSha256 =
      .ok false := by
    unfold compareDigest
    rw [if_pos (by rw [HexDigest.isAscii, hascii]; rfl), decide_eq_false hne]
  unfold checkArtifact
  simp only [hdigest, hcompare, bind, Except.bind]
  rw [if_neg Bool.false_ne_true, dif_neg hhex]

/-- A reported item names its row. -/
theorem checkArtifact_some {row : ArtifactRow} {item : ArtifactIntegrityItem}
    (h : checkArtifact keyring kind row = .ok (some item)) :
    item.artifactType = kind ∧ item.artifactId = row.artifactId := by
  unfold checkArtifact at h
  obtain ⟨actual, -, h⟩ := Raising.bind_ok h
  obtain ⟨same, -, h⟩ := Raising.bind_ok h
  split at h
  · split at h
    · cases h
    · obtain rfl := Option.some.inj (Except.ok.inj h)
      exact ⟨rfl, rfl⟩
    · cases h
  · split at h
    · obtain rfl := Option.some.inj (Except.ok.inj h)
      exact ⟨rfl, rfl⟩
    · cases h

end Row

/-! ## The checkpoint pass -/

variable {P : Platform}

/-- Ed25519 verification of a checkpoint raises nothing, whatever the keyring. -/
theorem storeVerifies_returns (keyring : Option (ArtifactKeyring P.toCrypto))
    {checkpoint : SignedLedgerCheckpoint}
    (hdigest : checkpointPayloadDigest P checkpoint.payload = .ok checkpoint.payloadSha256) :
    ∃ verified, storeVerifies P keyring checkpoint = .ok verified := by
  cases keyring with
  | none => exact ⟨false, rfl⟩
  | some K =>
    have hverify : storeVerifies P (some K) checkpoint =
        orFalse (K.verify SignatureAlgorithm.ed25519.value checkpoint.signingKeyId.val
          "ledger_checkpoint" checkpoint.payload.checkpointId checkpoint.payloadSha256.val
          checkpoint.signature) := by
      unfold storeVerifies verifyCheckpoint
      simp only [hdigest, bind, Except.bind]
      exact if_neg (not_not.mpr rfl)
    rw [hverify]
    cases hresult : K.verify SignatureAlgorithm.ed25519.value checkpoint.signingKeyId.val
        "ledger_checkpoint" checkpoint.payload.checkpointId checkpoint.payloadSha256.val
        checkpoint.signature with
    | ok b => exact ⟨b, rfl⟩
    | error e =>
      refine ⟨false, if_pos ?_⟩
      rcases ArtifactKeyring.verify_error hresult with he | he | rfl
      · rw [he, Bool.true_or]
      · rw [he, Bool.or_true]
      · -- only an HMAC is compared as text
        have hhmac := (ArtifactKeyring.verify_typeError_iff.mp hresult).1
        exact absurd hhmac (by decide)

/-- The check of a checkpoint row that a store wrote raises nothing. -/
theorem checkCheckpoint_returns (hround : PayloadRoundTrip P)
    (keyring : Option (ArtifactKeyring P.toCrypto)) {t : TenantId} (heads : ℕ → Option HexDigest)
    {signers : ArtifactKeyring P.toCrypto → Prop} {db : Database} {row : CheckpointRow}
    {checkpoint : SignedLedgerCheckpoint} (h : SoundCheckpoint P signers db row checkpoint) :
    ∃ item, checkCheckpoint P keyring t heads row = .ok item := by
  obtain ⟨j, hj, hrow⟩ := h.stored
  have hvalid : P.validatePayload row.payload = some checkpoint.payload := by
    rw [hrow]
    exact hround _ h.utc.1 h.utc.2 _ hj
  have hsha : checkpoint.payloadSha256 = row.payloadSha256 := by rw [hrow]; rfl
  have hcolumns : SignedLedgerCheckpoint.ofColumns checkpoint.payload row.payloadSha256
      row.signingKeyId row.signatureValue = .ok checkpoint := by
    rw [hrow]
    exact checkpoint.ofColumns_self
  obtain ⟨verified, hverified⟩ := storeVerifies_returns keyring h.digest
  unfold checkCheckpoint
  simp only [hvalid, h.digest, bind, Except.bind]
  rw [if_neg (not_not.mpr hsha)]
  simp only [hcolumns, hverified]
  cases verified with
  | false => exact ⟨_, rfl⟩
  | true =>
    cases payloadMatches t checkpoint.payload row with
    | false => exact ⟨_, rfl⟩
    | true =>
      cases heads row.ledgerSequence with
      | none => exact ⟨_, rfl⟩
      | some head =>
        by_cases hhead : head = checkpoint.payload.ledgerHeadSha256
        · exact ⟨none, if_neg (not_not.mpr hhead)⟩
        · exact ⟨_, if_pos hhead⟩

/-! ## The audit -/

section Failures

variable {keyring : Option (ArtifactKeyring P.toCrypto)} {t : TenantId} {db : Database}
  {report : ArtifactIntegrityReport}

/-- An audit that returns has checked every row, and its failures are what the checks found. -/
theorem verifyArtifacts_items (h : verifyArtifacts P keyring t (fun _ => db) = .ok report) :
    ∃ items, (auditRows t fun _ => db).mapM (fun p => checkArtifact keyring p.1 p.2) = .ok items ∧
      report.failures = items.filterMap id := by
  unfold verifyArtifacts at h
  obtain ⟨items, hitems, h⟩ := Raising.bind_ok h
  obtain ⟨checkpointItems, -, h⟩ := Raising.bind_ok h
  obtain rfl := Except.ok.inj h
  exact ⟨items, hitems, rfl⟩

/-- The first row whose check raises ends the audit. -/
theorem verifyArtifacts_error {before after : List (ArtifactKind × ArtifactRow)}
    {kind : ArtifactKind} {row : ArtifactRow} {e : EvidenceError}
    (hrows : (auditRows t fun _ => db) = before ++ (kind, row) :: after)
    (hbefore : ∀ p ∈ before, Answerable keyring p.2)
    (hrow : checkArtifact keyring kind row = .error e) :
    verifyArtifacts P keyring t (fun _ => db) = .error e := by
  have hraises : (auditRows t fun _ => db).mapM (fun p => checkArtifact keyring p.1 p.2) =
      .error e := by
    rw [hrows]
    exact Raising.mapM_error (fun p hp => checkArtifact_returns_iff.mpr (hbefore p hp)) hrow
  unfold verifyArtifacts
  simp only [hraises, bind, Except.bind]

theorem mem_failures (h : verifyArtifacts P keyring t (fun _ => db) = .ok report)
    {item : ArtifactIntegrityItem} : item ∈ report.failures ↔
      ∃ kind, ∃ row ∈ db.rowsOf t kind, checkArtifact keyring kind row = .ok (some item) := by
  obtain ⟨items, hitems, hfailures⟩ := verifyArtifacts_items h
  rw [hfailures, Raising.mem_findings hitems]
  constructor
  · rintro ⟨⟨kind, row⟩, hmem, hitem⟩
    exact ⟨kind, row, mem_auditRows.mp hmem, hitem⟩
  · rintro ⟨kind, row, hmem, hitem⟩
    exact ⟨(kind, row), mem_auditRows.mpr hmem, hitem⟩

/-- An audit that returns found every row answerable. -/
theorem answerable_of_verifyArtifacts (h : verifyArtifacts P keyring t (fun _ => db) = .ok report)
    {kind : ArtifactKind} {row : ArtifactRow} (hrow : row ∈ db.rowsOf t kind) :
    Answerable keyring row := by
  obtain ⟨items, hitems, -⟩ := verifyArtifacts_items h
  obtain ⟨item, -, hitem⟩ := Raising.forall₂_mem_left (Raising.mapM_ok hitems)
    (mem_auditRows.mpr hrow)
  exact checkArtifact_returns_iff.mp ⟨item, hitem⟩

/-- No artifact is reported twice. -/
theorem failures_nodup (hk : ∀ kind, Keyed ArtifactRow.artifactId (db.artifacts kind))
    (h : verifyArtifacts P keyring t (fun _ => db) = .ok report) :
    (report.failures.map fun item => (item.artifactType, item.artifactId)).Nodup := by
  obtain ⟨items, hitems, hfailures⟩ := verifyArtifacts_items h
  have hsub := Raising.findings_sublist
    (fun p : ArtifactKind × ArtifactRow => (p.1, p.2.artifactId))
    (fun item : ArtifactIntegrityItem => (item.artifactType, item.artifactId))
    (fun p item hitem => by
      obtain ⟨hkind, hid⟩ := checkArtifact_some hitem
      rw [hkind, hid]) hitems
  rw [hfailures]
  refine hsub.nodup ?_
  have hvisible : ∀ kind, ((db.rowsOf t kind).map ArtifactRow.artifactId).Nodup := fun kind =>
    Keyed.sublist (hk kind) List.filter_sublist
  have hkind : ∀ kind, ((db.rowsOf t kind).map fun row => (kind, row.artifactId)).Nodup :=
    fun kind => by
      have := (hvisible kind).map (Prod.mk_right_injective kind)
      rwa [List.map_map] at this
  simp only [auditRows, List.flatMap_cons, List.flatMap_nil, List.append_nil, List.map_append,
    List.map_map]
  -- rows of different kinds are different, whatever their identifiers
  have hapart : ∀ {k k' : ArtifactKind} (rows rows' : List ArtifactRow), k ≠ k' →
      ∀ p ∈ rows.map (fun row => (k, row.artifactId)),
        ∀ q ∈ rows'.map (fun row => (k', row.artifactId)), p ≠ q := by
    rintro k k' rows rows' hne _ hp _ hq rfl
    obtain ⟨row, -, rfl⟩ := List.mem_map.mp hp
    obtain ⟨row', -, heq⟩ := List.mem_map.mp hq
    exact hne (congrArg Prod.fst heq).symm
  refine List.nodup_append.mpr ⟨hkind .run, List.nodup_append.mpr ⟨hkind .comparison,
    hkind .guardrailEvidence, hapart _ _ (by decide)⟩, fun p hp q hq => ?_⟩
  rcases List.mem_append.mp hq with hq | hq
  · exact hapart _ _ (by decide) p hp q hq
  · exact hapart _ _ (by decide) p hp q hq

end Failures

/-! ## Failing closed -/

/-- The audit returns a report whose failures are exactly the rows that do not verify, each once;
    a read returns the payload of a verified row and raises an `ArtifactVerificationError` for any
    other. -/
structure FailsClosed (keyring : Option (ArtifactKeyring P.toCrypto)) (t : TenantId)
    (db : Database) : Prop where
  audit : ∃ report, verifyArtifacts P keyring t (fun _ => db) = .ok report ∧
    (report.failures.map fun item => (item.artifactType, item.artifactId)).Nodup ∧
    ∀ kind, ∀ row ∈ db.rowsOf t kind, ¬Verified keyring kind row ↔
      (kind, row.artifactId) ∈ report.failures.map fun item => (item.artifactType, item.artifactId)
  reads : ∀ kind, ∀ row ∈ db.rowsOf t kind,
    Verified keyring kind row ∧ getArtifact keyring t kind row.artifactId db = .ok row.payload ∨
    ¬Verified keyring kind row ∧ ∃ e, getArtifact keyring t kind row.artifactId db = .error e ∧
      e.isVerificationError = true

/-- A read of a stored row verifies that row. -/
theorem getArtifact_of_mem {C : Crypto} {db : Database} {t : TenantId} {kind : ArtifactKind}
    (hk : Keyed ArtifactRow.artifactId (db.artifacts kind)) {row : ArtifactRow}
    (hrow : row ∈ db.rowsOf t kind) (keyring : Option (ArtifactKeyring C)) :
    getArtifact keyring t kind row.artifactId db =
      (verifyArtifact keyring kind.value row.artifactId row.payloadSha256 row.payload
        row.envelope).map fun _ => row.payload := by
  have hlook : lookup ArtifactRow.artifactId row.artifactId (db.rowsOf t kind) = some row :=
    lookup_of_mem (hk.sublist List.filter_sublist) hrow
  unfold getArtifact
  rw [hlook]
  show (verifyArtifact keyring kind.value row.artifactId row.payloadSha256 row.payload
    row.envelope).bind (fun _ => Except.ok row.payload) = _
  cases verifyArtifact keyring kind.value row.artifactId row.payloadSha256 row.payload
    row.envelope <;> rfl

/-- **Audit and reads fail closed, exactly when.**  The checkpoints are those of any run of
    transactions; artifact tables and ledger hold any rows at all.  Audit and reads answer as they
    should exactly if every row the tenant sees is answerable. -/
theorem failsClosed_iff (hround : PayloadRoundTrip P) (hjson : KeepsCanonical P)
    (keyring : Option (ArtifactKeyring P.toCrypto)) (t : TenantId) {txns : List (Transaction P)}
    {db : Database} (hcheckpoints : db.checkpoints = (Runs.run commit .empty txns).checkpoints)
    (hk : ∀ kind, Keyed ArtifactRow.artifactId (db.artifacts kind)) :
    FailsClosed keyring t db ↔ ∀ kind, ∀ row ∈ db.rowsOf t kind, Answerable keyring row := by
  constructor
  · rintro ⟨⟨report, hreport, -⟩, -⟩ kind row hrow
    exact answerable_of_verifyArtifacts hreport hrow
  intro hanswerable
  have hinv : CheckpointInvariant P (fun _ => True) (Runs.run commit .empty txns) :=
    checkpointInvariant_run hjson fun _ _ _ _ => trivial
  obtain ⟨report, hreport⟩ : ∃ report, verifyArtifacts P keyring t (fun _ => db) = .ok report := by
    refine verifyArtifacts_returns _ (fun kind row hrow =>
      checkArtifact_returns_iff.mpr (hanswerable kind row hrow)) fun row hrow => ?_
    obtain ⟨checkpoint, hsound⟩ := hinv.sound row (hcheckpoints ▸ (List.mem_filter.mp hrow).1)
    exact checkCheckpoint_returns hround keyring _ hsound
  refine ⟨⟨report, hreport, failures_nodup hk hreport, fun kind row hrow => ?_⟩,
    fun kind row hrow => ?_⟩
  · rw [← verifyArtifact_ok_iff, ← checkArtifact_none, List.mem_map]
    constructor
    · intro hfails
      obtain ⟨item, hitem⟩ := checkArtifact_returns_iff.mpr (hanswerable kind row hrow)
      cases item with
      | none => exact absurd hitem hfails
      | some item =>
        obtain ⟨hkind, hid⟩ := checkArtifact_some hitem
        exact ⟨item, (mem_failures hreport).mpr ⟨kind, row, hrow, hitem⟩, by rw [hkind, hid]⟩
    · rintro ⟨item, hitem, hkey⟩ hnone
      obtain ⟨kind', row', hrow', hfound⟩ := (mem_failures hreport).mp hitem
      obtain ⟨rfl, hid⟩ := checkArtifact_some hfound
      obtain ⟨rfl, hid'⟩ := Prod.mk.inj hkey
      -- the reported row is this one
      obtain rfl : row' = row := (hk item.artifactType).eq_of_key (mem_rowsOf.mp hrow').1
        (mem_rowsOf.mp hrow).1 (hid.symm.trans hid')
      rw [hnone] at hfound
      cases hfound
  · rw [getArtifact_of_mem (hk kind) hrow]
    by_cases hverified : Verified keyring kind row
    · exact Or.inl ⟨hverified, by rw [verifyArtifact_ok_iff.mpr hverified]; rfl⟩
    · obtain ⟨e, herror, he⟩ := (verifyArtifact_answers kind
        (hanswerable kind row hrow)).resolve_left hverified
      exact Or.inr ⟨hverified, e, by rw [herror]; rfl, he⟩

/-! ### On the worked store -/

namespace Sample

/-- The run with a digest column that holds no digest. -/
def unreadableRow : ArtifactRow := { row with payloadSha256 := "tampered" }

def unreadableDb : Database :=
  { anchoredDb with artifacts := Function.update anchoredDb.artifacts .run [unreadableRow] }

theorem anchoredDb_keyed (kind : ArtifactKind) :
    Keyed ArtifactRow.artifactId (anchoredDb.artifacts kind) := by
  cases kind
  · exact List.nodup_singleton _
  · exact List.nodup_nil
  · exact List.nodup_nil

theorem unreadableDb_keyed (kind : ArtifactKind) :
    Keyed ArtifactRow.artifactId (unreadableDb.artifacts kind) := by
  cases kind
  · exact List.nodup_singleton _
  · exact List.nodup_nil
  · exact List.nodup_nil

theorem answerable_row : Answerable (some keyring) row where
  canonical := rfl
  hex := runDigest.property
  ascii := fun _ K keyId signature hK hkey => by
    -- the worked keyring holds no HMAC key
    obtain rfl := Option.some.inj hK
    cases hkey

end Sample

/-- Audit and reads of the worked store, left untouched. -/
theorem failsClosed_untouched :
    FailsClosed (some Sample.keyring) Sample.tenant Sample.anchoredDb := by
  have hcheckpoints : Sample.anchoredDb.checkpoints =
      (Runs.run commit .empty Sample.txns).checkpoints := by rw [Sample.run_txns]
  refine (failsClosed_iff Sample.payloadRoundTrip Sample.keepsCanonical (some Sample.keyring)
    Sample.tenant hcheckpoints Sample.anchoredDb_keyed).mpr fun kind row hrow => ?_
  cases kind with
  | run =>
    obtain rfl := List.mem_singleton.mp (mem_rowsOf.mp hrow).1
    exact Sample.answerable_row
  | comparison => cases (mem_rowsOf.mp hrow).1
  | guardrailEvidence => cases (mem_rowsOf.mp hrow).1

/-- **One bad digest column stops the whole audit**, with the `ValidationError` of the item that
    would have reported it. -/
theorem failsClosed_fails :
    Sample.unreadableDb.checkpoints = (Runs.run commit .empty Sample.txns).checkpoints ∧
      (∀ kind, Keyed ArtifactRow.artifactId (Sample.unreadableDb.artifacts kind)) ∧
      verifyArtifacts Sample.platform (some Sample.keyring) Sample.tenant
        (fun _ => Sample.unreadableDb) = .error (.validationError "expected_sha256") ∧
      ¬FailsClosed (some Sample.keyring) Sample.tenant Sample.unreadableDb := by
  have hcheck : checkArtifact (some Sample.keyring) .run Sample.unreadableRow =
      .error (.validationError "expected_sha256") :=
    checkArtifact_invalid rfl (by decide) (by decide)
  have hrows : auditRows Sample.tenant (fun _ => Sample.unreadableDb) =
      [] ++ [(.run, Sample.unreadableRow)] := rfl
  have haudit : verifyArtifacts Sample.platform (some Sample.keyring) Sample.tenant
      (fun _ => Sample.unreadableDb) = .error (.validationError "expected_sha256") :=
    verifyArtifacts_error hrows (fun _ hp => by cases hp) hcheck
  refine ⟨?_, Sample.unreadableDb_keyed, haudit, ?_⟩
  · rw [Sample.run_txns]
    rfl
  · rintro ⟨⟨report, hreport, -⟩, -⟩
    rw [haudit] at hreport
    cases hreport

end AEControl.Evidence
