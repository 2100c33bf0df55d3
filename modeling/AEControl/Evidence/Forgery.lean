/-
  What a database writer without the signing key can make a read return.

  The writer rewrites the payload, digest and envelope columns of a saved artifact to any values.
  It may copy signatures from anywhere, but a signature it knows verifies only on messages that
  some store signed (`Unforgeable`).  `readBack_iff` says exactly when the read is protected: it
  returns the saved payload or an `ArtifactVerificationError`, unless the writer removes the
  signature altogether, or makes the verification itself raise something else.

  Structure of the proof:
  1. a read of the rewritten row is `verifyArtifact` on the rewritten columns
     (`getArtifact_rewrite`), so its outcome is one of a short list;
  2. **the crux**, `readsBack_verify_iff`: if the verification passes with an envelope, the message
     it verified was signed by a store.  A message determines its digest (`Signatures`), and a
     digest the canonical payload, unless two of the run's texts collide;
  3. the artifact was saved at some moment of a run and has not been touched since
     (`perform_saved`), so the message its store signed is that of the saved payload;
  4. `readBack_iff` takes the two together, for every run and every rewriting.
-/
import AEControl.Evidence.Replicas

namespace AEControl.Evidence

open HashChain Table

variable {P : Platform}

/-! ## The writer -/

/-- A row with other payload, digest and envelope columns. -/
def ArtifactRow.rewritten (payload : Json) (payloadSha256 : String) (envelope : Envelope)
    (r : ArtifactRow) : ArtifactRow :=
  { r with payload := payload, payloadSha256 := payloadSha256, envelope := envelope }

/-- `UPDATE … SET payload, payload_sha256, signature_algorithm, signature_key_id, signature_value`
    on the row of one artifact. -/
def rewriteArtifact (kind : ArtifactKind) (id : UUID) (payload : Json) (payloadSha256 : String)
    (envelope : Envelope) (db : Database) : Database :=
  db.saved kind (Table.update ArtifactRow.artifactId id (fun _ => true)
    (ArtifactRow.rewritten payload payloadSha256 envelope) (db.artifacts kind)) db.ledger

/-- The messages whose signatures the stores have committed. -/
def signedMessages (db : Database) : Set String := fun message =>
  (∃ kind, ∃ a ∈ db.artifacts kind, a.envelope ≠ .unsigned ∧
    message = signatureMessage kind.value a.artifactId a.payloadSha256) ∨
  ∃ c ∈ db.checkpoints,
    message = signatureMessage "ledger_checkpoint" c.checkpointId c.payloadSha256.val

/-- Signatures are unforgeable: among the texts `known`, only signatures of `issued` messages
    verify. -/
def Unforgeable {C : Crypto} (K : ArtifactKeyring C) (known issued : Set String) : Prop :=
  ∀ algorithm keyId artifactType id digest signature, signature ∈ known →
    K.verify algorithm keyId artifactType id digest signature = .ok true →
      signatureMessage artifactType id digest ∈ issued

/-! ## Reads -/

/-- `get_run`, `get_comparison` or `get_guardrail_evidence`. -/
def getByKind {C : Crypto} (keyring : Option (ArtifactKeyring C)) (t : TenantId) :
    ArtifactKind → UUID → Database → Except EvidenceError Json
  | .run => getRun keyring t
  | .comparison => getComparison keyring t
  | .guardrailEvidence => getGuardrailEvidence keyring t

theorem getByKind_eq {C : Crypto} (keyring : Option (ArtifactKeyring C)) (t : TenantId)
    (kind : ArtifactKind) : getByKind keyring t kind = getArtifact keyring t kind := by
  cases kind <;> rfl

/-- A read is protected: it returns the saved payload, up to the order of keys and the sign of
    zeros, or raises an `ArtifactVerificationError`. -/
def ReadsBack (payload : Json) : Except EvidenceError Json → Prop
  | .ok read => read.canon = payload.canon
  | .error e => e.isVerificationError = true

/-- What the writer must not do for the read to be protected: strip the signature of a payload that
    differs from the saved one, or make the verification raise another error than its own, such as
    the `RecursionError` of a payload nested too deep. -/
def Caught {C : Crypto} (reader : Option (ArtifactKeyring C)) (saved payload : Json)
    (payloadSha256 : String) (envelope : Envelope) : Prop :=
  C.canonicalizes payload = true ∧ isAscii payloadSha256 = true ∧
    ((C.sha256 payload.canonicalText).val = payloadSha256 →
      (envelope = .unsigned → payload.canon = saved.canon) ∧
      ∀ K keyId signature, reader = some K → (K.hmacKeys.lookup keyId).isSome = true →
        envelope = ⟨some SignatureAlgorithm.hmacSha256.value, some keyId, some signature⟩ →
        isAscii signature = true)

/-- A read of a rewritten artifact verifies the written columns. -/
theorem getArtifact_rewrite {C : Crypto} {db : Database} {kind : ArtifactKind} {a : ArtifactRow}
    (hk : Keyed ArtifactRow.artifactId (db.artifacts kind)) (ha : a ∈ db.artifacts kind)
    (reader : Option (ArtifactKeyring C)) (payload : Json) (payloadSha256 : String)
    (envelope : Envelope) :
    getArtifact reader a.tenantId kind a.artifactId
        (rewriteArtifact kind a.artifactId payload payloadSha256 envelope db) =
      (verifyArtifact reader kind.value a.artifactId payloadSha256 payload envelope).map
        fun _ => payload := by
  obtain ⟨hrep, -⟩ := update_of_match (p := fun _ => true)
    (f := ArtifactRow.rewritten payload payloadSha256 envelope) hk ha rfl rfl
  set row := a.rewritten payload payloadSha256 envelope with hrow
  have hrows : (rewriteArtifact kind a.artifactId payload payloadSha256 envelope db).artifacts kind =
      Table.update ArtifactRow.artifactId a.artifactId (fun _ => true)
        (ArtifactRow.rewritten payload payloadSha256 envelope) (db.artifacts kind) := by
    rw [rewriteArtifact, Database.saved_artifacts_self]
  have hvisible : row ∈ (rewriteArtifact kind a.artifactId payload payloadSha256 envelope
      db).rowsOf a.tenantId kind :=
    mem_rowsOf.mpr ⟨hrows ▸ hrep.mem_new, rfl⟩
  -- the rewrite keeps the keys, so the read finds the rewritten row
  have hkeyed : Keyed ArtifactRow.artifactId ((rewriteArtifact kind a.artifactId payload
      payloadSha256 envelope db).rowsOf a.tenantId kind) := by
    refine Keyed.sublist ?_ List.filter_sublist
    rw [hrows]
    unfold Keyed
    rw [hrep.keys_eq rfl]
    exact hk
  have hlook : lookup ArtifactRow.artifactId a.artifactId ((rewriteArtifact kind a.artifactId
      payload payloadSha256 envelope db).rowsOf a.tenantId kind) = some row :=
    lookup_of_mem hkeyed hvisible
  unfold getArtifact
  rw [hlook]
  show (verifyArtifact reader kind.value a.artifactId payloadSha256 payload envelope).bind
    (fun _ => Except.ok payload) = _
  cases verifyArtifact reader kind.value a.artifactId payloadSha256 payload envelope <;> rfl

/-- **The read of rewritten columns**, for a writer whose accepted signatures are genuine: it is
    protected exactly if the rewriting is caught. -/
theorem readsBack_verify_iff {C : Crypto} {reader : Option (ArtifactKeyring C)}
    {artifactType : String} {id : UUID} {saved payload : Json} {payloadSha256 : String}
    {envelope : Envelope}
    (hgenuine : ∀ K algorithm keyId signature, reader = some K →
      envelope = ⟨some algorithm, some keyId, some signature⟩ →
      (C.sha256 payload.canonicalText).val = payloadSha256 →
      K.verify algorithm keyId artifactType id payloadSha256 signature = .ok true →
      payload.canon = saved.canon) :
    ReadsBack saved ((verifyArtifact reader artifactType id payloadSha256 payload envelope).map
      fun _ => payload) ↔ Caught reader saved payload payloadSha256 envelope := by
  rw [verifyArtifact_eq, Caught]
  by_cases hcanonical : C.canonicalizes payload = true
  case neg =>
    obtain ⟨e, herror, he⟩ := canonicalJsonText_error hcanonical
    have hother : e.isVerificationError = false := by rcases he with rfl | rfl <;> rfl
    simp [herror, hcanonical, Except.map, ReadsBack, hother]
  rw [canonicalJsonText_of hcanonical]
  by_cases hascii : isAscii payloadSha256 = true
  case neg =>
    simp [hascii, Except.map, ReadsBack, EvidenceError.isVerificationError]
  by_cases hsame : (C.sha256 payload.canonicalText).val = payloadSha256
  case neg =>
    simp [hcanonical, hascii, hsame, Except.map, ReadsBack, EvidenceError.isVerificationError]
  simp only [hcanonical, hascii, hsame, if_true, true_and, forall_const]
  obtain ⟨algorithm, keyId, value⟩ := envelope
  rcases algorithm with _ | algorithm <;> rcases keyId with _ | keyId <;>
    rcases value with _ | signature
  case none.none.none =>
    simp [verifyAuthenticity, Except.map, ReadsBack, Envelope.unsigned]
  case some.some.some =>
    have hsigned : (⟨some algorithm, some keyId, some signature⟩ : Envelope) ≠ .unsigned := by
      simp [Envelope.unsigned]
    have hraises : (¬∃ K, reader = some K ∧
          K.verify algorithm keyId artifactType id payloadSha256 signature = .error .typeError) ↔
        ∀ K keyId' signature', reader = some K → (K.hmacKeys.lookup keyId').isSome = true →
          (⟨some algorithm, some keyId, some signature⟩ : Envelope) =
            ⟨some SignatureAlgorithm.hmacSha256.value, some keyId', some signature'⟩ →
          isAscii signature' = true := by
      simp only [ArtifactKeyring.verify_typeError_iff, Envelope.mk.injEq, Option.some.injEq]
      constructor
      · rintro hnot K _ _ hK hkey ⟨rfl, rfl, rfl⟩
        by_contra hascii'
        exact hnot ⟨K, hK, rfl, hkey, by simpa using hascii'⟩
      · rintro hall ⟨K, hK, hhmac, hkey, hascii'⟩
        rw [hall K keyId signature hK hkey ⟨hhmac, rfl, rfl⟩] at hascii'
        cases hascii'
    rw [← hraises]
    simp only [hsigned, false_implies, true_and]
    rcases verifyAuthenticity_complete reader artifactType id payloadSha256 algorithm keyId
      signature with ⟨hok, K, hK, hverify⟩ | ⟨hnot, reason, herror⟩ | ⟨hraise, herror⟩
    · -- accepted: the signature is genuine, and `verify` answered instead of raising
      have hquiet : ¬∃ K, reader = some K ∧
          K.verify algorithm keyId artifactType id payloadSha256 signature =
            .error .typeError := by
        rintro ⟨K', hK', hverify'⟩
        rw [Option.some.inj (hK.symm.trans hK'), hverify'] at hverify
        cases hverify
      rw [hok]
      exact iff_of_true (hgenuine K algorithm keyId signature hK rfl hsame hverify) hquiet
    · rw [herror]
      exact iff_of_true rfl hnot
    · rw [herror]
      exact iff_of_false (by simp [Except.map, ReadsBack, EvidenceError.isVerificationError])
        (not_not.mpr hraise)
  all_goals
    simp [verifyAuthenticity, Except.map, ReadsBack, Envelope.unsigned,
      EvidenceError.isVerificationError]

/-! ## Saved artifacts -/

/-- The artifact a transaction saves. -/
def Transaction.artifact : Transaction P → Option (TenantId × ArtifactKind × UUID × Json)
  | .saveRun _ t runId payload => some (t, .run, runId, payload)
  | .saveComparison _ t comparisonId _ _ payload => some (t, .comparison, comparisonId, payload)
  | .saveGuardrailEvidence _ t evidenceId payload =>
    some (t, .guardrailEvidence, evidenceId, payload)
  | .createLedgerCheckpoint .. => none

/-- A save that returns, taken apart. -/
theorem perform_saved {db db' : Database}
    (hk : ∀ kind, Keyed ArtifactRow.artifactId (db.artifacts kind)) {txn : Transaction P}
    {t : TenantId} {kind : ArtifactKind} {id : UUID} {payload : Json}
    (hartifact : txn.artifact = some (t, kind, id, payload)) (h : txn.perform db = .ok db') :
    Nonempty (Saved P txn.keyring t kind id payload db db') := by
  cases txn with
  | saveRun keyring t' runId payload' =>
    cases hartifact
    exact saveArtifact_ok (fun _ _ => upsertRow_ok (hk _)) h
  | saveComparison keyring t' comparisonId baseline candidate payload' =>
    cases hartifact
    exact saveComparison_ok h
  | saveGuardrailEvidence keyring t' evidenceId payload' =>
    cases hartifact
    exact saveArtifact_ok (fun _ _ => insertRow_ok) h
  | createLedgerCheckpoint keyring t' days lookupNow now id' => cases hartifact

/-- It has stored a row with the payload's digest. -/
theorem perform_artifact {db db' : Database}
    (hk : ∀ kind, Keyed ArtifactRow.artifactId (db.artifacts kind)) {txn : Transaction P}
    {t : TenantId} {kind : ArtifactKind} {id : UUID} {payload : Json}
    (hartifact : txn.artifact = some (t, kind, id, payload)) (h : txn.perform db = .ok db') :
    ∃ a ∈ db'.artifacts kind, a.tenantId = t ∧ a.artifactId = id ∧
      a.payloadSha256 = (P.sha256 payload.canonicalText).val := by
  obtain ⟨hs⟩ := perform_saved hk hartifact h
  refine ⟨⟨t, id, hs.stored, hs.digest.val, hs.envelope⟩, ?_, rfl, rfl,
    congrArg Subtype.val (artifactDigest_ok.mp hs.hdigest).2.symm⟩
  exact hs.artifacts_self ▸ hs.hwrite.mem_new

/-- **No forged evidence on read, exactly when.**  An artifact is saved, by any store with or
    without an active signing key, at any moment of any run of transactions; later a writer rewrites
    its payload, digest and envelope to any values, a signature being one of those it knows.
    Signatures are unforgeable and SHA-256 does not collide on the saved and the written payload.
    Then the read returns the saved payload or raises an `ArtifactVerificationError` if and only if
    the rewriting is `Caught`. -/
theorem readBack_iff {before after : List (Transaction P)} {txn : Transaction P} {db : Database}
    {t : TenantId} {kind : ArtifactKind} {id : UUID} {saved : Json}
    (hartifact : txn.artifact = some (t, kind, id, saved))
    (hcommit : txn.perform (Runs.run commit .empty before) = .ok db)
    {reader : Option (ArtifactKeyring P.toCrypto)} {payload : Json} {payloadSha256 : String}
    {envelope : Envelope} {known : Set String}
    (hknown : ∀ signature, envelope.value = some signature → signature ∈ known)
    (hunforgeable : ∀ K, reader = some K →
      Unforgeable K known (signedMessages (Runs.run commit db after)))
    (hcollision : NoCollision P.toCrypto payload.canonicalText saved.canonicalText) :
    ReadsBack saved (getByKind reader t kind id
      (rewriteArtifact kind id payload payloadSha256 envelope (Runs.run commit db after))) ↔
    Caught reader saved payload payloadSha256 envelope := by
  -- the state before the rewriting is one of a run, and still holds the saved row
  have hrun : Runs.run commit db after = Runs.run commit .empty (before ++ txn :: after) := by
    rw [Runs.run_append, Runs.run_cons, commit_of_ok hcommit]
  have hinv : LedgerInvariant P.toCrypto (Runs.run commit db after) :=
    hrun ▸ ledgerInvariant_run (before ++ txn :: after)
  obtain ⟨a₀, ha₀, ht₀, hid₀, hsha₀⟩ :=
    perform_artifact (ledgerInvariant_run before).artifacts_keyed hartifact hcommit
  have hdb : db = Runs.run commit .empty (before ++ [txn]) := by
    rw [Runs.run_snoc, commit_of_ok hcommit]
  have hgrows : Grows db (Runs.run commit db after) :=
    Runs.run_grows commit (LedgerInvariant P.toCrypto) Grows.refl Grows.trans
      (fun _ txn hinv => hinv.commit txn) (fun _ txn hinv => grows_commit hinv txn)
      (hdb ▸ ledgerInvariant_run (before ++ [txn])) after
  obtain ⟨a, ha, ht, hid, hsha, -⟩ := hgrows.artifacts kind a₀ ha₀
  obtain rfl : a.tenantId = t := ht.trans ht₀
  obtain rfl : a.artifactId = id := hid.trans hid₀
  rw [getByKind_eq, getArtifact_rewrite (hinv.artifacts_keyed kind) ha]
  refine readsBack_verify_iff fun K algorithm keyId signature hK henvelope hsame hverify => ?_
  -- an accepted signature is one of this very artifact, so the digest is that of the saved payload
  have hissued := hunforgeable K hK algorithm keyId kind.value a.artifactId payloadSha256 signature
    (hknown signature (by rw [henvelope])) hverify
  have hdigest : payloadSha256 = a.payloadSha256 := by
    rcases hissued with ⟨kind', a', ha', -, hmessage⟩ | ⟨c, -, hmessage⟩
    · obtain ⟨hkind, hids, hshas⟩ :=
        signatureMessage_inj kind.colon_notMem kind'.colon_notMem hmessage
      obtain rfl := ArtifactKind.value_inj hkind
      rw [hshas, (hinv.artifacts_keyed kind).eq_of_key ha ha' hids]
    · obtain ⟨hkind, -⟩ := signatureMessage_inj kind.colon_notMem (by decide) hmessage
      exact absurd hkind (by cases kind <;> decide)
  refine Json.canonicalText_inj.mp (hcollision (Subtype.ext ?_))
  rw [hsame, hdigest, hsha, hsha₀]

namespace Sample

/-- A writer that knows the run's signature only. -/
theorem unforgeable : Unforgeable keyring {runSignature} (signedMessages savedDb) := by
  intro algorithm keyId artifactType id digest s hs hverify
  obtain rfl : s = runSignature := hs
  have hsignature : runSignature = signature (signatureMessage artifactType id digest) := by
    unfold ArtifactKeyring.verify at hverify
    simp only [keyring, List.lookup_nil] at hverify
    split_ifs at hverify
    split at hverify
    · cases hverify
    · exact of_decide_eq_true (Except.ok.inj hverify)
  unfold signature at hsignature
  split_ifs at hsignature with hrun hcheckpoint
  · exact Or.inl ⟨.run, row, List.mem_singleton.mpr rfl, by decide, hrun⟩
  · exact absurd hsignature (by decide)
  · exact absurd hsignature (by decide)

theorem noCollision : NoCollision platform.toCrypto (Json.obj (runItems "tampered")).canonicalText
    (Json.obj (runItems "baseline")).canonicalText := by
  intro h
  have h : tamperedDigest = runDigest := sha256_tampered.symm.trans (h.trans sha256_run)
  exact absurd (congrArg Subtype.val h) (by decide)

theorem row_mem : row ∈ savedDb.artifacts .run := List.mem_singleton.mpr rfl

theorem savedDb_keyed : Keyed ArtifactRow.artifactId (savedDb.artifacts .run) :=
  List.nodup_singleton _

end Sample

/-- The tampered run with the saved run's signature is refused. -/
theorem readBack_iff_copied_signature :
    ReadsBack (.obj (Sample.runItems "baseline")) (getByKind (some Sample.keyring) Sample.tenant
      .run 1 (rewriteArtifact .run 1 (.obj (Sample.runItems "tampered")) Sample.tamperedDigest.val
        Sample.envelope Sample.savedDb)) := by
  have hcommit : (Transaction.saveRun (some Sample.keyring) Sample.tenant 1
      (.obj (Sample.runItems "baseline")) : Transaction Sample.platform).perform
        (Runs.run commit .empty ([] : List (Transaction Sample.platform))) = .ok Sample.savedDb :=
    Sample.saveRun_empty
  have hunforgeable : ∀ K, some Sample.keyring = some K → Unforgeable K {Sample.runSignature}
      (signedMessages (Runs.run commit Sample.savedDb ([] : List (Transaction Sample.platform)))) := by
    rintro _ ⟨⟩
    exact Sample.unforgeable
  have hknown : ∀ signature, Sample.envelope.value = some signature →
      signature ∈ ({Sample.runSignature} : Set String) := fun _ h => (Option.some.inj h).symm
  refine (readBack_iff rfl hcommit hknown hunforgeable Sample.noCollision).mpr
    ⟨rfl, HexDigest.isAscii _, fun _ => ⟨fun h => ?_, fun K keyId signature _ _ h => ?_⟩⟩
  · exact absurd h (by decide)
  · have hne : Sample.envelope.algorithm ≠ some SignatureAlgorithm.hmacSha256.value := by decide
    exact absurd (congrArg Envelope.algorithm h) hne

/-- **Removing the signature.**  The run is saved under an active key; the writer replaces it by the
    tampered run with its digest and empties the envelope: the read returns the tampered run. -/
theorem strippedSignature_breaks_readBack :
    Sample.keyring.activeKeyId = some "portfolio-2026-07" ∧
    saveRun Sample.platform (some Sample.keyring) Sample.tenant 1
      (.obj (Sample.runItems "baseline")) .empty = .ok Sample.savedDb ∧
    Unforgeable Sample.keyring {Sample.runSignature} (signedMessages Sample.savedDb) ∧
    NoCollision Sample.platform.toCrypto (Json.obj (Sample.runItems "tampered")).canonicalText
      (Json.obj (Sample.runItems "baseline")).canonicalText ∧
    getRun (some Sample.keyring) Sample.tenant 1 (rewriteArtifact .run 1
        (.obj (Sample.runItems "tampered")) Sample.tamperedDigest.val .unsigned Sample.savedDb) =
      .ok (.obj (Sample.runItems "tampered")) ∧
    (Json.obj (Sample.runItems "tampered")).canon ≠
      (Json.obj (Sample.runItems "baseline")).canon := by
  refine ⟨rfl, Sample.saveRun_empty, Sample.unforgeable, Sample.noCollision, ?_, fun h => ?_⟩
  · have hverify : verifyArtifact (some Sample.keyring) ArtifactKind.run.value Sample.row.artifactId
        Sample.tamperedDigest.val (.obj (Sample.runItems "tampered")) .unsigned = .ok () :=
      verifyArtifact_of_digest _ _ _ _ rfl (congrArg Subtype.val Sample.sha256_tampered)
    have hread := getArtifact_rewrite Sample.savedDb_keyed Sample.row_mem (some Sample.keyring)
      (.obj (Sample.runItems "tampered")) Sample.tamperedDigest.val .unsigned
    rw [hverify] at hread
    exact hread
  · have hne := congrArg Subtype.val (Sample.sha256_tampered.symm.trans
      ((congrArg Sample.sha256 (Json.canonicalText_inj.mpr h)).trans Sample.sha256_run))
    exact absurd hne (by decide)

end AEControl.Evidence
