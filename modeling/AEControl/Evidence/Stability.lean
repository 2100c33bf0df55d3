/-
  Digests through storage: what `save_run`, `save_comparison` and `save_guardrail_evidence` hash,
  and what the reads and the audit hash again.

  A save hashes Python's text of the payload; a read hashes the text of the value the column gives
  back (`Lib/Jsonb`).  The two agree for every payload but one with a float from `1e16` on:
  `_normalize_json` takes care of the sign of zero only, and such a float comes back as an integer.
  An untouched artifact with one is reported as tampered.

  Structure of the proof:
  1. `StoresExactly` is the documented behaviour of a JSONB column and of `json.loads`: the stored
     value comes back by way of `Json.readBack`, in some order of keys;
  2. **the crux**, `Json.canon_readBack_iff` of `Lib/Jsonb`: what comes back has the canonical form
     of the payload exactly if each of its floats is below `1e16`;
  3. a row whose digest is that of its payload verifies, with the envelope its store signed, for
     every reader that holds the keys (`verifyAuthenticity_of_signArtifact`), and a row that
     verifies is stable (`StableThroughStorage.of_verify`), so `digestStable_iff` is one statement
     for the three kinds;
  4. of the two worked runs one took a quarter of a second and the other `1e16` seconds.
-/
import AEControl.Lib.Jsonb
import AEControl.Evidence.Canonical
import AEControl.Evidence.Saving
import AEControl.Evidence.Tampering
import AEControl.Evidence.Forgery

namespace AEControl.Evidence

open Table

variable {P : Platform}

/-! ## Stored artifacts -/

/-- The documented behaviour of a JSONB column and of `json.loads`: the stored value comes back by
    way of `Json.readBack`, in some order of keys. -/
def StoresExactly (P : Platform) (F : Json.FloatReader) : Prop :=
  ∀ j k, P.jsonb j = some k → k.canon = (j.readBack F).canon

/-- The digest of a stored row is that of its payload; wherever the row is found untouched its read
    returns it, and the audit does not report it. -/
structure StableThroughStorage {C : Crypto} (reader : Option (ArtifactKeyring C))
    (kind : ArtifactKind) (row : ArtifactRow) : Prop where
  digest : (artifactDigest C row.payload).map Subtype.val = .ok row.payloadSha256
  returned : ∀ db : Database,
    lookup ArtifactRow.artifactId row.artifactId (db.rowsOf row.tenantId kind) = some row →
      getByKind reader row.tenantId kind row.artifactId db = .ok row.payload
  unreported : checkArtifact reader kind row = .ok none

/-- A signature of the store is accepted by every reader that holds its keys. -/
theorem verifyAuthenticity_of_signArtifact {C : Crypto} (hcrypto : ArtifactKeyring.SignsVerify C)
    {keyring reader : Option (ArtifactKeyring C)}
    (hreader : ∀ K, keyring = some K → ∃ A, reader = some A ∧ A.Covers K) {kind : ArtifactKind}
    {id : UUID} {digest : HexDigest} {envelope : Envelope}
    (h : signArtifact keyring kind id digest = .ok envelope) :
    verifyAuthenticity reader kind.value id digest.val envelope = .ok () := by
  cases keyring with
  | none =>
    obtain rfl := Except.ok.inj h
    rfl
  | some K =>
    obtain ⟨A, rfl, hcovers⟩ := hreader K rfl
    obtain ⟨signature, hsign, h⟩ := Raising.bind_ok h
    obtain ⟨keyId, a, hkey, ha⟩ := ArtifactKeyring.sign_active hsign
    have hverify := ArtifactKeyring.verify_of_sign hcrypto hcovers hkey ha hsign
    obtain rfl := Except.ok.inj h
    unfold verifyAuthenticity
    simp only [hkey, ha, Option.map_some, hverify]

/-- A row that verifies is stable. -/
theorem StableThroughStorage.of_verify {C : Crypto} {reader : Option (ArtifactKeyring C)}
    {kind : ArtifactKind} {row : ArtifactRow} (hcanonical : C.canonicalizes row.payload = true)
    (hdigest : (C.sha256 row.payload.canonicalText).val = row.payloadSha256)
    (henvelope : verifyAuthenticity reader kind.value row.artifactId row.payloadSha256
      row.envelope = .ok ()) : StableThroughStorage reader kind row := by
  have hverify : verifyArtifact reader kind.value row.artifactId row.payloadSha256 row.payload
      row.envelope = .ok () :=
    (verifyArtifact_of_digest reader kind.value row.artifactId row.envelope hcanonical
      hdigest).trans henvelope
  refine ⟨?_, fun db hlookup => ?_, checkArtifact_none.mpr hverify⟩
  · rw [artifactDigest_of hcanonical]
    exact congrArg Except.ok hdigest
  · rw [getByKind_eq, getArtifact, hlookup]
    simp only [hverify, bind, Except.bind]

/-- **Digests are stable through storage, exactly when.**  An artifact is saved, by any store, at any
    moment of any run of transactions, and read by a store that holds the keys it was signed with.
    SHA-256 does not collide on the payload and what comes back for it.  Then the untouched row is
    returned and never reported if and only if every float of the payload, at any depth, is below
    `1e16` in absolute value. -/
theorem digestStable_iff {F : Json.FloatReader} (hjsonb : StoresExactly P F)
    (hcrypto : ArtifactKeyring.SignsVerify P.toCrypto) {before : List (Transaction P)}
    {txn : Transaction P} {db : Database} {t : TenantId} {kind : ArtifactKind} {id : UUID}
    {payload : Payload} (hartifact : txn.artifact = some (t, kind, id, payload.val))
    (hcommit : txn.perform (Runs.run commit .empty before) = .ok db)
    (hfloats : ∀ x ∈ payload.val.floats, F.IsFloat x)
    {reader : Option (ArtifactKeyring P.toCrypto)}
    (hreader : ∀ K, txn.keyring = some K → ∃ A, reader = some A ∧ A.Covers K)
    (hcollision : ∀ stored, P.jsonb payload.val = some stored →
      NoCollision P.toCrypto stored.canonicalText payload.val.canonicalText) :
    ∃ row, lookup ArtifactRow.artifactId id (db.rowsOf t kind) = some row ∧
      (StableThroughStorage reader kind row ↔ ∀ x ∈ payload.val.floats, |x.value| < 10 ^ 16) := by
  have hkeyed := (ledgerInvariant_run (P := P) before).artifacts_keyed
  obtain ⟨hs⟩ := perform_saved hkeyed hartifact hcommit
  obtain ⟨hcanonical, hdigest⟩ := artifactDigest_ok.mp hs.hdigest
  -- the row the save left
  have hmem : ⟨t, id, hs.stored, hs.digest.val, hs.envelope⟩ ∈ db.rowsOf t kind :=
    mem_rowsOf.mpr ⟨hs.artifacts_self ▸ hs.hwrite.mem_new, rfl⟩
  refine ⟨_, lookup_of_mem ((hs.keyed hkeyed kind).sublist List.filter_sublist) hmem, ?_⟩
  rw [← Json.canon_readBack_iff payload.val payload.property hfloats, ← hjsonb _ _ hs.hstored]
  constructor
  · intro hstable
    refine Json.canonicalText_inj.mp (hcollision _ hs.hstored (Subtype.ext ?_))
    obtain ⟨digest, hread, hsame⟩ := Raising.map_ok hstable.digest
    obtain ⟨-, rfl⟩ := artifactDigest_ok.mp hread
    rw [hdigest]
    exact hsame
  · intro hcanon
    refine StableThroughStorage.of_verify ?_ ?_
      (verifyAuthenticity_of_signArtifact hcrypto hreader hs.hsign)
    · rw [canonicalizes_of_canon_eq hcanon]
      exact hcanonical
    · show (P.sha256 hs.stored.canonicalText).val = hs.digest.val
      rw [Json.canonicalText_inj.mpr hcanon, hdigest]

/-! ### A run that takes long

A run of one case, with the result of the evaluator `execution_duration`, and its real digests. -/

namespace LongRun

open Json Saving

def one : PyFloat := .finite ⟨"1.0", by decide⟩

def quarter : PyFloat := .finite ⟨"0.25", by decide⟩

/-- `1e16`. -/
def huge : PyFloat := .finite ⟨"1e+16", by decide⟩

/-- `float()` on the literals of this store. -/
def nearest (negative : Bool) (q : ℚ) : PyFloat :=
  if q = 0 then if negative then .negZero else .zero
  else if negative then .nan
  else if q = 1 / 4 then quarter
  else if q = 1 then one
  else if q = 10 ^ 16 then huge
  else .nan

/-- A text of value zero is read as zero. -/
theorem nearest_zero : nearest false 0 = .zero := by simp [nearest]

/-- The zero that is read keeps the sign of its text. -/
theorem nearest_negZero : nearest true 0 = .negZero := by simp [nearest]

def floatReader : FloatReader := ⟨nearest, nearest_zero, nearest_negZero⟩

/-- `model_dump` of the case. -/
def caseItems : List (String × Json) :=
  [("case_id", .str "case-1"), ("title", .str "Repair"), ("slice", .str "core"),
    ("bug_kind", .str "logic"), ("severity", .str "medium"), ("expected_tools", .arr []),
    ("forbidden_tools", .arr []), ("expected_modified_files", .arr []),
    ("forbidden_modified_files", .arr [])]

/-- `model_dump` of the agent's output. -/
def outputItems (duration : PyFloat) : List (String × Json) :=
  [("final_response", .null),
    ("trajectory", .obj [("trajectory_id", .str "00000000-0000-0000-0000-000000000002"),
      ("started_at", .str "2026-01-01T00:00:00Z"), ("completed_at", .null), ("steps", .arr [])]),
    ("patch", .str ""), ("modified_files", .arr []), ("public_test_output", .str "ok"),
    ("hidden_test_output", .str "ok"), ("duration_seconds", .float duration),
    ("status", .str "passed"), ("error", .null), ("runtime_metadata", .obj [])]

/-- The run whose case took `duration`. -/
def run (duration : PyFloat) (passed : Bool) (score : PyFloat) (explanation : String) :
    EvaluationRun :=
  ⟨1, "coding", "repair", "1", "baseline", Saving.Sample.startedAt, Saving.Sample.completedAt,
    [⟨.obj caseItems, "baseline", .passed, Saving.Sample.startedAt, Saving.Sample.completedAt,
      .obj (outputItems duration),
      [⟨"execution_duration", passed, score, explanation, some duration⟩]⟩]⟩

def quick : EvaluationRun := run quarter true one "0.250s"

def slow : EvaluationRun := run huge false .zero "10000000000000000.000s"

variable (P : RunPlatform) (duration score : PyFloat) (passed : Bool) (explanation : String)

/-- The floats of the run: the duration twice and the score. -/
theorem floats_run :
    ((run duration passed score explanation).dump P).floats = [duration, score, duration] := by
  simp [run, EvaluationRun.dump, EvaluationRun.items, CaseResult.items, EvaluationResult.items,
    caseItems, outputItems, floats, floatsFields, floatsItems]

/-- With finite floats the dumped run is well formed. -/
theorem wellFormed_run (hduration : duration.isFinite = true) (hscore : score.isFinite = true) :
    ((run duration passed score explanation).dump P).WellFormed := by
  simp [run, EvaluationRun.dump, EvaluationRun.items, CaseResult.items, EvaluationResult.items,
    caseItems, outputItems, WellFormed, WellFormedFields, WellFormedItems, hduration, hscore]

/-- With finite floats `json.dumps` prints the dumped run. -/
theorem encodable_run (hduration : duration.isFinite = true) (hscore : score.isFinite = true) :
    ((run duration passed score explanation).dump P).encodable = true := by
  simp [run, EvaluationRun.dump, EvaluationRun.items, CaseResult.items, EvaluationResult.items,
    caseItems, outputItems, encodable, encodableFields, encodableItems, hduration, hscore]

/-- It is nested no deeper than the result of a case. -/
theorem height_run : ((run duration passed score explanation).dump P).height = 6 := rfl

/-- The dumped run is within every recursion limit, for it is not nested deeply. -/
theorem canonicalizes_run (hduration : duration.isFinite = true) (hscore : score.isFinite = true)
    (I : Interpreter) :
    I.canonicalizes ((run duration passed score explanation).dump P) = true := by
  refine Interpreter.canonicalizes_of_height ?_ (encodable_run P _ _ _ _ hduration hscore)
  rw [height_run]
  decide

/-! #### Its floats -/

/-- Each one has a text that is read as it. -/
theorem isFloat_samples : floatReader.IsFloat .zero ∧ floatReader.IsFloat quarter ∧
    floatReader.IsFloat one ∧ floatReader.IsFloat huge :=
  ⟨⟨⟨false, ['0'], 1, by decide, List.all_eq_true.mp rfl, by decide, by decide⟩, rfl,
      by decide +kernel⟩,
    ⟨⟨false, ['2', '5'], 0, by decide, List.all_eq_true.mp rfl, by decide, by decide⟩, rfl,
      by decide +kernel⟩,
    ⟨⟨false, ['1'], 1, by decide, List.all_eq_true.mp rfl, by decide, by decide⟩, rfl,
      by decide +kernel⟩,
    ⟨⟨false, ['1'], 17, by decide, List.all_eq_true.mp rfl, by decide, by decide⟩, rfl,
      by decide +kernel⟩⟩

theorem isFloat_zero : floatReader.IsFloat .zero := isFloat_samples.1

theorem isFloat_quarter : floatReader.IsFloat quarter := isFloat_samples.2.1

theorem isFloat_one : floatReader.IsFloat one := isFloat_samples.2.2.1

theorem isFloat_huge : floatReader.IsFloat huge := isFloat_samples.2.2.2

/-- Only the last one is out of the reach of an exact integer. -/
theorem magnitudes : |PyFloat.zero.value| < 10 ^ 16 ∧ |quarter.value| < 10 ^ 16 ∧
    |one.value| < 10 ^ 16 ∧ ¬|huge.value| < 10 ^ 16 := by
  decide +kernel

/-- Zero is below the bound from which Python writes an exponent. -/
theorem zero_lt : |PyFloat.zero.value| < 10 ^ 16 := magnitudes.1

theorem quarter_lt : |quarter.value| < 10 ^ 16 := magnitudes.2.1

theorem one_lt : |one.value| < 10 ^ 16 := magnitudes.2.2.1

/-- The huge float is not below it: it is the bound itself. -/
theorem not_huge_lt : ¬|huge.value| < 10 ^ 16 := magnitudes.2.2.2

/-! #### Its store -/

/-- The payload of a run. -/
def dumped (run : EvaluationRun) : Json := run.dump Saving.Sample.runPlatform

def quickDigest : HexDigest :=
  ⟨"b17a1613c0406965f197c87f8546727de547fff93d04f4af2e1551f0596d0684", by decide +kernel⟩

def slowDigest : HexDigest :=
  ⟨"4391f1828b0d22f7414e5cbb1fc75c49f67f11b6f5d2f0b571a4791f5bf7b2be", by decide +kernel⟩

/-- The digest of the slow run with integers for its durations. -/
def integralDigest : HexDigest :=
  ⟨"df6d63122bb3d6cfe4627f1d3da9140b5f08c8dbf1ed53d1c31118b8c24a5ca2", by decide +kernel⟩

def quickEntryDigest : HexDigest :=
  ⟨"4b94627f4f864d18ee7a72befd6d7a7ee0d0b52ff2db5a3825f201dcf80d8533", by decide +kernel⟩

def slowEntryDigest : HexDigest :=
  ⟨"197e10eb14d54620011bb4c9d431457a3a90b447050924646f582ed58f7a6381", by decide +kernel⟩

theorem first_sequence : 1 ≤ 1 := by omega

/-- The hashed fields of a run's ledger entry. -/
def fields (digest : HexDigest) : LedgerFields :=
  ⟨1, .run, 1, digest, .unsigned, ledgerGenesisSha256, first_sequence⟩

/-- The texts that are hashed for the quick run and its entry, with their digests. -/
def quickDigests : List (String × HexDigest) :=
  [((dumped quick).canonicalText, quickDigest),
    ((entryJson Evidence.Sample.tenant.val (fields quickDigest)).canonicalText, quickEntryDigest)]

/-- Those for the slow run, before and after it was stored. -/
def slowDigests : List (String × HexDigest) :=
  [((dumped slow).canonicalText, slowDigest),
    (((dumped slow).readBack floatReader).canonicalText, integralDigest),
    ((entryJson Evidence.Sample.tenant.val (fields slowDigest)).canonicalText, slowEntryDigest)]

/-- SHA-256 on some texts. -/
@[irreducible] def sha256 (digests : List (String × HexDigest)) (text : String) : HexDigest :=
  (digests.lookup text).getD ledgerGenesisSha256

/-- The platform of a store that hashes these texts. -/
def platform (digests : List (String × HexDigest)) : RunPlatform :=
  { Saving.Sample.runPlatform with
    sha256 := sha256 digests
    jsonb := fun j => some (j.readBack floatReader) }

/-- The row a save of the run leaves, unsigned. -/
def row (run : EvaluationRun) (digest : HexDigest) : ArtifactRow :=
  ⟨Evidence.Sample.tenant, 1, (dumped run).readBack floatReader, digest.val, .unsigned⟩

/-- The store after it. -/
def savedDb (digests : List (String × HexDigest)) (run : EvaluationRun) (digest : HexDigest) :
    Database :=
  Database.empty.saved .run [row run digest]
    [nextEntry (platform digests).toCrypto Evidence.Sample.tenant .run 1 digest .unsigned none]

section Store

variable (digests : List (String × HexDigest))

/-- The columns keep what they are given, as the reader of the floats reads it back. -/
theorem storesExactly : StoresExactly (platform digests).toPlatform floatReader := by
  intro j k h
  rw [← Option.some.inj h]

/-- What the platform signs it verifies. -/
theorem signsVerify : ArtifactKeyring.SignsVerify (platform digests).toCrypto := fun _ _ =>
  decide_eq_true rfl

/-- The first listed text has the digest listed with it. -/
theorem sha256_head (text : String) (digest : HexDigest) :
    sha256 ((text, digest) :: digests) text = digest := by
  rw [sha256, List.lookup_cons_self]
  rfl

variable {digests}

/-- The platform dumps a run as written out above. -/
theorem dump_platform (run : EvaluationRun) : run.dump (platform digests) = dumped run := rfl

/-- Saving the run into an empty store leaves its row and its entry. -/
theorem saveRun_savedDb {run : EvaluationRun} {digest : HexDigest}
    (h : artifactDigest (platform digests).toCrypto (dumped run) = .ok digest) :
    Evidence.saveRun (platform digests).toPlatform none Evidence.Sample.tenant 1 (dumped run)
      .empty = .ok (savedDb digests run digest) := by
  have hledger : appendLedgerValues (platform digests).toCrypto Evidence.Sample.tenant .run 1 digest
      .unsigned .empty = .ok [nextEntry (platform digests).toCrypto Evidence.Sample.tenant .run 1
        digest .unsigned none] := rfl
  have hwrite : upsertRow (row run digest) (Database.empty.artifacts .run) =
      .ok [row run digest] := rfl
  exact saveArtifact_of_steps h rfl rfl hwrite hledger

/-- The row is found again. -/
theorem lookup_savedDb (run : EvaluationRun) (digest : HexDigest) :
    lookup ArtifactRow.artifactId 1
        ((savedDb digests run digest).rowsOf Evidence.Sample.tenant .run) =
      some (row run digest) := by
  have hrows : (savedDb digests run digest).rowsOf Evidence.Sample.tenant .run =
      [row run digest] := by
    simp [Database.rowsOf, savedDb, row]
  rw [hrows]
  simp [lookup, row]

end Store

/-- The floats of the quick run are doubles. -/
theorem isFloat_quick : ∀ x ∈ (dumped quick).floats, floatReader.IsFloat x := by
  rw [dumped, quick, floats_run]
  simp [isFloat_quarter, isFloat_one]

/-- The floats of the slow run are doubles, the huge one among them. -/
theorem isFloat_slow : ∀ x ∈ (dumped slow).floats, floatReader.IsFloat x := by
  rw [dumped, slow, floats_run]
  simp [isFloat_huge, isFloat_zero]

/-- The floats of the quick run are all below the bound. -/
theorem quick_lt : ∀ x ∈ (dumped quick).floats, |x.value| < 10 ^ 16 := by
  rw [dumped, quick, floats_run]
  simp only [List.mem_cons, List.not_mem_nil, or_false]
  rintro x (rfl | rfl | rfl)
  · exact quarter_lt
  · exact one_lt
  · exact quarter_lt

/-- The quick run is well formed. -/
theorem wellFormed_quick : (dumped quick).WellFormed := wellFormed_run _ _ _ _ _ rfl rfl

/-- The slow run is well formed. -/
theorem wellFormed_slow : (dumped slow).WellFormed := wellFormed_run _ _ _ _ _ rfl rfl

def quickPayload : Payload := ⟨dumped quick, wellFormed_quick⟩

/-- The save of the quick run. -/
def quickSave : Transaction (platform quickDigests).toPlatform :=
  .saveRun none Evidence.Sample.tenant 1 quickPayload.val

/-- The digest the quick run is saved under. -/
theorem digest_quick : artifactDigest (platform quickDigests).toCrypto (dumped quick) =
    .ok quickDigest :=
  artifactDigest_ok.mpr ⟨canonicalizes_run _ _ _ _ _ rfl rfl _, sha256_head _ _ _⟩

/-- The digest the slow run is saved under. -/
theorem digest_slow : artifactDigest (platform slowDigests).toCrypto (dumped slow) =
    .ok slowDigest :=
  artifactDigest_ok.mpr ⟨canonicalizes_run _ _ _ _ _ rfl rfl _, sha256_head _ _ _⟩

/-- The slow run does not come back. -/
theorem integral_ne : ((dumped slow).readBack floatReader).canonicalText ≠
    (dumped slow).canonicalText := by
  intro h
  have hsmall := (canon_readBack_iff (dumped slow) wellFormed_slow isFloat_slow).mp
    (canonicalText_inj.mp h)
  refine not_huge_lt (hsmall huge ?_)
  rw [dumped, slow, floats_run]
  exact List.mem_cons_self

/-- The digest of what JSONB gives back of the slow run, where the bound is an integer. -/
theorem sha256_integral : sha256 slowDigests ((dumped slow).readBack floatReader).canonicalText =
    integralDigest := by
  have hne : (((dumped slow).readBack floatReader).canonicalText == (dumped slow).canonicalText) =
      false := beq_eq_false_iff_ne.mpr integral_ne
  rw [sha256, slowDigests, List.lookup_cons, hne]
  simp only [List.lookup_cons_self]
  rfl

/-- JSONB gives the bound back as an integer. -/
theorem readBack_huge : (Json.float huge).readBack floatReader = .int 10000000000000000 := rfl

theorem intPrintable_huge : intPrintable 10000000000000000 = true := by
  have hpow : ∀ k : ℕ, 16 < k → 10 ^ 16 < 10 ^ k := fun k hk =>
    Nat.pow_lt_pow_right (by decide) hk
  unfold intPrintable
  rw [decide_eq_true_iff]
  apply hpow
  decide

/-- What comes back for the slow run can be printed. -/
theorem canonicalizes_integral (I : Interpreter) :
    I.canonicalizes ((dumped slow).readBack floatReader) = true := by
  refine Interpreter.canonicalizes_of_height ?_
    (encodable_readBack _ (encodable_run _ _ _ _ _ rfl rfl) ?_)
  · rw [height_readBack, dumped, slow, height_run]
    decide
  rw [dumped, slow, floats_run]
  simp only [List.mem_cons, List.not_mem_nil, or_false]
  rintro x (rfl | rfl | rfl)
  · rw [readBack_huge, encodable]
    exact intPrintable_huge
  · rw [← encodable_canon, (canon_readBack_float isFloat_zero).mpr zero_lt, encodable_canon,
      encodable]
    rfl
  · rw [readBack_huge, encodable]
    exact intPrintable_huge

end LongRun

open LongRun in
/-- A quick run is saved and stays as it is. -/
theorem digestStable_iff_quick : ∃ row, lookup ArtifactRow.artifactId 1
      ((savedDb quickDigests quick quickDigest).rowsOf Evidence.Sample.tenant .run) = some row ∧
    StableThroughStorage (C := (platform quickDigests).toCrypto) none .run row := by
  have hcommit : quickSave.perform (Runs.run commit .empty
      ([] : List (Transaction (platform quickDigests).toPlatform))) =
        .ok (savedDb quickDigests quick quickDigest) := saveRun_savedDb digest_quick
  have hartifact : quickSave.artifact = some (Sample.tenant, .run, 1, quickPayload.val) := rfl
  have hreader : ∀ K, quickSave.keyring = some K →
      ∃ A, (none : Option (ArtifactKeyring (platform quickDigests).toCrypto)) = some A ∧
        A.Covers K := by
    rintro K ⟨⟩
  have hcollision : ∀ stored, (platform quickDigests).jsonb quickPayload.val = some stored →
      NoCollision (platform quickDigests).toCrypto stored.canonicalText
        quickPayload.val.canonicalText := by
    rintro stored h -
    obtain rfl := Option.some.inj h
    exact Json.canonicalText_inj.mpr
      ((Json.canon_readBack_iff _ wellFormed_quick isFloat_quick).mpr quick_lt)
  obtain ⟨row, hrow, hstable⟩ := digestStable_iff (storesExactly quickDigests)
    (signsVerify quickDigests) hartifact hcommit isFloat_quick hreader hcollision
  exact ⟨row, hrow, hstable.mpr quick_lt⟩

open LongRun in
/-- **A long run reads as tampered.**  A run whose case took `1e16` seconds is saved; the read of the
    untouched row computes another digest and raises. -/
theorem digestStable_fails :
    StoresExactly (platform slowDigests).toPlatform floatReader ∧
    (∀ x ∈ (slow.dump (platform slowDigests)).floats, floatReader.IsFloat x) ∧
    saveRun (platform slowDigests).toPlatform none Sample.tenant 1
      (slow.dump (platform slowDigests)) .empty = .ok (savedDb slowDigests slow slowDigest) ∧
    getRun (C := (platform slowDigests).toCrypto) none Sample.tenant 1
      (savedDb slowDigests slow slowDigest) =
        .error (.artifactIntegrity "run" 1 slowDigest.val integralDigest.val) ∧
    ¬StableThroughStorage (C := (platform slowDigests).toCrypto) none .run
      (row slow slowDigest) := by
  have hne : integralDigest.val ≠ slowDigest.val := by decide +kernel
  have hread : getRun (C := (platform slowDigests).toCrypto) none Sample.tenant 1
      (savedDb slowDigests slow slowDigest) =
        .error (.artifactIntegrity "run" 1 slowDigest.val integralDigest.val) := by
    have hverify : verifyArtifact (C := (platform slowDigests).toCrypto) none ArtifactKind.run.value
        1 slowDigest.val ((dumped slow).readBack floatReader) .unsigned =
          .error (.artifactIntegrity "run" 1 slowDigest.val integralDigest.val) := by
      have hsha : ((platform slowDigests).sha256
          ((dumped slow).readBack floatReader).canonicalText) = integralDigest := sha256_integral
      rw [verifyArtifact_eq, canonicalJsonText_of (canonicalizes_integral _)]
      simp only [if_pos (HexDigest.isAscii _), hsha, if_neg hne]
      rfl
    rw [getRun, getArtifact, lookup_savedDb]
    show (verifyArtifact _ _ _ _ _ _).bind _ = _
    rw [row, hverify]
    rfl
  rw [dump_platform]
  refine ⟨storesExactly _, isFloat_slow, saveRun_savedDb digest_slow, hread, fun hstable => ?_⟩
  have hreturned := hstable.returned (savedDb slowDigests slow slowDigest)
    (lookup_savedDb slow slowDigest)
  rw [getByKind] at hreturned
  rw [show (row slow slowDigest).tenantId = Sample.tenant from rfl,
    show (row slow slowDigest).artifactId = 1 from rfl, hread] at hreturned
  cases hreturned

end AEControl.Evidence
