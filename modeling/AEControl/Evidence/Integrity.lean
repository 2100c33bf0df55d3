/-
  `integrity.py`: canonical digests, ledger entry digests and the keyring that signs artifacts and
  verifies their signatures.

  SHA-256, HMAC and Ed25519 are the functions of a `Crypto`; nothing is assumed of them here.  What
  the digests and signatures are computed over is concrete, and read back from: the canonical text
  of a ledger entry determines the entry (`entryJson_inj`), the signed message determines type,
  identifier and digest of the artifact (`signatureMessage_inj`).

  1. **Digests** — a payload has a canonical text if it is nested within the interpreter's recursion
     limit and `json.dumps` accepts its numbers (`canonicalJsonText_ok`), and a digest exactly then
     (`artifactDigest_ok`).

  2. **Entries** — the keys of an entry are distinct (`entryItems_keys_nodup`), so its canonical
     text gives back every field; an identifier is read off its text (`UUID.str_inj`).

  3. **Messages** — type, identifier and digest stand behind colons, and of the three only the type
     could contain one.

  4. **The keyring** — it carries what `ArtifactKeyring.__init__` checks, so that a signer always
     finds its active key (`sign_ok`), and what it signs verifies under every keyring that holds its
     keys (`Covers`, `verify_of_sign`).
-/
import AEControl.Models
import AEControl.Lib.Except
import AEControl.Lib.Json

namespace AEControl.Evidence

open Text

/-! ## Exceptions -/

/-- The reasons of an `ArtifactAuthenticityError`. -/
inductive AuthenticityReason where
  | missingSigningKey
  | incompleteSignature
  | signature
  deriving DecidableEq, Repr

/-- What the evidence methods raise. -/
inductive EvidenceError where
  | keyError (key : String)
  | valueError (message : String)
  /-- A `ValueError` that ends in the `repr` of an offending text. -/
  | invalidValue (message value : String)
  /-- The `ValueError` of `json.dumps`. -/
  | unencodable
  /-- Python's `RecursionError`, a `RuntimeError`. -/
  | recursionError
  | typeError
  | overflowError
  | runtimeError (message : String)
  /-- pydantic's `ValidationError`, naming the field. -/
  | validationError (field : String)
  | artifactIntegrity (artifactType : String) (artifactId : UUID) (expected actual : String)
  | artifactAuthenticity (artifactType : String) (artifactId : UUID)
      (signingKeyId : Option String) (reason : AuthenticityReason) (algorithm : Option String)
  /-- `ArtifactVerificationError` itself. -/
  | artifactVerification (message : String)
  | artifactSigning (message : String)
  /-- What a remote signer raises. -/
  | remoteSigner (message : String)
  | uniqueViolation
  | foreignKeyViolation
  /-- A row that row-level security rejects. -/
  | insufficientPrivilege
  | dataError
  deriving DecidableEq, Repr

namespace EvidenceError

/-- `isinstance(error, ArtifactVerificationError)`. -/
def isVerificationError : EvidenceError → Bool
  | artifactIntegrity .. | artifactAuthenticity .. | artifactVerification _ => true
  | _ => false

def isKeyError : EvidenceError → Bool
  | keyError _ => true
  | _ => false

def isValueError : EvidenceError → Bool
  | valueError _ | invalidValue _ _ | unencodable | validationError _ => true
  | _ => false

end EvidenceError

/-! ## Digests -/

/-- `^[a-f0-9]{64}$`. -/
def isHexDigest (s : String) : Bool := s.toList.length = 64 && s.toList.all isLowerHex

/-- A SHA-256 in lower-case hexadecimal. -/
abbrev HexDigest := { s : String // isHexDigest s = true }

/-- `LEDGER_GENESIS_SHA256`. -/
def ledgerGenesisSha256 : HexDigest :=
  ⟨"0000000000000000000000000000000000000000000000000000000000000000", by decide +kernel⟩

/-- `str.isascii`. -/
def isAscii (s : String) : Bool := s.toList.all fun c => c.toNat < 128

/-- Raw key material. -/
abbrev Bytes := List UInt8

/-- The interpreter's limit on nested calls, as far as `_normalize_json` meets it. -/
structure Interpreter where
  /-- The calls of `_normalize_json` inside each other that the callers leave room for. -/
  recursionLimit : ℕ
  /-- The limit is 1000 calls, and the callers are far fewer. -/
  recursionLimit_ge : 64 ≤ recursionLimit

/-- The worked stores leave room for 900 calls. -/
theorem sample_recursionLimit : 64 ≤ 900 := by omega

/-- The primitives of `hashlib`, `hmac` and `cryptography`.  Signatures are base64 text; a text that
    is no base64 of a signature does not verify. -/
structure Crypto extends Interpreter where
  sha256 : String → HexDigest
  hmacSha256 : Bytes → String → HexDigest
  ed25519PublicKey : Bytes → Bytes
  ed25519Sign : Bytes → String → String
  ed25519Verify : Bytes → String → String → Bool

/-- SHA-256 does not collide on the two texts. -/
def NoCollision (C : Crypto) (s s' : String) : Prop := C.sha256 s = C.sha256 s' → s = s'

/-- `hmac.compare_digest` on two `str`: only ASCII text is accepted. -/
def compareDigest (a b : String) : Except EvidenceError Bool :=
  if isAscii a && isAscii b then .ok (a = b) else .error .typeError

/-- A payload has a canonical text: it is nested within the recursion limit, and its numbers can be
    printed. -/
def Interpreter.canonicalizes (I : Interpreter) (payload : Json) : Bool :=
  payload.height ≤ I.recursionLimit && payload.encodable

/-- The text of `canonical_json_bytes`: `_normalize_json` walks the payload before `json.dumps`. -/
def canonicalJsonText (I : Interpreter) (payload : Json) : Except EvidenceError String :=
  if I.recursionLimit < payload.height then .error .recursionError
  else if payload.encodable then .ok payload.canonicalText
  else .error .unencodable

/-- `artifact_digest`. -/
def artifactDigest (C : Crypto) (payload : Json) : Except EvidenceError HexDigest :=
  C.sha256 <$> canonicalJsonText C.toInterpreter payload

/-- A digest is ASCII. -/
theorem isAscii_of_isHexDigest {s : String} (h : isHexDigest s = true) : isAscii s = true := by
  have hall : s.toList.all isLowerHex = true := (Bool.and_eq_true _ _ ▸ h).2
  refine List.all_eq_true.mpr fun c hc => ?_
  have hc := List.all_eq_true.mp hall c hc
  simp only [isLowerHex, Bool.or_eq_true, Bool.and_eq_true, decide_eq_true_eq] at hc ⊢
  have hle : c ≤ 'f' := hc.elim (fun h => le_trans h.2 (by decide)) And.right
  have : c.toNat ≤ 'f'.toNat := Char.le_def.mp hle
  exact lt_of_le_of_lt this (by decide)

@[simp] theorem HexDigest.isAscii (d : HexDigest) : isAscii d.val = true :=
  isAscii_of_isHexDigest d.property

/-- A comparison that returns says whether the texts are equal. -/
theorem compareDigest_ok {a b : String} {r : Bool} (h : compareDigest a b = .ok r) :
    r = decide (a = b) := by
  unfold compareDigest at h
  split at h
  · exact (Except.ok.inj h).symm
  · cases h

/-- A payload has a canonical text exactly within the two limits. -/
theorem Interpreter.canonicalizes_iff {I : Interpreter} {payload : Json} :
    I.canonicalizes payload = true ↔
      payload.height ≤ I.recursionLimit ∧ payload.encodable = true := by
  rw [Interpreter.canonicalizes, Bool.and_eq_true, decide_eq_true_iff]

/-- A payload of small height is printed whatever the callers leave. -/
theorem Interpreter.canonicalizes_of_height {I : Interpreter} {payload : Json}
    (hheight : payload.height ≤ 64) (hencodable : payload.encodable = true) :
    I.canonicalizes payload = true :=
  canonicalizes_iff.mpr ⟨hheight.trans I.recursionLimit_ge, hencodable⟩

/-- The text of a payload that has one … -/
theorem canonicalJsonText_of {I : Interpreter} {payload : Json}
    (h : I.canonicalizes payload = true) :
    canonicalJsonText I payload = .ok payload.canonicalText := by
  obtain ⟨hheight, hencodable⟩ := Interpreter.canonicalizes_iff.mp h
  rw [canonicalJsonText, if_neg (not_lt.mpr hheight), if_pos hencodable]

/-- … and what is raised for any other, which is no `ArtifactVerificationError`. -/
theorem canonicalJsonText_error {I : Interpreter} {payload : Json}
    (h : ¬I.canonicalizes payload = true) : ∃ e, canonicalJsonText I payload = .error e ∧
      (e = .recursionError ∨ e = .unencodable) := by
  unfold canonicalJsonText
  split_ifs with hheight hencodable
  · exact ⟨_, rfl, Or.inl rfl⟩
  · exact absurd (Interpreter.canonicalizes_iff.mpr ⟨not_lt.mp hheight, hencodable⟩) h
  · exact ⟨_, rfl, Or.inr rfl⟩

/-- The canonical text is returned exactly for an encodable payload within the recursion limits. -/
theorem canonicalJsonText_ok {I : Interpreter} {payload : Json} {text : String} :
    canonicalJsonText I payload = .ok text ↔
      I.canonicalizes payload = true ∧ payload.canonicalText = text := by
  by_cases h : I.canonicalizes payload = true
  · simp [canonicalJsonText_of h, h]
  · obtain ⟨e, he, -⟩ := canonicalJsonText_error h
    simp [he, h]

/-- The digest of a payload within the limits is returned. -/
theorem artifactDigest_of {C : Crypto} {payload : Json} (h : C.canonicalizes payload = true) :
    artifactDigest C payload = .ok (C.sha256 payload.canonicalText) := by
  rw [artifactDigest, canonicalJsonText_of h]
  rfl

/-- A digest that is returned is that of the canonical text. -/
theorem artifactDigest_ok {C : Crypto} {payload : Json} {d : HexDigest} :
    artifactDigest C payload = .ok d ↔
      C.canonicalizes payload = true ∧ C.sha256 payload.canonicalText = d := by
  by_cases h : C.canonicalizes payload = true
  · simp [artifactDigest_of h, h]
  · obtain ⟨e, he, -⟩ := canonicalJsonText_error h
    simp [artifactDigest, he, h]

/-! ## Signature envelopes and ledger entries -/

/-- The artifact classes with a table of their own. -/
inductive ArtifactKind where
  | run
  | comparison
  | guardrailEvidence
  deriving DecidableEq, Repr

namespace ArtifactKind

/-- The `artifact_type` text. -/
def value : ArtifactKind → String
  | run => "run"
  | comparison => "comparison"
  | guardrailEvidence => "guardrail_evidence"

/-- The kinds have different names. -/
theorem value_inj {k k' : ArtifactKind} (h : k.value = k'.value) : k = k' := by
  revert h
  cases k <;> cases k' <;> decide

end ArtifactKind

/-- The three signature columns of a row. -/
structure Envelope where
  algorithm : Option String
  keyId : Option String
  value : Option String
  deriving DecidableEq, Repr

/-- No signature at all. -/
def Envelope.unsigned : Envelope := ⟨none, none, none⟩

/-- The hashed fields of a ledger entry, the tenant apart. -/
structure LedgerFields where
  sequence : ℕ
  artifactType : ArtifactKind
  artifactId : UUID
  payloadSha256 : HexDigest
  envelope : Envelope
  previousEntrySha256 : HexDigest
  /-- `CHECK (sequence >= 1)`. -/
  one_le : 1 ≤ sequence
  deriving DecidableEq

/-- `None` or a text, as JSON. -/
def optionalJson : Option String → Json
  | none => .null
  | some s => .str s

/-- The items of the dictionary `ledger_entry_digest` hashes. -/
def entryItems (tenantId : String) (e : LedgerFields) : List (String × Json) :=
  [("tenant_id", .str tenantId),
    ("sequence", .int e.sequence),
    ("artifact_type", .str e.artifactType.value),
    ("artifact_id", .str e.artifactId.str),
    ("payload_sha256", .str e.payloadSha256.val),
    ("signature_algorithm", optionalJson e.envelope.algorithm),
    ("signing_key_id", optionalJson e.envelope.keyId),
    ("signature", optionalJson e.envelope.value),
    ("previous_entry_sha256", .str e.previousEntrySha256.val)]

/-- That dictionary. -/
def entryJson (tenantId : String) (e : LedgerFields) : Json := .obj (entryItems tenantId e)

/-- `ledger_entry_digest`.  A `BIGINT` is always printable, and the dictionary is flat. -/
def ledgerEntryDigest (C : Crypto) (tenantId : String) (e : LedgerFields) : HexDigest :=
  C.sha256 (entryJson tenantId e).canonicalText

/-- Null and a text are told apart. -/
theorem canon_optionalJson_inj {a b : Option String}
    (h : (optionalJson a).canon = (optionalJson b).canon) : a = b := by
  cases a <;> cases b <;> simp_all [optionalJson, Json.canon]

/-! ### Identifiers are told apart by their text -/

/-- No hexadecimal digit is a dash. -/
theorem dash_notMem_hexDigits (w n : Nat) : '-' ∉ hexDigits w n := by
  intro h
  obtain ⟨d, hd, he⟩ := mem_hexDigits h
  have hne : ∀ d < 16, '-' ≠ hexDigit d := by decide
  exact hne d hd he

/-- No hexadecimal digit is a colon. -/
theorem colon_notMem_hexDigits (w n : Nat) : ':' ∉ hexDigits w n := by
  intro h
  obtain ⟨d, hd, he⟩ := mem_hexDigits h
  have hne : ∀ d < 16, ':' ≠ hexDigit d := by decide
  exact hne d hd he

/-- The 32 digits are the characters of the text that are no dash. -/
theorem UUID.filter_str (u : UUID) :
    u.str.toList.filter (· ≠ '-') = hexDigits 32 u.toNat := by
  have hid : ∀ l : List Char, l.Sublist (hexDigits 32 u.toNat) → l.filter (· ≠ '-') = l := by
    intro l hl
    refine List.filter_eq_self.mpr fun c hc => ?_
    simpa using fun he : c = '-' => dash_notMem_hexDigits 32 u.toNat (he ▸ hl.subset hc)
  have htake : ∀ a b, (((hexDigits 32 u.toNat).drop a).take b).Sublist (hexDigits 32 u.toNat) :=
    fun a b => (List.take_sublist _ _).trans (List.drop_sublist _ _)
  have h8 := hid _ (List.take_sublist 8 _)
  have h20 := hid _ (List.drop_sublist 20 _)
  simp only [UUID.str, String.toList_ofList, List.filter_append, List.filter_cons, h8,
    hid _ (htake _ _), h20]
  generalize hd : hexDigits 32 u.toNat = d
  have hlen : d.length = 32 := by rw [← hd, length_hexDigits]
  simp only [ne_eq, not_true_eq_false, decide_false, Bool.false_eq_true, if_false]
  conv_rhs => rw [← List.take_append_drop 8 d, ← List.take_append_drop 4 (d.drop 8),
    ← List.take_append_drop 4 ((d.drop 8).drop 4),
    ← List.take_append_drop 4 (((d.drop 8).drop 4).drop 4)]
  simp only [List.drop_drop]

/-- **An identifier is read off its text**: the dashes end its groups. -/
theorem UUID.str_inj {u v : UUID} (h : u.str = v.str) : u = v := by
  have hd : hexDigits 32 u.toNat = hexDigits 32 v.toNat := by
    rw [← UUID.filter_str, ← UUID.filter_str, h]
  exact BitVec.eq_of_toNat_eq (hexDigits_inj u.isLt v.isLt hd)

/-- The text of an identifier has no colon. -/
theorem UUID.colon_notMem (u : UUID) : ':' ∉ u.str.toList := by
  intro h
  have : ':' ∈ u.str.toList.filter (· ≠ '-') := List.mem_filter.mpr ⟨h, by decide⟩
  rw [UUID.filter_str] at this
  exact colon_notMem_hexDigits _ _ this

/-! ### The hashed text determines the entry -/

/-- The keys of an entry are distinct. -/
theorem entryItems_keys_nodup (tenantId : String) (e : LedgerFields) :
    ((entryItems tenantId e).map Prod.fst).Nodup := by
  simp only [entryItems, List.map_cons, List.map_nil]
  decide

/-- **Ledger entries are committed to field by field.**  Two entries with one canonical text are
    equal, and so are their tenants. -/
theorem entryJson_inj {t t' : String} {e e' : LedgerFields}
    (h : (entryJson t e).canonicalText = (entryJson t' e').canonicalText) : t = t' ∧ e = e' := by
  have field : ∀ {k : String} {v w : Json}, (k, v) ∈ entryItems t e → (k, w) ∈ entryItems t' e' →
      v.canon = w.canon := fun hv hw =>
    Json.canon_obj_field (entryItems_keys_nodup t' e') (Json.canonicalText_inj.mp h) hv hw
  obtain ⟨n, kind, id, d, ⟨a, k, v⟩, p, hn⟩ := e
  obtain ⟨n', kind', id', d', ⟨a', k', v'⟩, p', hn'⟩ := e'
  -- no key comes twice, so each field can be read by its key
  have htenant : (Json.str t).canon = (Json.str t').canon :=
    field (k := "tenant_id") (by simp [entryItems]) (by simp [entryItems])
  have hsequence : (Json.int n).canon = (Json.int n').canon :=
    field (k := "sequence") (by simp [entryItems]) (by simp [entryItems])
  have htype : (Json.str kind.value).canon = (Json.str kind'.value).canon :=
    field (k := "artifact_type") (by simp [entryItems]) (by simp [entryItems])
  have hid : (Json.str id.str).canon = (Json.str id'.str).canon :=
    field (k := "artifact_id") (by simp [entryItems]) (by simp [entryItems])
  have hpayload : (Json.str d.val).canon = (Json.str d'.val).canon :=
    field (k := "payload_sha256") (by simp [entryItems]) (by simp [entryItems])
  have halgorithm : (optionalJson a).canon = (optionalJson a').canon :=
    field (k := "signature_algorithm") (by simp [entryItems]) (by simp [entryItems])
  have hkey : (optionalJson k).canon = (optionalJson k').canon :=
    field (k := "signing_key_id") (by simp [entryItems]) (by simp [entryItems])
  have hvalue : (optionalJson v).canon = (optionalJson v').canon :=
    field (k := "signature") (by simp [entryItems]) (by simp [entryItems])
  have hprevious : (Json.str p.val).canon = (Json.str p'.val).canon :=
    field (k := "previous_entry_sha256") (by simp [entryItems]) (by simp [entryItems])
  simp only [Json.canon, Json.str.injEq, Json.int.injEq] at htenant hsequence htype hid hpayload
  simp only [Json.canon, Json.str.injEq] at hprevious
  obtain rfl : n = n' := by exact_mod_cast hsequence
  obtain rfl : kind = kind' := ArtifactKind.value_inj htype
  obtain rfl : id = id' := UUID.str_inj hid
  obtain rfl : d = d' := Subtype.ext hpayload
  obtain rfl : p = p' := Subtype.ext hprevious
  obtain rfl : a = a' := canon_optionalJson_inj halgorithm
  obtain rfl : k = k' := canon_optionalJson_inj hkey
  obtain rfl : v = v' := canon_optionalJson_inj hvalue
  exact ⟨htenant, rfl⟩

/-! ## Signed messages -/

/-- `_signature_message`. -/
def signatureMessage (artifactType : String) (artifactId : UUID) (payloadSha256 : String) :
    String :=
  "aecontrol:v1" ++ ":" ++ artifactType ++ ":" ++ artifactId.str ++ ":" ++ payloadSha256

/-- Texts joined by colons can be taken apart again, up to the last colon. -/
theorem colonJoin_inj {s t t' i i' d d' : String} (ht : ':' ∉ t.toList) (ht' : ':' ∉ t'.toList)
    (hi : ':' ∉ i.toList) (hi' : ':' ∉ i'.toList)
    (h : s ++ ":" ++ t ++ ":" ++ i ++ ":" ++ d = s ++ ":" ++ t' ++ ":" ++ i' ++ ":" ++ d') :
    t = t' ∧ i = i' ∧ d = d' := by
  have hl : t.toList ++ ':' :: (i.toList ++ ':' :: d.toList) =
      t'.toList ++ ':' :: (i'.toList ++ ':' :: d'.toList) := by
    have hcolon : ":".toList = [':'] := rfl
    have := congrArg String.toList h
    simpa only [String.toList_append, List.append_assoc, List.append_cancel_left_eq, hcolon,
      List.cons_append, List.nil_append, List.cons.injEq, true_and] using this
  obtain ⟨htt, hrest⟩ := append_separator_inj ht ht' hl
  obtain ⟨hii, hdd⟩ := append_separator_inj hi hi' hrest
  exact ⟨String.toList_inj.mp htt, String.toList_inj.mp hii, String.toList_inj.mp hdd⟩

/-- **Domain separation.**  A signed message determines the artifact type, the identifier and the
    digest, as long as no type contains a colon. -/
theorem signatureMessage_inj {t t' : String} {u u' : UUID} {d d' : String}
    (ht : ':' ∉ t.toList) (ht' : ':' ∉ t'.toList)
    (h : signatureMessage t u d = signatureMessage t' u' d') : t = t' ∧ u = u' ∧ d = d' := by
  obtain ⟨htt, hu, hd⟩ := colonJoin_inj ht ht' (UUID.colon_notMem u) (UUID.colon_notMem u') h
  exact ⟨htt, UUID.str_inj hu, hd⟩

/-- No kind has a colon in its name. -/
theorem ArtifactKind.colon_notMem (k : ArtifactKind) : ':' ∉ k.value.toList := by
  cases k <;> decide

/-! ## The keyring -/

/-- `HMAC_SHA256` and `ED25519`. -/
inductive SignatureAlgorithm where
  | hmacSha256
  | ed25519
  deriving DecidableEq, Repr

namespace SignatureAlgorithm

def value : SignatureAlgorithm → String
  | hmacSha256 => "hmac-sha256"
  | ed25519 => "ed25519"

/-- Membership in `SIGNATURE_ALGORITHMS`. -/
def ofText (s : String) : Option SignatureAlgorithm :=
  if s = "hmac-sha256" then some hmacSha256 else if s = "ed25519" then some ed25519 else none

end SignatureAlgorithm

/-- `^[A-Za-z0-9._-]{1,64}$`. -/
def isKeyId (s : String) : Bool :=
  1 ≤ s.toList.length && s.toList.length ≤ 64 &&
    s.toList.all fun c => c.isAlphanum || c = '.' || c = '_' || c = '-'

/-- An `ArtifactSigner`: a key held elsewhere (Vault Transit, AWS KMS, Google Cloud KMS). -/
structure RemoteSigner where
  algorithm : SignatureAlgorithm
  keyId : String
  sign : String → Except EvidenceError String

/-- The key maps of a keyring, with what `ArtifactKeyring.__init__` checks of them. -/
structure KeyMaterial (C : Crypto) where
  hmacKeys : List (String × Bytes)
  ed25519PrivateKeys : List (String × Bytes)
  ed25519PublicKeys : List (String × Bytes)
  key_ids : ∀ p ∈ hmacKeys ++ ed25519PrivateKeys ++ ed25519PublicKeys, isKeyId p.1 = true
  hmac_length : ∀ p ∈ hmacKeys, 32 ≤ p.2.length
  ed25519_length : ∀ p ∈ ed25519PrivateKeys, p.2.length = 32
  /-- The public half of every private key is registered under its identifier. -/
  derived : ∀ keyId key, ed25519PrivateKeys.lookup keyId = some key →
    ed25519PublicKeys.lookup keyId = some (C.ed25519PublicKey key)

/-- `ArtifactKeyring`: key maps and an active signing key that is really there. -/
structure ArtifactKeyring (C : Crypto) extends KeyMaterial C where
  activeKeyId : Option String
  activeAlgorithm : Option SignatureAlgorithm
  remoteSigner : Option RemoteSigner
  active_together : activeKeyId.isSome = activeAlgorithm.isSome
  active_hmac : ∀ keyId, activeKeyId = some keyId → activeAlgorithm = some .hmacSha256 →
    (hmacKeys.lookup keyId).isSome = true
  active_ed25519 : ∀ keyId, activeKeyId = some keyId → activeAlgorithm = some .ed25519 →
    remoteSigner = none → (ed25519PrivateKeys.lookup keyId).isSome = true
  /-- A remote signer is the active Ed25519 signer, its public key is known and no local private
      key shadows it. -/
  remote : ∀ signer, remoteSigner = some signer →
    activeKeyId = some signer.keyId ∧ activeAlgorithm = some signer.algorithm ∧
      activeAlgorithm = some .ed25519 ∧ ed25519PrivateKeys.lookup signer.keyId = none ∧
      (ed25519PublicKeys.lookup signer.keyId).isSome = true

/-! ### Construction -/

/-- Looking up in mapped values maps what is found. -/
theorem lookup_map_snd {α β : Type*} (f : α → β) (l : List (String × α)) (k : String) :
    (l.map fun p => (p.1, f p.2)).lookup k = (l.lookup k).map f := by
  induction l with
  | nil => rfl
  | cons p l ih =>
    obtain ⟨k', a⟩ := p
    simp only [List.map_cons, List.lookup_cons]
    split
    · rfl
    · exact ih

/-- The key maps `ArtifactKeyring.__init__` builds, and the first key it rejects. -/
def KeyMaterial.init (C : Crypto) (keys privateKeys publicKeys : List (String × Bytes)) :
    Except EvidenceError (KeyMaterial C) :=
  match hid : (keys ++ privateKeys ++ publicKeys).find? fun p => !isKeyId p.1 with
  | some p => .error (.invalidValue "invalid artifact signing key ID: " p.1)
  | none =>
  match hhmac : keys.find? fun p => p.2.length < 32 with
  | some p => .error (.valueError
      ("artifact signing key '" ++ p.1 ++ "' must contain at least 32 bytes"))
  | none =>
  match hpriv : privateKeys.find? fun p => p.2.length ≠ 32 with
  | some p => .error (.valueError
      ("Ed25519 private key '" ++ p.1 ++ "' must contain exactly 32 bytes"))
  | none =>
  let derivedKeys := privateKeys.map fun p => (p.1, C.ed25519PublicKey p.2)
  match publicKeys.find? fun p => p.2.length ≠ 32 ||
      (derivedKeys.lookup p.1).any (· ≠ p.2) with
  | some p =>
    if p.2.length ≠ 32 then .error (.valueError
      ("Ed25519 public key '" ++ p.1 ++ "' must contain exactly 32 bytes"))
    else .error (.valueError
      ("Ed25519 public key '" ++ p.1 ++ "' does not match its private key"))
  | none => .ok {
      hmacKeys := keys
      ed25519PrivateKeys := privateKeys
      ed25519PublicKeys := derivedKeys ++ publicKeys
      key_ids := by
        have hall : ∀ p ∈ keys ++ privateKeys ++ publicKeys, isKeyId p.1 = true := fun p hp => by
          simpa using List.find?_eq_none.mp hid p hp
        intro p hp
        rcases List.mem_append.mp hp with hp | hp
        · exact hall p (List.mem_append_left _ hp)
        rcases List.mem_append.mp hp with hp | hp
        · obtain ⟨q, hq, rfl⟩ := List.mem_map.mp hp
          exact hall q (List.mem_append_left _ (List.mem_append_right _ hq))
        · exact hall p (List.mem_append_right _ hp)
      hmac_length := fun p hp => by simpa using List.find?_eq_none.mp hhmac p hp
      ed25519_length := fun p hp => by simpa using List.find?_eq_none.mp hpriv p hp
      derived := fun keyId key hkey => by
        rw [List.lookup_append, lookup_map_snd, hkey]
        rfl }

/-- What `ArtifactKeyring.__init__` checks of the active key, the key maps being `M`. -/
def KeyMaterial.activate {C : Crypto} (M : KeyMaterial C) (remoteSigner : Option RemoteSigner) :
    Option String → Option SignatureAlgorithm → Except EvidenceError (ArtifactKeyring C)
  | none, none =>
    match remoteSigner with
    | none => .ok ⟨M, none, none, none, rfl, by simp, by simp, by simp⟩
    | some _ => .error (.valueError "remote signer must match the active Ed25519 signing key")
  | some keyId, some .hmacSha256 =>
    if hkey : (M.hmacKeys.lookup keyId).isSome then
      match remoteSigner with
      | none => .ok ⟨M, some keyId, some .hmacSha256, none, rfl, by simpa using hkey, by simp,
          by simp⟩
      | some _ => .error (.valueError "remote signer must match the active Ed25519 signing key")
    else .error (.valueError
      ("active artifact signing key '" ++ keyId ++ "' is not in the keyring for hmac-sha256"))
  | some keyId, some .ed25519 =>
    match remoteSigner with
    | none =>
      if hkey : (M.ed25519PrivateKeys.lookup keyId).isSome then
        .ok ⟨M, some keyId, some .ed25519, none, rfl, by simp, by simpa using hkey, by simp⟩
      else .error (.valueError
        ("active artifact signing key '" ++ keyId ++ "' has no Ed25519 private key"))
    | some signer =>
      if hsigner : keyId = signer.keyId ∧ .ed25519 = signer.algorithm then
        if hlocal : M.ed25519PrivateKeys.lookup signer.keyId = none then
          if hpublic : (M.ed25519PublicKeys.lookup signer.keyId).isSome then
            .ok ⟨M, some keyId, some .ed25519, some signer, rfl, by simp, by simp, by
              rintro _ ⟨⟩
              exact ⟨congrArg some hsigner.1, congrArg some hsigner.2, rfl, hlocal, hpublic⟩⟩
          else .error (.valueError
            "remote signer requires its active Ed25519 public verification key")
        else .error (.valueError
          "remote signer cannot be combined with an active local private key")
      else .error (.valueError "remote signer must match the active Ed25519 signing key")
  | _, _ => .error (.valueError
      "active artifact signing key ID and algorithm must be set together")

/-- `ArtifactKeyring.__init__`. -/
def ArtifactKeyring.init (C : Crypto) (keys : List (String × Bytes)) (activeKeyId : Option String)
    (activeAlgorithm : Option String) (privateKeys publicKeys : List (String × Bytes))
    (remoteSigner : Option RemoteSigner) : Except EvidenceError (ArtifactKeyring C) := do
  -- the legacy configuration names no algorithm
  let algorithm := if activeKeyId.isSome && activeAlgorithm.isNone && !keys.isEmpty then
    some SignatureAlgorithm.hmacSha256.value else activeAlgorithm
  let material ← KeyMaterial.init C keys privateKeys publicKeys
  if activeKeyId.isSome ≠ algorithm.isSome then
    .error (.valueError "active artifact signing key ID and algorithm must be set together")
  else match algorithm with
    | none => material.activate remoteSigner activeKeyId none
    | some text =>
      match SignatureAlgorithm.ofText text with
      | none => .error (.invalidValue "unsupported artifact signing algorithm: " text)
      | some a => material.activate remoteSigner activeKeyId (some a)

namespace ArtifactKeyring

variable {C : Crypto}

/-- `ArtifactKeyring.verify`. -/
def verify (K : ArtifactKeyring C) (algorithm keyId artifactType : String) (artifactId : UUID)
    (payloadSha256 signature : String) : Except EvidenceError Bool :=
  let message := signatureMessage artifactType artifactId payloadSha256
  if algorithm = SignatureAlgorithm.hmacSha256.value then
    match K.hmacKeys.lookup keyId with
    | none => .error (.keyError keyId)
    | some key => compareDigest (C.hmacSha256 key message).val signature
  else if algorithm ≠ SignatureAlgorithm.ed25519.value then
    .error (.invalidValue "unsupported artifact signature algorithm: " algorithm)
  else
    match K.ed25519PublicKeys.lookup keyId with
    | none => .error (.keyError keyId)
    | some key => .ok (C.ed25519Verify key message signature)

/-- `ArtifactKeyring.sign`. -/
def sign (K : ArtifactKeyring C) (artifactType : String) (artifactId : UUID)
    (payloadSha256 : String) : Except EvidenceError String :=
  match K.activeKeyId, K.activeAlgorithm with
  | some keyId, some algorithm =>
    let message := signatureMessage artifactType artifactId payloadSha256
    match algorithm with
    | .hmacSha256 =>
      match K.hmacKeys.lookup keyId with
      | none => .error (.keyError keyId)
      | some key => .ok (C.hmacSha256 key message).val
    | .ed25519 =>
      match K.remoteSigner with
      | some signer => do
        let signature ← signer.sign message
        let valid ← K.verify SignatureAlgorithm.ed25519.value keyId artifactType artifactId
          payloadSha256 signature
        if valid then .ok signature
        else .error (.artifactSigning
          "remote artifact signer returned a signature that failed local verification")
      | none =>
        match K.ed25519PrivateKeys.lookup keyId with
        | none => .error (.keyError keyId)
        | some key => .ok (C.ed25519Sign key message)
  | _, _ => .error (.valueError "artifact keyring has no active signing key")

/-! ### What verification raises -/

/-- Verification raises `TypeError` exactly on a non-ASCII text compared with an HMAC. -/
theorem verify_typeError_iff {K : ArtifactKeyring C} {algorithm keyId t : String} {u : UUID}
    {d signature : String} :
    K.verify algorithm keyId t u d signature = .error .typeError ↔
      algorithm = SignatureAlgorithm.hmacSha256.value ∧
        (K.hmacKeys.lookup keyId).isSome = true ∧ isAscii signature = false := by
  unfold verify
  by_cases hhmac : algorithm = SignatureAlgorithm.hmacSha256.value
  · cases hkey : K.hmacKeys.lookup keyId with
    | none => simp [hhmac]
    | some key => cases hascii : isAscii signature <;> simp [hhmac, compareDigest, hascii]
  · simp only [hhmac, if_false, false_and, iff_false]
    split
    · simp
    · cases K.ed25519PublicKeys.lookup keyId <;> simp

/-- Whatever else it raises is a `KeyError` or a `ValueError`. -/
theorem verify_error {K : ArtifactKeyring C} {algorithm keyId t : String} {u : UUID}
    {d signature : String} {e : EvidenceError}
    (h : K.verify algorithm keyId t u d signature = .error e) :
    e.isKeyError = true ∨ e.isValueError = true ∨ e = .typeError := by
  unfold verify at h
  simp only at h
  split_ifs at h with hhmac hed
  · cases hkey : K.hmacKeys.lookup keyId with
    | none => rw [hkey] at h; cases h; exact Or.inl rfl
    | some key =>
      rw [hkey] at h
      unfold compareDigest at h
      simp only at h
      split_ifs at h
      cases h
      exact Or.inr (Or.inr rfl)
  · cases h
    exact Or.inr (Or.inl rfl)
  · cases hkey : K.ed25519PublicKeys.lookup keyId with
    | none => rw [hkey] at h; cases h; exact Or.inl rfl
    | some key => rw [hkey] at h; cases h

/-! ### Signatures verify -/

/-- The documented law of Ed25519: what a private key signs, its public key verifies. -/
def SignsVerify (C : Crypto) : Prop :=
  ∀ key message, C.ed25519Verify (C.ed25519PublicKey key) message (C.ed25519Sign key message) = true

/-- `A` holds every verification key of `K`. -/
def Covers (A K : ArtifactKeyring C) : Prop :=
  (∀ keyId key, K.hmacKeys.lookup keyId = some key → A.hmacKeys.lookup keyId = some key) ∧
    ∀ keyId key, K.ed25519PublicKeys.lookup keyId = some key →
      A.ed25519PublicKeys.lookup keyId = some key

/-- A keyring covers itself. -/
theorem Covers.refl (K : ArtifactKeyring C) : Covers K K := ⟨fun _ _ h => h, fun _ _ h => h⟩

/-- A keyring verifies what another one verifies if it holds the other's keys. -/
theorem Covers.verify {A K : ArtifactKeyring C} (hcov : Covers A K) {algorithm keyId t : String}
    {u : UUID} {d signature : String}
    (h : K.verify algorithm keyId t u d signature = .ok true) :
    A.verify algorithm keyId t u d signature = .ok true := by
  unfold ArtifactKeyring.verify at h ⊢
  split at h
  · rename_i halg
    rw [if_pos halg]
    cases hkey : K.hmacKeys.lookup keyId with
    | none => rw [hkey] at h; cases h
    | some key => rw [hkey] at h; rw [hcov.1 keyId key hkey]; exact h
  · rename_i halg
    rw [if_neg halg]
    split at h
    · cases h
    · rename_i hed
      rw [if_neg hed]
      cases hkey : K.ed25519PublicKeys.lookup keyId with
      | none => rw [hkey] at h; cases h
      | some key => rw [hkey] at h; rw [hcov.2 keyId key hkey]; exact h

/-- Signing needs an active key. -/
theorem sign_active {K : ArtifactKeyring C} {t : String} {u : UUID} {d signature : String}
    (h : K.sign t u d = .ok signature) :
    ∃ keyId a, K.activeKeyId = some keyId ∧ K.activeAlgorithm = some a := by
  unfold sign at h
  split at h
  · rename_i keyId a hkey ha
    exact ⟨keyId, a, hkey, ha⟩
  · cases h

/-- **Signed artifacts verify**, under every keyring that holds the signer's keys. -/
theorem verify_of_sign {A K : ArtifactKeyring C} (hcrypto : SignsVerify C) (hcov : Covers A K)
    {keyId : String} {a : SignatureAlgorithm} (hkey : K.activeKeyId = some keyId)
    (ha : K.activeAlgorithm = some a) {t : String} {u : UUID} {d signature : String}
    (h : K.sign t u d = .ok signature) : A.verify a.value keyId t u d signature = .ok true := by
  refine hcov.verify ?_
  unfold sign at h
  simp only [hkey, ha] at h
  cases a with
  | hmacSha256 =>
    cases hlook : K.hmacKeys.lookup keyId with
    | none => rw [hlook] at h; cases h
    | some key =>
      rw [hlook] at h
      obtain rfl := Except.ok.inj h
      simp [verify, hlook, compareDigest]
  | ed25519 =>
    cases hremote : K.remoteSigner with
    | some signer =>
      -- a remote signature is returned only after it verified
      rw [hremote] at h
      obtain ⟨s, _, h⟩ := Raising.bind_ok h
      obtain ⟨valid, hvalid, h⟩ := Raising.bind_ok h
      cases valid with
      | true =>
        obtain rfl := Except.ok.inj h
        exact hvalid
      | false => cases h
    | none =>
      cases hlook : K.ed25519PrivateKeys.lookup keyId with
      | none => rw [hremote, hlook] at h; cases h
      | some key =>
        rw [hremote, hlook] at h
        obtain rfl := Except.ok.inj h
        have hed : SignatureAlgorithm.ed25519.value ≠ SignatureAlgorithm.hmacSha256.value := by
          decide
        simp [verify, hed, K.derived keyId key hlook, hcrypto key]

/-- A keyring with a local active key signs everything. -/
theorem sign_ok {K : ArtifactKeyring C} {keyId : String} (hkey : K.activeKeyId = some keyId)
    (hlocal : K.remoteSigner = none) (t : String) (u : UUID) (d : String) :
    ∃ signature, K.sign t u d = .ok signature := by
  obtain ⟨a, ha⟩ : ∃ a, K.activeAlgorithm = some a :=
    Option.isSome_iff_exists.mp (by rw [← K.active_together, hkey]; rfl)
  unfold sign
  simp only [hkey, ha, hlocal]
  cases a with
  | hmacSha256 =>
    obtain ⟨key, hk⟩ := Option.isSome_iff_exists.mp (K.active_hmac keyId hkey ha)
    exact ⟨_, by rw [hk]⟩
  | ed25519 =>
    obtain ⟨key, hk⟩ := Option.isSome_iff_exists.mp (K.active_ed25519 keyId hkey ha hlocal)
    exact ⟨_, by rw [hk]⟩

end ArtifactKeyring

end AEControl.Evidence
