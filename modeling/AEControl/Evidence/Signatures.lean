/-
  What a signature of an `ArtifactKeyring` stands for.

  A keyring verifies with the one key it holds under the algorithm and the identifier it is asked
  for (`verify_true`), so any keyring with the signer's verification key verifies the signature,
  whatever it signs with itself.  Ideal primitives accept a signature for one algorithm, key and
  message; the message determines what was signed (`message_eq`), even against types and digests
  that contain its separator, because a digest contains none.

  Structure of the proof:
  1. `Crypto.Ideal` is the idealization: what one algorithm makes with one key of one message is
     accepted for no other algorithm, key or message;
  2. `verify_congr`: a verification depends on the key under the algorithm and the identifier only,
     and that key is the signer's, be the signer local or remote (`verify_of_sign_remote`);
  3. **the crux**, `message_eq`, by counting: a message has four colons of its own, its type and its
     digest have none, so another message with as many has its colons in the same places
     (`count_colon_signatureMessage`);
  4. `signature_bound`, both directions together, for every pair of keyrings.
-/
import AEControl.Evidence.Ledger

namespace AEControl.Evidence

variable {C : Crypto}

/-! ## Primitives -/

/-- The primitive of the algorithm accepts the signature for the key and the message. -/
def Crypto.Accepts (C : Crypto) (a : SignatureAlgorithm) (key : Bytes) (message signature : String) :
    Prop :=
  match a with
  | .hmacSha256 => (C.hmacSha256 key message).val = signature
  | .ed25519 => C.ed25519Verify key message signature = true

/-- Ideal primitives accept the signature for one algorithm, key and message at most. -/
def Crypto.Ideal (C : Crypto) (signature : String) : Prop :=
  ∀ a key message a' key' message', C.Accepts a key message signature →
    C.Accepts a' key' message' signature → a = a' ∧ key = key' ∧ message = message'

/-- The algorithms have different names. -/
theorem SignatureAlgorithm.value_inj {a a' : SignatureAlgorithm} (h : a.value = a'.value) :
    a = a' := by
  revert h
  cases a <;> cases a' <;> decide

/-! ## Keyrings -/

namespace ArtifactKeyring

/-- The key a keyring verifies with. -/
def verificationKey (A : ArtifactKeyring C) (a : SignatureAlgorithm) (keyId : String) :
    Option Bytes :=
  match a with
  | .hmacSha256 => A.hmacKeys.lookup keyId
  | .ed25519 => A.ed25519PublicKeys.lookup keyId

/-- Distinct identifiers hold distinct keys, in the one keyring and the other. -/
def DistinctKeys (K A : ArtifactKeyring C) : Prop :=
  ∀ a keyId keyId' key, K.verificationKey a keyId = some key →
    A.verificationKey a keyId' = some key → keyId = keyId'

/-- **What verification asks**: the key under the algorithm and the identifier accepts. -/
theorem verify_true {A : ArtifactKeyring C} {algorithm keyId t : String} {u : UUID}
    {d signature : String} (h : A.verify algorithm keyId t u d signature = .ok true) :
    ∃ a key, algorithm = a.value ∧ A.verificationKey a keyId = some key ∧
      C.Accepts a key (signatureMessage t u d) signature := by
  unfold verify at h
  dsimp only at h
  split_ifs at h with hhmac hother
  · cases hkey : A.hmacKeys.lookup keyId with
    | none => rw [hkey] at h; cases h
    | some key =>
      rw [hkey] at h
      have hmac : (C.hmacSha256 key (signatureMessage t u d)).val = signature :=
        of_decide_eq_true (compareDigest_ok h).symm
      exact ⟨.hmacSha256, key, hhmac, hkey, hmac⟩
  · cases hkey : A.ed25519PublicKeys.lookup keyId with
    | none => rw [hkey] at h; cases h
    | some key =>
      rw [hkey] at h
      exact ⟨.ed25519, key, not_not.mp hother, hkey, Except.ok.inj h⟩

/-- Verification depends on that key alone. -/
theorem verify_congr {A K : ArtifactKeyring C} {a : SignatureAlgorithm} {keyId : String}
    (h : A.verificationKey a keyId = K.verificationKey a keyId) (t : String) (u : UUID)
    (d signature : String) :
    A.verify a.value keyId t u d signature = K.verify a.value keyId t u d signature := by
  unfold verify
  cases a with
  | hmacSha256 =>
    have hkeys : A.hmacKeys.lookup keyId = K.hmacKeys.lookup keyId := h
    simp only [if_true, hkeys]
  | ed25519 =>
    have hkeys : A.ed25519PublicKeys.lookup keyId = K.ed25519PublicKeys.lookup keyId := h
    have hhmac : SignatureAlgorithm.ed25519.value ≠ SignatureAlgorithm.hmacSha256.value := by decide
    simp only [hkeys, hhmac, if_false]

/-- A remote signature was accepted for the message it is returned for. -/
theorem verify_of_sign_remote {K : ArtifactKeyring C} {signer : RemoteSigner}
    (hremote : K.remoteSigner = some signer) {t : String} {u : UUID} {d signature : String}
    (h : K.sign t u d = .ok signature) :
    signer.sign (signatureMessage t u d) = .ok signature ∧
      K.verify SignatureAlgorithm.ed25519.value signer.keyId t u d signature = .ok true := by
  obtain ⟨hkey, -, ha, -⟩ := K.remote signer hremote
  unfold sign at h
  simp only [hkey, ha, hremote] at h
  obtain ⟨answer, hanswer, h⟩ := Raising.bind_ok h
  obtain ⟨valid, hvalid, h⟩ := Raising.bind_ok h
  cases valid with
  | true =>
    obtain rfl := Except.ok.inj h
    exact ⟨hanswer, hvalid⟩
  | false => cases h

end ArtifactKeyring

/-! ## Messages -/

/-- A colon is no hexadecimal digit. -/
theorem isLowerHex_colon : isLowerHex ':' = false := by decide

/-- A digest has no colon. -/
theorem HexDigest.colon_notMem (d : HexDigest) : ':' ∉ d.val.toList := by
  intro h
  have hall : d.val.toList.all isLowerHex = true := (Bool.and_eq_true _ _ ▸ d.property).2
  have hcolon := List.all_eq_true.mp hall ':' h
  rw [isLowerHex_colon] at hcolon
  cases hcolon

/-- A message has four colons of its own and those of its parts. -/
theorem count_colon_signatureMessage (t : String) (u : UUID) (d : String) :
    (signatureMessage t u d).toList.count ':' = t.toList.count ':' + d.toList.count ':' + 4 := by
  have hu : u.str.toList.count ':' = 0 := List.count_eq_zero.mpr (UUID.colon_notMem u)
  have hcontext : "aecontrol:v1".toList.count ':' = 1 := by decide
  have hcolon : ":".toList.count ':' = 1 := by decide
  have htext : signatureMessage t u d =
      "aecontrol:v1" ++ ":" ++ t ++ ":" ++ u.str ++ ":" ++ d := rfl
  rw [htext]
  simp only [String.toList_append, List.count_append, hu, hcontext, hcolon]
  omega

/-- **A message determines what it was made of**, when its type and its digest contain no colon:
    then no other message of as many colons does. -/
theorem message_eq {t t' : String} {u u' : UUID} {d : HexDigest} {d' : String}
    (ht : ':' ∉ t.toList) (h : signatureMessage t u d.val = signatureMessage t' u' d') :
    t = t' ∧ u = u' ∧ d.val = d' := by
  have hcount := count_colon_signatureMessage t' u' d'
  rw [← h, count_colon_signatureMessage, List.count_eq_zero.mpr ht,
    List.count_eq_zero.mpr (HexDigest.colon_notMem d)] at hcount
  have ht' : t'.toList.count ':' = 0 := by omega
  exact signatureMessage_inj ht (List.count_eq_zero.mp ht') h

/-! ## Signatures -/

/-- **Signatures survive rotation and are not transferable.**  What a keyring signs, every keyring
    with its verification key verifies under the active algorithm and identifier; no keyring
    verifies it for another type, identifier or digest or under another algorithm, and under another
    key identifier only if that identifier holds the same key.  A remote answer that does not verify
    for the requested message is not returned. -/
theorem signature_bound (hcrypto : ArtifactKeyring.SignsVerify C) {K : ArtifactKeyring C}
    {keyId : String} {a : SignatureAlgorithm} (hkey : K.activeKeyId = some keyId)
    (ha : K.activeAlgorithm = some a) {t : String} (ht : ':' ∉ t.toList) (u : UUID)
    (d : HexDigest) :
    (∀ signature, K.sign t u d.val = .ok signature → C.Ideal signature →
      (∀ A : ArtifactKeyring C, A.verificationKey a keyId = K.verificationKey a keyId →
        A.verify a.value keyId t u d.val signature = .ok true) ∧
      ∀ (A : ArtifactKeyring C) algorithm' keyId' t' u' d',
        A.verify algorithm' keyId' t' u' d' signature = .ok true →
          t' = t ∧ u' = u ∧ d' = d.val ∧ algorithm' = a.value ∧
            (ArtifactKeyring.DistinctKeys K A → keyId' = keyId)) ∧
    ∀ signer answer, K.remoteSigner = some signer →
      signer.sign (signatureMessage t u d.val) = .ok answer →
      K.verify a.value keyId t u d.val answer ≠ .ok true →
        ∀ signature, K.sign t u d.val ≠ .ok signature := by
  constructor
  · intro signature hsign hideal
    have hverify := ArtifactKeyring.verify_of_sign hcrypto (ArtifactKeyring.Covers.refl K) hkey ha
      hsign
    refine ⟨fun A hA => (ArtifactKeyring.verify_congr hA t u d.val signature).trans hverify, ?_⟩
    intro A algorithm' keyId' t' u' d' hverify'
    -- both verifications accept the signature, so for one key and one message
    obtain ⟨b, key, hb, hlookup, haccepts⟩ := ArtifactKeyring.verify_true hverify
    obtain rfl := SignatureAlgorithm.value_inj hb
    obtain ⟨b', key', hb', hlookup', haccepts'⟩ := ArtifactKeyring.verify_true hverify'
    obtain ⟨rfl, rfl, hmessage⟩ := hideal _ _ _ _ _ _ haccepts haccepts'
    obtain ⟨rfl, rfl, hd⟩ := message_eq ht hmessage
    exact ⟨rfl, rfl, hd.symm, hb', fun hdistinct =>
      (hdistinct a keyId keyId' key hlookup hlookup').symm⟩
  · intro signer answer hremote hanswer hinvalid signature hsign
    -- what is returned was verified, and it is the answer
    obtain ⟨hreturned, hverify⟩ := ArtifactKeyring.verify_of_sign_remote hremote hsign
    obtain rfl := Except.ok.inj (hanswer.symm.trans hreturned)
    obtain ⟨hsigner, -, hed, -⟩ := K.remote signer hremote
    rw [hkey] at hsigner
    rw [ha] at hed
    obtain rfl := Option.some.inj hsigner
    obtain rfl := Option.some.inj hed
    exact hinvalid hverify

namespace Sample

theorem isHexDigest_mac : isHexDigest
    "834d32617374001abe8615ab895715b73d8dc3ff6fcc1095630edb6654b6bc23" = true := by decide

/-- The HMAC of the run's message. -/
def mac : HexDigest := ⟨_, isHexDigest_mac⟩

@[irreducible] def hmacSha256 (key : Bytes) (message : String) : HexDigest :=
  if key = privateKey ∧ message = signatureMessage "run" 1 runDigest.val then mac
  else ledgerGenesisSha256

def macCrypto : Crypto := { crypto with hmacSha256 := hmacSha256 }

/-- The identifier of the HMAC key is well formed. -/
theorem mac_keyIds : ∀ p ∈ [("portfolio-2026-06", privateKey)] ++ ([] : List (String × Bytes)) ++
    ([] : List (String × Bytes)), isKeyId p.1 = true := by decide

/-- The HMAC key is long enough. -/
theorem mac_lengths : ∀ p ∈ [("portfolio-2026-06", privateKey)], 32 ≤ p.2.length := by decide

def macMaterial : KeyMaterial macCrypto :=
  ⟨[("portfolio-2026-06", privateKey)], [], [], mac_keyIds, mac_lengths, nofun, nofun⟩

/-- The active HMAC key is one of the keyring's. -/
theorem mac_active : ∀ keyId, some "portfolio-2026-06" = some keyId →
    some SignatureAlgorithm.hmacSha256 = some .hmacSha256 →
      (macMaterial.hmacKeys.lookup keyId).isSome = true := by
  rintro _ ⟨⟩ -
  decide

/-- A keyring that signs with HMAC. -/
def macKeyring : ArtifactKeyring macCrypto :=
  ⟨macMaterial, some "portfolio-2026-06", some .hmacSha256, none, rfl, mac_active, nofun, nofun⟩

/-- The authentication code of the run under the key. -/
theorem hmac_mac : hmacSha256 privateKey (signatureMessage "run" 1 runDigest.val) = mac := by
  unfold hmacSha256
  exact if_pos ⟨rfl, rfl⟩

/-- No other key and no other message has the run's authentication code. -/
theorem eq_of_hmac_eq_mac {key : Bytes} {message : String}
    (h : (hmacSha256 key message).val = mac.val) :
    key = privateKey ∧ message = signatureMessage "run" 1 runDigest.val := by
  by_contra hne
  unfold hmacSha256 at h
  rw [if_neg hne] at h
  have hgenesis : ledgerGenesisSha256.val ≠ mac.val := by decide
  exact hgenesis h

/-- No Ed25519 signature is the run's authentication code. -/
theorem signature_ne_mac (message : String) : mac.val ≠ signature message := by
  have hrun : mac.val ≠ runSignature := by decide
  have hcheckpoint : mac.val ≠ checkpointSignature := by decide
  have hempty : mac.val ≠ "" := by decide
  unfold signature
  split_ifs
  · exact hrun
  · exact hcheckpoint
  · exact hempty

/-- The sample primitive is ideal for the run's authentication code. -/
theorem ideal_mac : macCrypto.Ideal mac.val := by
  have haccepts : ∀ a key message, macCrypto.Accepts a key message mac.val →
      a = .hmacSha256 ∧ key = privateKey ∧ message = signatureMessage "run" 1 runDigest.val := by
    intro a key message h
    cases a with
    | hmacSha256 => exact ⟨rfl, eq_of_hmac_eq_mac h⟩
    | ed25519 => exact absurd (of_decide_eq_true h) (signature_ne_mac message)
  intro a key message a' key' message' h h'
  obtain ⟨rfl, rfl, rfl⟩ := haccepts a key message h
  obtain ⟨rfl, rfl, rfl⟩ := haccepts a' key' message' h'
  exact ⟨rfl, rfl, rfl⟩

/-- What the sample keys sign they verify. -/
theorem signsVerify_mac : ArtifactKeyring.SignsVerify macCrypto := signsVerify

/-- The keyring signs the run with that code. -/
theorem sign_mac : macKeyring.sign "run" 1 runDigest.val = .ok mac.val :=
  congrArg (fun d : HexDigest => Except.ok d.val) hmac_mac

end Sample

/-- The HMAC of the worked run verifies for the run and for no other identifier. -/
theorem signature_bound_mac :
    Sample.macKeyring.verify "hmac-sha256" "portfolio-2026-06" "run" 1 Sample.runDigest.val
        Sample.mac.val = .ok true ∧
      ∀ u, Sample.macKeyring.verify "hmac-sha256" "portfolio-2026-06" "run" u
        Sample.runDigest.val Sample.mac.val = .ok true → u = 1 := by
  obtain ⟨hverifies, hbound⟩ := (signature_bound Sample.signsVerify_mac (K := Sample.macKeyring)
    rfl rfl (ArtifactKind.colon_notMem .run) 1 Sample.runDigest).1 Sample.mac.val Sample.sign_mac
      Sample.ideal_mac
  exact ⟨hverifies Sample.macKeyring rfl, fun u hu => (hbound _ _ _ _ _ _ hu).2.1⟩

end AEControl.Evidence
