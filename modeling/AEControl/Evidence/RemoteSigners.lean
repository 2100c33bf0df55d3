/-
  The remote signers (`vault.py`, `aws_kms.py`, `gcp_kms.py`) behind an `ArtifactKeyring`.

  A service answers with a signature or raises.  Each signer accepts only an answer for the pinned
  key, with a signature of 64 bytes, and returns its canonical base64.  Google Cloud KMS also sends
  checksums: an answer of the pinned key whose checksums are wrong is asked for again, a bounded
  number of times; any other answer that will not do ends the signing.  The keyring verifies what it
  is given before it returns it.

  Structure of the proof:
  1. `readVault_ok`, `readAws_ok`, `readGcp_none` and `readGcp_some`: one lemma for each reader says
     which responses it accepts, and for the last one which it wants again;
  2. the loop of Google Cloud KMS is `retry` of `Lib.Attempted`: its first rounds were fruitless
     exactly if their responses were corrupted (`fruitless_iff`), which gives all its courses
     (`gcpSign_cases`) and what each of them returns (`gcpSign_signed`);
  3. `RemoteService.sign_returns` puts the three services under one description: when a message can
     be signed (`Signable`), and which signature is answered for it (`Answered`);
  4. `remote_signature`: behind a keyring the service's signature is what is returned, if the public
     key verifies it, and it verifies under every keyring that holds that key.
-/
import AEControl.Lib.Attempted
import AEControl.Lib.Base64
import AEControl.Evidence.Signatures

namespace AEControl.Evidence.RemoteSigners

open Attempted

/-! ## Base64 of bytes -/

/-- `b64encode(data).decode()`. -/
def b64encode (data : Bytes) : String :=
  String.ofList ((Base64.encode (data.map UInt8.toNat)).map Char.ofNat)

/-- `b64decode(text, validate=True)`. -/
def b64decode (excess : Bool) (text : String) : Option Bytes :=
  (Base64.a2bBase64 excess (text.toList.map Char.toNat)).map (List.map UInt8.ofNat)

/-- Bytes as numbers are below 256. -/
theorem toNat_lt {data : Bytes} : ∀ n ∈ data.map UInt8.toNat, n < 256 := by
  intro n hn
  obtain ⟨b, -, rfl⟩ := List.mem_map.mp hn
  exact b.toNat_lt

/-- The characters of the base64 are its codes: each is an ASCII character. -/
theorem toList_b64encode (data : Bytes) :
    (b64encode data).toList.map Char.toNat = Base64.encode (data.map UInt8.toNat) := by
  unfold b64encode
  rw [String.toList_ofList, List.map_map]
  refine (List.map_congr_left fun n hn => ?_).trans (List.map_id _)
  have hn := (Base64.encodes_encode toNat_lt).alphabet n hn
  have hvalid : n.isValidChar := by
    left
    omega
  simp only [Function.comp_apply, id_eq]
  unfold Char.ofNat
  rw [dif_pos hvalid]
  rfl

/-- What is encoded is decoded, by every release. -/
theorem b64decode_b64encode (excess : Bool) (data : Bytes) :
    b64decode excess (b64encode data) = some data := by
  unfold b64decode
  rw [toList_b64encode, Base64.a2bBase64_encode excess toNat_lt, Option.map_some, List.map_map]
  refine congrArg some ((List.map_congr_left fun b _ => ?_).trans (List.map_id _))
  exact UInt8.ofNat_toNat

/-- `str.rpartition(":")`: what is before the last colon, if there is one, and what is after it. -/
def rpartition (text : String) : Option String × String :=
  let reversed := text.toList.reverse
  match reversed.dropWhile (· ≠ ':') with
  | [] => (none, text)
  | _ :: before =>
    (some (String.ofList before.reverse),
      String.ofList (reversed.takeWhile (· ≠ ':')).reverse)

/-- `rpartition` finds the last colon: what is after it has none. -/
theorem rpartition_iff {text p e : String} :
    rpartition text = (some p, e) ↔ text = p ++ ":" ++ e ∧ ':' ∉ e.toList := by
  have hsplit := List.takeWhile_append_dropWhile (p := (· ≠ ':')) (l := text.toList.reverse)
  constructor
  · intro h
    unfold rpartition at h
    dsimp only at h
    split at h
    · cases h
    · next c before hdrop =>
      obtain ⟨rfl, rfl⟩ : String.ofList before.reverse = p ∧
          String.ofList (text.toList.reverse.takeWhile (· ≠ ':')).reverse = e := by simpa using h
      have hc : c = ':' := by
        have := List.head?_dropWhile_not (· ≠ ':') text.toList.reverse
        rw [hdrop] at this
        simpa using this
      refine ⟨String.toList_inj.mp ?_, ?_⟩
      · rw [hdrop, hc] at hsplit
        calc text.toList = text.toList.reverse.reverse := text.toList.reverse_reverse.symm
          _ = (text.toList.reverse.takeWhile (· ≠ ':') ++ ':' :: before).reverse :=
            congrArg _ hsplit.symm
          _ = _ := by simp
      · rw [String.toList_ofList, List.mem_reverse]
        intro hmem
        have := List.all_eq_true.mp (List.all_takeWhile (p := (· ≠ ':'))) ':' hmem
        simp at this
  · rintro ⟨rfl, he⟩
    have hreverse : (p ++ ":" ++ e).toList.reverse =
        e.toList.reverse ++ ':' :: p.toList.reverse := by simp
    have hall : ∀ c ∈ e.toList.reverse, decide (c ≠ ':') = true := by
      intro c hc
      simp only [ne_eq, decide_not, Bool.not_eq_true', decide_eq_false_iff_not]
      rintro rfl
      exact he (List.mem_reverse.mp hc)
    unfold rpartition
    dsimp only
    rw [hreverse, List.dropWhile_append_of_pos hall, List.takeWhile_append_of_pos hall]
    simp

/-! ## The services -/

/-- A call of a service. -/
inductive ServiceCall where
  | vault (url token : String) (vaultNamespace : Option String) (input : String) (keyVersion : ℕ)
  | awsKms (keyId message : String)
  | gcpKms (name message : String) (dataCrc32c : ℕ)
  deriving DecidableEq

/-- What calling a service comes to.  The error is `none` for the exceptions the signer translates,
    and the exception itself for any other. -/
abbrev Answer (α : Type) := Except (Option EvidenceError) α

/-- `raise ... from error`. -/
def Answer.translated {α : Type} (answer : Answer α) (message : String) :
    Except EvidenceError α :=
  answer.mapError fun e => e.getD (.remoteSigner message)

/-- The length of a signature. -/
def signatureBytes : ℕ := 64

/-- A message that a cloud KMS signs: its bytes are those of the text. -/
def isSignable (message : String) : Bool := 1 ≤ message.utf8ByteSize && message.utf8ByteSize ≤ 4096

/-! ### Vault Transit -/

/-- What the signer reads of a `VaultTransitConfiguration`. -/
structure VaultTransitConfiguration where
  signUrl : String
  token : String
  vaultNamespace : Option String
  keyVersion : ℕ
  keyVersion_pos : 1 ≤ keyVersion

/-- `expected_prefix`. -/
def VaultTransitConfiguration.expectedPrefix (config : VaultTransitConfiguration) : String :=
  s!"vault:v{config.keyVersion}"

/-- `_MAX_RESPONSE_BYTES`. -/
def maxResponseBytes : ℕ := 1024 * 1024

/-- What `urlopen` raises: an HTTP status, another failure of the request, or something else. -/
inductive VaultFailure where
  | http (code : ℕ)
  | request
  | other (e : EvidenceError)

def VaultFailure.raised : VaultFailure → EvidenceError
  | http code => .remoteSigner s!"Vault Transit signing failed with HTTP {code}"
  | request => .remoteSigner "Vault Transit signing request failed"
  | other e => e

/-- `payload["data"]["signature"]`. -/
def dataSignature : Json → Option Json
  | .obj payload =>
    match payload.lookup "data" with
    | some (.obj data) => data.lookup "signature"
    | _ => none
  | _ => none

/-- What `VaultTransitSigner.sign` makes of a response; `loads` is `json.loads`. -/
def readVault (excess : Bool) (loads : Bytes → Option Json) (config : VaultTransitConfiguration)
    (raw : Bytes) : Except EvidenceError String :=
  if raw.length > maxResponseBytes then
    .error (.remoteSigner "Vault Transit signing response exceeded 1 MiB")
  else
    match (loads raw).bind dataSignature with
    | some (.str signature) =>
      match rpartition signature with
      | (some keyVersion, encoded) =>
        if keyVersion ≠ config.expectedPrefix then
          .error (.remoteSigner "Vault Transit returned an unexpected key version")
        else
          match b64decode excess encoded with
          | none => .error (.remoteSigner "Vault Transit returned an invalid Ed25519 signature")
          | some decoded =>
            if decoded.length ≠ signatureBytes then
              .error (.remoteSigner "Vault Transit returned an invalid Ed25519 signature")
            else .ok (b64encode decoded)
      | (none, _) => .error (.remoteSigner "Vault Transit returned an unexpected key version")
    | _ => .error (.remoteSigner "Vault Transit returned an invalid signing response")

/-- `VaultTransitSigner.sign`. -/
def vaultSign (excess : Bool) (loads : Bytes → Option Json) (config : VaultTransitConfiguration)
    (answer : Except VaultFailure Bytes) (message : String) :
    Attempted ServiceCall EvidenceError String := do
  let raw ← effect (.vault config.signUrl config.token config.vaultNamespace
    (b64encode message.toUTF8.toList) config.keyVersion) (answer.mapError (·.raised))
  of (readVault excess loads config raw)

/-! ### AWS KMS -/

/-- What the signer reads of a response that is a dictionary. -/
structure AwsResponse where
  keyId : Option String
  signingAlgorithm : Option String
  /-- `Signature`, if it is bytes. -/
  signature : Option Bytes

def awsKmsSigningAlgorithm : String := "ED25519_SHA_512"

/-- What `AWSKMSSigner.sign` makes of a response, `none` for one that is no dictionary. -/
def readAws (keyArn : String) : Option AwsResponse → Except EvidenceError String
  | none => .error (.remoteSigner "AWS KMS returned an invalid signing response")
  | some response =>
    if response.keyId ≠ some keyArn then
      .error (.remoteSigner "AWS KMS returned an unexpected signing key")
    else if response.signingAlgorithm ≠ some awsKmsSigningAlgorithm then
      .error (.remoteSigner "AWS KMS returned an unexpected signing algorithm")
    else
      match response.signature with
      | none => .error (.remoteSigner "AWS KMS returned an invalid Ed25519 signature")
      | some signature =>
        if signature.length ≠ signatureBytes then
          .error (.remoteSigner "AWS KMS returned an invalid Ed25519 signature")
        else .ok (b64encode signature)

/-- `AWSKMSSigner.sign`. -/
def awsSign (keyArn : String) (answer : Answer (Option AwsResponse)) (message : String) :
    Attempted ServiceCall EvidenceError String :=
  if isSignable message then do
    let response ← effect (.awsKms keyArn message)
      (answer.translated "AWS KMS signing request failed")
    of (readAws keyArn response)
  else of (.error (.remoteSigner "AWS KMS signing message must contain 1-4096 bytes"))

/-! ### Google Cloud KMS -/

/-- What the signer reads of a `GCPKMSConfiguration`, with the bounds it checks. -/
structure GcpKmsConfiguration where
  keyVersion : String
  protectionLevel : String
  integrityAttempts : ℕ
  attempts_pos : 1 ≤ integrityAttempts
  attempts_le : integrityAttempts ≤ 5

/-- What the signer reads of a response. -/
structure GcpResponse where
  name : Option String
  /-- `_protection_level`. -/
  protectionLevel : Option String
  /-- `signature`, if it is bytes. -/
  signature : Option Bytes
  signatureCrc32c : Option ℕ
  /-- `verified_data_crc32c is True`. -/
  verifiedDataCrc32c : Bool

/-- What `GCPKMSSigner.sign` makes of one response; `none` is another round of the loop. -/
def readGcp (crc32c : Bytes → ℕ) (config : GcpKmsConfiguration) (response : GcpResponse) :
    Except EvidenceError (Option String) :=
  if response.name ≠ some config.keyVersion then
    .error (.remoteSigner "Google Cloud KMS returned an unexpected key version")
  else if response.protectionLevel ≠ some config.protectionLevel then
    .error (.remoteSigner "Google Cloud KMS returned an unexpected protection level")
  else
    match response.signature with
    | none => .ok none
    | some signature =>
      if response.verifiedDataCrc32c && some (crc32c signature) = response.signatureCrc32c then
        if signature.length ≠ signatureBytes then
          .error (.remoteSigner "Google Cloud KMS returned an invalid Ed25519 signature")
        else .ok (some (b64encode signature))
      else .ok none

/-- One round of the loop; `answers` is what the service comes to, round by round. -/
def gcpRound (crc32c : Bytes → ℕ) (config : GcpKmsConfiguration)
    (answers : ℕ → Answer GcpResponse) (message : String) (round : ℕ) :
    Attempted ServiceCall EvidenceError (Option String) := do
  let response ← effect
    (.gcpKms config.keyVersion message (crc32c message.toUTF8.toList))
    ((answers round).translated "Google Cloud KMS signing request failed")
  of (readGcp crc32c config response)

/-- `GCPKMSSigner.sign`. -/
def gcpSign (crc32c : Bytes → ℕ) (config : GcpKmsConfiguration)
    (answers : ℕ → Answer GcpResponse) (message : String) :
    Attempted ServiceCall EvidenceError String :=
  if isSignable message then
    retry (gcpRound crc32c config answers message)
      (.remoteSigner "Google Cloud KMS signing response failed CRC32C integrity verification")
      config.integrityAttempts 0
  else of (.error (.remoteSigner "Google Cloud KMS signing message must contain 1-4096 bytes"))

/-! ## Google Cloud KMS asks again -/

section Gcp

variable {crc32c : Bytes → ℕ} {config : GcpKmsConfiguration} {answers : ℕ → Answer GcpResponse}
  {message : String}

/-- The response is of the pinned key version, at the pinned level of protection. -/
def Pinned (config : GcpKmsConfiguration) (response : GcpResponse) : Prop :=
  response.name = some config.keyVersion ∧ response.protectionLevel = some config.protectionLevel

/-- The message arrived and the signature came back as they were sent. -/
def Intact (crc32c : Bytes → ℕ) (response : GcpResponse) (signature : Bytes) : Prop :=
  response.signature = some signature ∧ response.verifiedDataCrc32c = true ∧
    response.signatureCrc32c = some (crc32c signature)

/-- The round ends in a response of the pinned key without intact checksums. -/
def Corrupted (crc32c : Bytes → ℕ) (config : GcpKmsConfiguration)
    (answer : Answer GcpResponse) : Prop :=
  ∃ response, answer = .ok response ∧ Pinned config response ∧
    ∀ signature, ¬ Intact crc32c response signature

/-- The round ends in the signature. -/
def Delivered (crc32c : Bytes → ℕ) (config : GcpKmsConfiguration) (answer : Answer GcpResponse)
    (signature : Bytes) : Prop :=
  ∃ response, answer = .ok response ∧ Pinned config response ∧
    Intact crc32c response signature ∧ signature.length = signatureBytes

/-- A corrupted round delivers nothing. -/
theorem Corrupted.not_delivered {answer : Answer GcpResponse}
    (h : Corrupted crc32c config answer) (signature : Bytes) :
    ¬ Delivered crc32c config answer signature := by
  obtain ⟨response, hresponse, -, hnot⟩ := h
  rintro ⟨response', hresponse', -, hintact, -⟩
  obtain rfl := Except.ok.inj (hresponse.symm.trans hresponse')
  exact hnot signature hintact

/-- The request of every round. -/
def gcpRequest (crc32c : Bytes → ℕ) (config : GcpKmsConfiguration) (message : String) :
    ServiceCall :=
  .gcpKms config.keyVersion message (crc32c message.toUTF8.toList)

/-- A response that is accepted or asked for again is of the pinned key. -/
theorem readGcp_pinned {response : GcpResponse} {r : Option String}
    (h : readGcp crc32c config response = .ok r) : Pinned config response := by
  unfold readGcp at h
  split_ifs at h with hname hlevel
  exact ⟨not_not.mp hname, not_not.mp hlevel⟩

/-- What is made of a response of the pinned key is decided by its signature and its checksums. -/
theorem readGcp_eq {response : GcpResponse} (h : Pinned config response) :
    readGcp crc32c config response =
      match response.signature with
      | none => .ok none
      | some signature =>
        if response.verifiedDataCrc32c && some (crc32c signature) = response.signatureCrc32c then
          if signature.length ≠ signatureBytes then
            .error (.remoteSigner "Google Cloud KMS returned an invalid Ed25519 signature")
          else .ok (some (b64encode signature))
        else .ok none := by
  unfold readGcp
  rw [if_neg (not_not.mpr h.1), if_neg (not_not.mpr h.2)]

/-- A response is asked for again exactly if its checksums do not vouch for any signature. -/
theorem readGcp_none {response : GcpResponse} : readGcp crc32c config response = .ok none ↔
    Pinned config response ∧ ∀ signature, ¬ Intact crc32c response signature := by
  constructor
  · intro h
    have hpinned := readGcp_pinned h
    rw [readGcp_eq hpinned] at h
    refine ⟨hpinned, fun signature hintact => ?_⟩
    obtain ⟨hsignature, hdata, hcrc⟩ := hintact
    simp only [hsignature, hdata, hcrc, Bool.true_and, decide_true, if_true] at h
    split_ifs at h
    cases Except.ok.inj h
  · rintro ⟨hpinned, hintact⟩
    rw [readGcp_eq hpinned]
    cases hsignature : response.signature with
    | none => rfl
    | some signature =>
      refine if_neg fun hchecks => hintact signature ?_
      simp only [Bool.and_eq_true, decide_eq_true_eq] at hchecks
      exact ⟨hsignature, hchecks.1, hchecks.2.symm⟩

/-- A response is accepted exactly if its checksums vouch for a signature of 64 bytes. -/
theorem readGcp_some {response : GcpResponse} {text : String} :
    readGcp crc32c config response = .ok (some text) ↔ Pinned config response ∧
      ∃ signature, Intact crc32c response signature ∧ signature.length = signatureBytes ∧
        text = b64encode signature := by
  constructor
  · intro h
    have hpinned := readGcp_pinned h
    rw [readGcp_eq hpinned] at h
    cases hsignature : response.signature with
    | none =>
      rw [hsignature] at h
      cases Except.ok.inj h
    | some signature =>
      rw [hsignature] at h
      dsimp only at h
      split_ifs at h with hchecks hlength
      · simp only [Bool.and_eq_true, decide_eq_true_eq] at hchecks
        exact ⟨hpinned, signature, ⟨hsignature, hchecks.1, hchecks.2.symm⟩, not_not.mp hlength,
          (Option.some.inj (Except.ok.inj h)).symm⟩
      · cases Except.ok.inj h
  · rintro ⟨hpinned, signature, ⟨hsignature, hdata, hcrc⟩, hlength, rfl⟩
    rw [readGcp_eq hpinned]
    simp [hsignature, hdata, hcrc, hlength]

/-- A round returns what is made of its response. -/
theorem gcpRound_returns {round : ℕ} {r : Option String} :
    (gcpRound crc32c config answers message round).Returns r ↔
      ∃ response, answers round = .ok response ∧ readGcp crc32c config response = .ok r := by
  unfold gcpRound
  simp only [returns_bind, returns_effect, returns_of, Answer.translated, Raising.mapError_ok]

/-- A round leaves the turn to the next one exactly behind a corrupted response. -/
theorem gcpRound_none {round : ℕ} : (gcpRound crc32c config answers message round).Returns none ↔
    Corrupted crc32c config (answers round) := by
  rw [gcpRound_returns]
  simp only [readGcp_none]
  rfl

/-- A round ends the loop in a signature exactly behind a delivered response. -/
theorem gcpRound_some {round : ℕ} {text : String} :
    (gcpRound crc32c config answers message round).Returns (some text) ↔
      ∃ signature, Delivered crc32c config (answers round) signature ∧
        text = b64encode signature := by
  rw [gcpRound_returns]
  constructor
  · rintro ⟨response, hresponse, h⟩
    obtain ⟨hpinned, signature, hintact, hlength, htext⟩ := readGcp_some.mp h
    exact ⟨signature, ⟨response, hresponse, hpinned, hintact, hlength⟩, htext⟩
  · rintro ⟨signature, ⟨response, hresponse, hpinned, hintact, hlength⟩, htext⟩
    exact ⟨response, hresponse, readGcp_some.mpr ⟨hpinned, signature, hintact, hlength, htext⟩⟩

/-- A round makes one request, always the same. -/
theorem gcpRound_effects (round : ℕ) : (gcpRound crc32c config answers message round).effects =
    [gcpRequest crc32c config message] := by
  unfold gcpRound
  obtain ⟨h, -⟩ | ⟨response, -, h⟩ := effects_bind
    (x := effect (gcpRequest crc32c config message)
      ((answers round).translated "Google Cloud KMS signing request failed"))
    (f := fun response => of (readGcp crc32c config response))
  · exact h
  · exact h

/-- The first rounds were fruitless exactly if their responses were corrupted. -/
theorem fruitless_iff {k : ℕ} :
    Fruitless (gcpRound crc32c config answers message) 0 k ↔
      ∀ j < k, Corrupted crc32c config (answers j) := by
  unfold Fruitless
  simp only [Nat.zero_add, gcpRound_none]

/-- So many rounds make so many requests, all of them the same. -/
theorem rounds_effects (n : ℕ) :
    ((List.range n).flatMap fun j => (gcpRound crc32c config answers message (0 + j)).effects) =
      List.replicate n (gcpRequest crc32c config message) := by
  simp only [gcpRound_effects]
  induction n with
  | zero => rfl
  | succ n ih => rw [List.range_succ, List.flatMap_append, ih, List.replicate_succ']; rfl

variable (crc32c config answers) in
/-- Either every round within the bound is corrupted, or the first that is not decides. -/
theorem gcpSign_cases (hsignable : isSignable message = true) :
    ((∀ j < config.integrityAttempts, Corrupted crc32c config (answers j)) ∧
      (gcpSign crc32c config answers message).result = .error (.remoteSigner
        "Google Cloud KMS signing response failed CRC32C integrity verification") ∧
      (gcpSign crc32c config answers message).effects =
        List.replicate config.integrityAttempts (gcpRequest crc32c config message)) ∨
    ∃ k < config.integrityAttempts, (∀ j < k, Corrupted crc32c config (answers j)) ∧
      ¬ Corrupted crc32c config (answers k) ∧
      (gcpSign crc32c config answers message).effects =
        List.replicate (k + 1) (gcpRequest crc32c config message) ∧
      ∀ text, (gcpSign crc32c config answers message).Returns text ↔
        ∃ signature, Delivered crc32c config (answers k) signature ∧
          text = b64encode signature := by
  unfold gcpSign
  rw [if_pos hsignable]
  obtain hall | ⟨k, hk, hbefore, hat⟩ := fruitless_or_decided
    (gcpRound crc32c config answers message) config.integrityAttempts
  · left
    rw [retry_exhausted hall]
    exact ⟨fruitless_iff.mp hall, rfl, rounds_effects _⟩
  · right
    rw [← Nat.zero_add k] at hat
    obtain ⟨heffects, hreturns, -⟩ := retry_decided (.remoteSigner
      "Google Cloud KMS signing response failed CRC32C integrity verification") hk hbefore hat
    rw [Nat.zero_add] at hat hreturns
    refine ⟨k, hk, fruitless_iff.mp hbefore, fun h => hat (gcpRound_none.mpr h), ?_, fun text => ?_⟩
    · rw [heffects]
      exact rounds_effects _
    · rw [hreturns, gcpRound_some]

/-- **The signature of the first delivered round is returned**, if only corrupted ones came before
    it and the attempts last. -/
theorem gcpSign_returns {text : String} :
    (gcpSign crc32c config answers message).Returns text ↔ isSignable message = true ∧
      ∃ k < config.integrityAttempts, (∀ j < k, Corrupted crc32c config (answers j)) ∧
        ∃ signature, Delivered crc32c config (answers k) signature ∧
          text = b64encode signature := by
  by_cases hsignable : isSignable message = true
  · obtain ⟨hall, hresult, -⟩ | ⟨k, hk, hbefore, hat, -, hreturns⟩ :=
      gcpSign_cases crc32c config answers hsignable
    · constructor
      · intro h
        cases hresult.symm.trans h
      · rintro ⟨-, k, hk, -, signature, hdelivered, -⟩
        exact absurd hdelivered ((hall k hk).not_delivered signature)
    · rw [hreturns]
      constructor
      · intro h
        exact ⟨hsignable, k, hk, hbefore, h⟩
      · rintro ⟨-, k', hk', hbefore', signature, hdelivered, htext⟩
        -- the first round that is not corrupted is one
        obtain hlt | rfl | hgt := Nat.lt_trichotomy k k'
        · exact absurd (hbefore' k hlt) hat
        · exact ⟨signature, hdelivered, htext⟩
        · exact absurd hdelivered ((hbefore k' hgt).not_delivered signature)
  · constructor
    · intro h
      unfold gcpSign at h
      rw [if_neg hsignable] at h
      cases h
    · rintro ⟨h, -⟩
      exact absurd h hsignable

/-- What `GCPKMSSigner.sign` does with a service that may corrupt, refuse or misattribute anything
    in any round. -/
structure GcpSigned (crc32c : Bytes → ℕ) (config : GcpKmsConfiguration)
    (answers : ℕ → Answer GcpResponse) (message : String)
    (x : Attempted ServiceCall EvidenceError String) : Prop where
  /-- A signature is returned exactly when a round within the bound delivers it and all rounds
      before it were corrupted. -/
  returned : ∀ text, x.Returns text ↔ isSignable message = true ∧
    ∃ k < config.integrityAttempts, (∀ j < k, Corrupted crc32c config (answers j)) ∧
      ∃ signature, Delivered crc32c config (answers k) signature ∧ text = b64encode signature
  /-- Rounds that are all corrupted raise. -/
  exhausted : isSignable message = true →
    (∀ j < config.integrityAttempts, Corrupted crc32c config (answers j)) → x.Raises
      (.remoteSigner "Google Cloud KMS signing response failed CRC32C integrity verification")
  /-- The same request is sent in every round, and again only after a corrupted one. -/
  requests : ∃ n ≤ config.integrityAttempts,
    x.effects = List.replicate n (gcpRequest crc32c config message) ∧
      ∀ j, j + 1 < n → Corrupted crc32c config (answers j)

/-- **Checksums are retried, and nothing else is.**  Whatever the service answers in its rounds: a
    signature is returned exactly if a round within `integrity_attempts` delivers it behind
    corrupted ones only; corrupted rounds alone raise; and the request is sent again only after a
    corrupted answer. -/
theorem gcpSign_signed (crc32c : Bytes → ℕ) (config : GcpKmsConfiguration)
    (answers : ℕ → Answer GcpResponse) (message : String) :
    GcpSigned crc32c config answers message (gcpSign crc32c config answers message) := by
  refine ⟨fun _ => gcpSign_returns, fun hsignable hall => ?_, ?_⟩
  · obtain ⟨-, hresult, -⟩ | ⟨k, hk, -, hat, -⟩ := gcpSign_cases crc32c config answers hsignable
    · exact hresult
    · exact absurd (hall k hk) hat
  · by_cases hsignable : isSignable message = true
    · obtain ⟨hall, -, heffects⟩ | ⟨k, hk, hbefore, -, heffects, -⟩ :=
        gcpSign_cases crc32c config answers hsignable
      · exact ⟨_, le_rfl, heffects, fun j hj => hall j (by omega)⟩
      · exact ⟨k + 1, hk, heffects, fun j hj => hbefore j (by omega)⟩
    · refine ⟨0, Nat.zero_le _, ?_, fun j hj => absurd hj (Nat.not_lt_zero _)⟩
      unfold gcpSign
      rw [if_neg hsignable]
      rfl

end Gcp

/-! ## What a remote signer returns -/

/-- A configured signer and the service behind it, message by message. -/
inductive RemoteService where
  | vault (excess : Bool) (loads : Bytes → Option Json) (config : VaultTransitConfiguration)
      (answer : String → Except VaultFailure Bytes)
  | awsKms (keyArn : String) (answer : String → Answer (Option AwsResponse))
  | gcpKms (crc32c : Bytes → ℕ) (config : GcpKmsConfiguration)
      (answers : String → ℕ → Answer GcpResponse)

namespace RemoteService

/-- `sign` of the three signers. -/
def sign (service : RemoteService) (message : String) :
    Attempted ServiceCall EvidenceError String :=
  match service with
  | vault excess loads config answer => vaultSign excess loads config (answer message) message
  | awsKms keyArn answer => awsSign keyArn (answer message) message
  | gcpKms crc32c config answers => gcpSign crc32c config (answers message) message

/-- The signer as a keyring has it. -/
def signer (service : RemoteService) (keyId : String) : RemoteSigner where
  algorithm := .ed25519
  keyId
  sign message := (service.sign message).result

/-- A cloud KMS signs messages of a bounded size. -/
def Signable (service : RemoteService) (message : String) : Prop :=
  match service with
  | vault _ _ _ _ => True
  | awsKms _ _ | gcpKms _ _ _ => isSignable message = true

/-- The service answered with the signature, under the pinned key. -/
def Answered (service : RemoteService) (message : String) (signature : Bytes) : Prop :=
  match service with
  | vault excess loads config answer =>
    ∃ raw text, answer message = .ok raw ∧ raw.length ≤ maxResponseBytes ∧
      (loads raw).bind dataSignature = some (.str (config.expectedPrefix ++ ":" ++ text)) ∧
      ':' ∉ text.toList ∧ b64decode excess text = some signature
  | awsKms keyArn answer =>
    ∃ response, answer message = .ok (some response) ∧ response.keyId = some keyArn ∧
      response.signingAlgorithm = some awsKmsSigningAlgorithm ∧ response.signature = some signature
  | gcpKms crc32c config answers =>
    ∃ k < config.integrityAttempts, (∀ j < k, Corrupted crc32c config (answers message j)) ∧
      Delivered crc32c config (answers message k) signature

end RemoteService

/-- Vault's response is accepted exactly if it is within the limit and names the expected version of
    the key before a signature of 64 bytes. -/
theorem readVault_ok {excess : Bool} {loads : Bytes → Option Json}
    {config : VaultTransitConfiguration} {raw : Bytes} {text : String} :
    readVault excess loads config raw = .ok text ↔ raw.length ≤ maxResponseBytes ∧
      ∃ encoded signature, (loads raw).bind dataSignature =
          some (.str (config.expectedPrefix ++ ":" ++ encoded)) ∧
        ':' ∉ encoded.toList ∧ b64decode excess encoded = some signature ∧
          signature.length = signatureBytes ∧ text = b64encode signature := by
  unfold readVault
  by_cases hlength : raw.length > maxResponseBytes
  · rw [if_pos hlength]
    constructor
    · intro h
      cases h
    · rintro ⟨hle, -⟩
      omega
  rw [if_neg hlength]
  constructor
  · intro h
    refine ⟨by omega, ?_⟩
    split at h
    · next signature hsignature =>
      split at h
      · next keyVersion encoded hpartition =>
        obtain ⟨rfl, hcolon⟩ := rpartition_iff.mp hpartition
        split_ifs at h with hversion
        obtain rfl := not_not.mp hversion
        split at h
        · cases h
        · next decoded hdecoded =>
          split_ifs at h with hbytes
          obtain rfl := Except.ok.inj h
          exact ⟨encoded, decoded, hsignature, hcolon, hdecoded, not_not.mp hbytes, rfl⟩
      · cases h
    · cases h
  · rintro ⟨-, encoded, signature, hsignature, hcolon, hdecoded, hbytes, rfl⟩
    have hpartition : rpartition (config.expectedPrefix ++ ":" ++ encoded) =
        (some config.expectedPrefix, encoded) := rpartition_iff.mpr ⟨rfl, hcolon⟩
    simp only [hsignature, hpartition, hdecoded, hbytes, ne_eq, not_true, if_false]

/-- AWS's response is accepted exactly if it names the pinned key and the algorithm with a signature
    of 64 bytes. -/
theorem readAws_ok {keyArn : String} {response : Option AwsResponse} {text : String} :
    readAws keyArn response = .ok text ↔ ∃ r signature, response = some r ∧
      r.keyId = some keyArn ∧ r.signingAlgorithm = some awsKmsSigningAlgorithm ∧
        r.signature = some signature ∧ signature.length = signatureBytes ∧
          text = b64encode signature := by
  constructor
  · intro h
    unfold readAws at h
    split at h
    · cases h
    · next r =>
      split_ifs at h with hkey halgorithm
      split at h
      · cases h
      · next signature hsignature =>
        split_ifs at h with hbytes
        obtain rfl := Except.ok.inj h
        exact ⟨r, signature, rfl, not_not.mp hkey, not_not.mp halgorithm, hsignature,
          not_not.mp hbytes, rfl⟩
  · rintro ⟨r, signature, rfl, hkey, halgorithm, hsignature, hbytes, rfl⟩
    unfold readAws
    simp only [hkey, halgorithm, hsignature, hbytes, ne_eq, not_true, if_false]

/-- A text is returned exactly when the service answered with a signature of 64 bytes under the
    pinned key, and then it is the signature's base64. -/
theorem RemoteService.sign_returns {service : RemoteService} {message text : String} :
    (service.sign message).Returns text ↔ service.Signable message ∧
      ∃ signature, service.Answered message signature ∧ signature.length = signatureBytes ∧
        text = b64encode signature := by
  cases service with
  | vault excess loads config answer =>
    simp only [sign, vaultSign, returns_bind, returns_effect, returns_of, Raising.mapError_ok,
      readVault_ok]
    constructor
    · rintro ⟨raw, hraw, hlength, encoded, signature, hsignature, hcolon, hdecoded, hbytes, htext⟩
      exact ⟨trivial, signature, ⟨raw, encoded, hraw, hlength, hsignature, hcolon, hdecoded⟩,
        hbytes, htext⟩
    · rintro ⟨-, signature, ⟨raw, encoded, hraw, hlength, hsignature, hcolon, hdecoded⟩, hbytes,
        htext⟩
      exact ⟨raw, hraw, hlength, encoded, signature, hsignature, hcolon, hdecoded, hbytes, htext⟩
  | awsKms keyArn answer =>
    by_cases hsignable : isSignable message = true
    · simp only [sign, awsSign, if_pos hsignable, returns_bind, returns_effect, returns_of,
        Answer.translated, Raising.mapError_ok, readAws_ok]
      constructor
      · rintro ⟨_, hanswer, response, signature, rfl, hkey, halgorithm, hsignature, hbytes, htext⟩
        exact ⟨hsignable, signature, ⟨response, hanswer, hkey, halgorithm, hsignature⟩, hbytes,
          htext⟩
      · rintro ⟨-, signature, ⟨response, hanswer, hkey, halgorithm, hsignature⟩, hbytes, htext⟩
        exact ⟨_, hanswer, response, signature, rfl, hkey, halgorithm, hsignature, hbytes, htext⟩
    · simp only [sign, awsSign, if_neg hsignable]
      constructor
      · intro h
        cases h
      · rintro ⟨h, -⟩
        exact absurd h hsignable
  | gcpKms crc32c config answers =>
    refine gcpSign_returns.trans ?_
    constructor
    · rintro ⟨hsignable, k, hk, hbefore, signature, hdelivered, htext⟩
      obtain ⟨response, hresponse, hpinned, hintact, hbytes⟩ := hdelivered
      exact ⟨hsignable, signature,
        ⟨k, hk, hbefore, response, hresponse, hpinned, hintact, hbytes⟩, hbytes, htext⟩
    · rintro ⟨hsignable, signature, ⟨k, hk, hbefore, hdelivered⟩, -, htext⟩
      exact ⟨hsignable, k, hk, hbefore, signature, hdelivered, htext⟩

/-! ## Behind a keyring -/

/-- A keyring with a remote signer returns what the signer returns and its own public key verifies.
    -/
theorem sign_remote_iff {C : Crypto} {K : ArtifactKeyring C} {signer : RemoteSigner}
    (hremote : K.remoteSigner = some signer) {t : String} {u : UUID} {d text : String} :
    K.sign t u d = .ok text ↔ signer.sign (signatureMessage t u d) = .ok text ∧
      K.verify SignatureAlgorithm.ed25519.value signer.keyId t u d text = .ok true := by
  constructor
  · exact ArtifactKeyring.verify_of_sign_remote hremote
  · rintro ⟨hanswer, hverify⟩
    obtain ⟨hkey, -, ha, -⟩ := K.remote signer hremote
    unfold ArtifactKeyring.sign
    simp only [hkey, ha, hremote, hanswer, bind, Except.bind, hverify, if_true]

/-- **A remote key signs like a local one.**  A keyring returns exactly the signatures that its
    service answers with for the message under the pinned key and that its own public key verifies;
    each is the canonical base64 of 64 bytes, and every keyring with the public key verifies it. -/
theorem remote_signature {C : Crypto} {K : ArtifactKeyring C} {service : RemoteService}
    {keyId : String} (hremote : K.remoteSigner = some (service.signer keyId)) (t : String)
    (u : UUID) (d text : String) :
    (K.sign t u d = .ok text ↔ service.Signable (signatureMessage t u d) ∧
      (∃ signature, service.Answered (signatureMessage t u d) signature ∧
        signature.length = signatureBytes ∧ text = b64encode signature) ∧
      K.verify SignatureAlgorithm.ed25519.value keyId t u d text = .ok true) ∧
    (K.sign t u d = .ok text →
      (∃ signature, signature.length = signatureBytes ∧
        ∀ excess, b64decode excess text = some signature) ∧
      ∀ A : ArtifactKeyring C,
        A.verificationKey .ed25519 keyId = K.verificationKey .ed25519 keyId →
          A.verify SignatureAlgorithm.ed25519.value keyId t u d text = .ok true) := by
  have hsign : K.sign t u d = .ok text ↔ (service.Signable (signatureMessage t u d) ∧
      ∃ signature, service.Answered (signatureMessage t u d) signature ∧
        signature.length = signatureBytes ∧ text = b64encode signature) ∧
      K.verify SignatureAlgorithm.ed25519.value keyId t u d text = .ok true :=
    (sign_remote_iff hremote).trans (and_congr_left' RemoteService.sign_returns)
  refine ⟨hsign.trans and_assoc, fun h => ?_⟩
  obtain ⟨⟨-, signature, -, hlength, rfl⟩, hverify⟩ := hsign.mp h
  refine ⟨⟨signature, hlength, fun excess => b64decode_b64encode excess signature⟩, fun A hA => ?_⟩
  exact (ArtifactKeyring.verify_congr hA t u d _).trans hverify

namespace Sample

open Evidence.Sample

/-- The bytes of the run's signature. -/
def runBytes : Bytes :=
  [254, 248, 164, 64, 33, 71, 173, 238, 36, 19, 169, 62, 12, 147, 152, 124, 174, 152, 193, 132,
    121, 98, 135, 1, 70, 77, 79, 214, 162, 236, 158, 93, 242, 120, 217, 54, 103, 160, 208, 160,
    232, 201, 28, 3, 110, 221, 45, 37, 181, 87, 26, 206, 224, 169, 23, 236, 35, 211, 136, 61,
    245, 213, 243, 2]

/-- AWS KMS holds the key of the worked run. -/
def awsService : RemoteService :=
  .awsKms "arn:aws:kms:us-east-1:111122223333:key/portfolio" fun _ => .ok (some
    ⟨some "arn:aws:kms:us-east-1:111122223333:key/portfolio", some awsKmsSigningAlgorithm,
      some runBytes⟩)

def gcpConfiguration : GcpKmsConfiguration where
  keyVersion :=
    "projects/p/locations/us/keyRings/evidence/cryptoKeys/portfolio/cryptoKeyVersions/1"
  protectionLevel := "HSM"
  integrityAttempts := 3
  attempts_pos := by decide
  attempts_le := by decide

/-- A response of Google Cloud KMS, with the checksum it sends. -/
def gcpResponse (checksum : ℕ) : GcpResponse :=
  ⟨some gcpConfiguration.keyVersion, some gcpConfiguration.protectionLevel, some runBytes,
    some checksum, true⟩

/-- Google Cloud KMS holds it; the first response arrives corrupted.  The checksum of a text stands
    for CRC-32C here. -/
def gcpService : RemoteService :=
  .gcpKms List.length gcpConfiguration fun _ round => .ok (gcpResponse (63 + round))

theorem one_le_keyVersion : 1 ≤ 1 := le_rfl

def vaultConfiguration : VaultTransitConfiguration where
  signUrl := "https://vault.internal/v1/transit/sign/portfolio"
  token := "s.token"
  vaultNamespace := none
  keyVersion := 1
  keyVersion_pos := one_le_keyVersion

/-- The payload of Vault's response. -/
def vaultPayload : Json :=
  .obj [("data", .obj [("signature", .str (vaultConfiguration.expectedPrefix ++ ":" ++
    runSignature))])]

/-- Vault holds it; the response is read as its payload. -/
def vaultService : RemoteService :=
  .vault false (fun _ => some vaultPayload) vaultConfiguration fun _ => .ok []

/-- The identifier of the public key is well formed. -/
theorem remote_keyIds : ∀ p ∈ ([] : List (String × Bytes)) ++ ([] : List (String × Bytes)) ++
    [("portfolio-2026-07", crypto.ed25519PublicKey privateKey)], isKeyId p.1 = true := by decide

theorem no_hmacKeys : ∀ p ∈ ([] : List (String × Bytes)), 32 ≤ p.2.length := by
  intro p hp
  cases hp

theorem no_privateKeys : ∀ p ∈ ([] : List (String × Bytes)), p.2.length = 32 := by
  intro p hp
  cases hp

/-- No private key is held whose public key would have to agree. -/
theorem none_derived : ∀ keyId key, ([] : List (String × Bytes)).lookup keyId = some key →
    [("portfolio-2026-07", crypto.ed25519PublicKey privateKey)].lookup keyId =
      some (platform.toCrypto.ed25519PublicKey key) := by
  intro keyId key h
  cases h

/-- The public key alone. -/
def publicMaterial : KeyMaterial platform.toCrypto :=
  ⟨[], [], [("portfolio-2026-07", crypto.ed25519PublicKey privateKey)], remote_keyIds, no_hmacKeys,
    no_privateKeys, none_derived⟩

/-- Key identifier and algorithm are active together. -/
theorem remote_together : (some "portfolio-2026-07").isSome =
    (some SignatureAlgorithm.ed25519).isSome := rfl

/-- The active algorithm is Ed25519, so no HMAC key is asked for. -/
theorem remote_active : ∀ keyId, some "portfolio-2026-07" = some keyId →
    some SignatureAlgorithm.ed25519 = some .hmacSha256 →
      (publicMaterial.hmacKeys.lookup keyId).isSome = true := by
  intro keyId _ h
  cases h

/-- There is a signer, so no private key is asked for. -/
theorem remote_local (service : RemoteService) : ∀ keyId, some "portfolio-2026-07" = some keyId →
    some SignatureAlgorithm.ed25519 = some .ed25519 →
      some (service.signer "portfolio-2026-07") = none →
        (publicMaterial.ed25519PrivateKeys.lookup keyId).isSome = true := by
  intro keyId _ _ h
  cases h

/-- The signer's public key is registered for the active key. -/
theorem remote_registered (service : RemoteService) : ∀ signer,
    some (service.signer "portfolio-2026-07") = some signer →
      some "portfolio-2026-07" = some signer.keyId ∧
      some SignatureAlgorithm.ed25519 = some signer.algorithm ∧
      some SignatureAlgorithm.ed25519 = some .ed25519 ∧
      publicMaterial.ed25519PrivateKeys.lookup signer.keyId = none ∧
      (publicMaterial.ed25519PublicKeys.lookup signer.keyId).isSome = true := by
  intro signer h
  obtain rfl := Option.some.inj h
  exact ⟨rfl, rfl, rfl, rfl, rfl⟩

/-- A keyring that signs through a service. -/
def remoteKeyring (service : RemoteService) : ArtifactKeyring platform.toCrypto :=
  ⟨publicMaterial, some "portfolio-2026-07", some .ed25519,
    some (service.signer "portfolio-2026-07"), remote_together, remote_active,
    remote_local service, remote_registered service⟩

/-- The signer's bytes are those of the run's signature. -/
theorem b64encode_runBytes : b64encode runBytes = runSignature := by decide

/-- The run's message is within the bounds. -/
theorem isSignable_run : isSignable (signatureMessage "run" 1 runDigest.val) = true := by decide

/-- The public key verifies the signature, whichever service made it. -/
theorem verify_run (service : RemoteService) :
    (remoteKeyring service).verify SignatureAlgorithm.ed25519.value "portfolio-2026-07" "run" 1
      runDigest.val runSignature = .ok true := by
  have haccepts : crypto.ed25519Verify (crypto.ed25519PublicKey privateKey)
      (signatureMessage "run" 1 runDigest.val) runSignature = true :=
    decide_eq_true signature_run.symm
  exact congrArg Except.ok haccepts

/-- AWS answers with the signature at once. -/
theorem awsService_answered (message : String) : awsService.Answered message runBytes :=
  ⟨_, rfl, rfl, rfl, rfl⟩

/-- The second response is delivered. -/
theorem gcpService_answered (message : String) : gcpService.Answered message runBytes := by
  refine ⟨1, by decide, fun j hj => ?_, _, rfl, ⟨rfl, rfl⟩, ⟨rfl, rfl, rfl⟩, rfl⟩
  obtain rfl : j = 0 := by omega
  refine ⟨_, rfl, ⟨rfl, rfl⟩, fun signature hintact => ?_⟩
  obtain ⟨hsignature, -, hchecksum⟩ := hintact
  obtain rfl : runBytes = signature := Option.some.inj hsignature
  exact absurd hchecksum (by decide)

/-- Vault answers with its base64 behind the version of the key. -/
theorem vaultService_answered (message : String) : vaultService.Answered message runBytes :=
  ⟨[], runSignature, rfl, by decide, rfl, by decide,
    b64encode_runBytes ▸ b64decode_b64encode false runBytes⟩

end Sample

/-- The three services sign the worked run, Google Cloud KMS when it is asked again, and the keyring
    with the private key verifies the signature they all return. -/
theorem remote_signature_run :
    (Sample.remoteKeyring Sample.vaultService).sign "run" 1 Evidence.Sample.runDigest.val =
        .ok Evidence.Sample.runSignature ∧
      (Sample.remoteKeyring Sample.awsService).sign "run" 1 Evidence.Sample.runDigest.val =
        .ok Evidence.Sample.runSignature ∧
      (Sample.remoteKeyring Sample.gcpService).sign "run" 1 Evidence.Sample.runDigest.val =
        .ok Evidence.Sample.runSignature ∧
      Evidence.Sample.keyring.verify SignatureAlgorithm.ed25519.value "portfolio-2026-07" "run" 1
        Evidence.Sample.runDigest.val Evidence.Sample.runSignature = .ok true := by
  have hsignature := fun service : RemoteService =>
    remote_signature (show (Sample.remoteKeyring service).remoteSigner =
        some (service.signer "portfolio-2026-07") from rfl)
      "run" 1 Evidence.Sample.runDigest.val Evidence.Sample.runSignature
  have hsigned (service : RemoteService)
      (hsignable : service.Signable (signatureMessage "run" 1 Evidence.Sample.runDigest.val))
      (hanswered : service.Answered (signatureMessage "run" 1 Evidence.Sample.runDigest.val)
        Sample.runBytes) :
      (Sample.remoteKeyring service).sign "run" 1 Evidence.Sample.runDigest.val =
        .ok Evidence.Sample.runSignature :=
    (hsignature service).1.mpr ⟨hsignable, ⟨Sample.runBytes, hanswered, rfl,
      Sample.b64encode_runBytes.symm⟩, Sample.verify_run service⟩
  have hvault := hsigned Sample.vaultService trivial (Sample.vaultService_answered _)
  have haws := hsigned Sample.awsService Sample.isSignable_run (Sample.awsService_answered _)
  have hgcp := hsigned Sample.gcpService Sample.isSignable_run (Sample.gcpService_answered _)
  exact ⟨hvault, haws, hgcp, ((hsignature _).2 hvault).2 Evidence.Sample.keyring rfl⟩

end AEControl.Evidence.RemoteSigners
