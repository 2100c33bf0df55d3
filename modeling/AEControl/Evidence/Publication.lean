/-
  `checkpoints.py`: what every checkpoint sink shares: the bytes of a signed envelope, its object
  key, receipts and publications.

  A publication holds the proofs of its constraints, `CheckpointPublication.make` is the
  constructor that checks them.
-/
import AEControl.Evidence.Checkpoints

namespace AEControl.Evidence

/-! ## Errors -/

/-- What `publish` raises. -/
inductive SinkError where
  /-- `CheckpointPublicationError`. -/
  | publication (message : String)
  | evidence (error : EvidenceError)
  | osError (message : String)
  /-- The process was stopped, or an exception of the operating system ended it half-way. -/
  | interrupted
  deriving DecidableEq

/-! ## Envelopes as bytes -/

/-- `str.encode`. -/
def utf8 (s : String) : Bytes := s.toUTF8.data.toList

theorem utf8_inj {s t : String} (h : utf8 s = utf8 t) : s = t :=
  String.toByteArray_inj.mp (ByteArray.ext (Array.toList_inj.mp h))

theorem utf8_empty : utf8 "" = [] := rfl

/-- Encoding does not shorten a text. -/
theorem length_le_utf8 (s : String) : s.length ≤ (utf8 s).length := by
  have hlen : (utf8 s).length = s.utf8ByteSize := rfl
  have hchars : ∀ cs : List Char, cs.length ≤ String.utf8Len cs := by
    intro cs
    induction cs with
    | nil => simp
    | cons c cs ih =>
      have := c.utf8Size_pos
      rw [String.utf8Len_cons, List.length_cons]
      omega
  rw [hlen, ← String.ofList_toList (s := s), String.utf8ByteSize_ofList, String.length_ofList]
  exact hchars _

/-- Encoding takes at most four bytes a character. -/
theorem utf8_length_le (s : String) : (utf8 s).length ≤ 4 * s.length := by
  have hlen : (utf8 s).length = s.utf8ByteSize := rfl
  have hchars : ∀ cs : List Char, String.utf8Len cs ≤ 4 * cs.length := by
    intro cs
    induction cs with
    | nil => simp
    | cons c cs ih =>
      have := c.utf8Size_le_four
      rw [String.utf8Len_cons, List.length_cons]
      omega
  rw [hlen, ← String.ofList_toList (s := s), String.utf8ByteSize_ofList, String.length_ofList]
  exact hchars _

/-- `SignedLedgerCheckpoint.model_dump(mode="json")`. -/
def SignedLedgerCheckpoint.dump (P : Platform) (c : SignedLedgerCheckpoint) : Json :=
  .obj [("payload", c.payload.dump P),
    ("payload_sha256", .str c.payloadSha256.val),
    ("signature_algorithm", .str SignatureAlgorithm.ed25519.value),
    ("signing_key_id", .str c.signingKeyId.val),
    ("signature", .str c.signature)]

/-- The text whose encoding is `canonical_bytes()`. -/
def SignedLedgerCheckpoint.canonicalText (P : Platform) (c : SignedLedgerCheckpoint) : String :=
  (c.dump P).canonicalText

/-- `SignedLedgerCheckpoint.canonical_bytes`, of a checkpoint that can be dumped. -/
def SignedLedgerCheckpoint.canonicalBytes (P : Platform) (c : SignedLedgerCheckpoint) : Bytes :=
  utf8 (c.canonicalText P)

/-- `int.__str__` takes the numbers of the checkpoint. -/
def SignedLedgerCheckpoint.printable (c : SignedLedgerCheckpoint) : Bool :=
  Json.intPrintable c.payload.ledgerSequence && Json.intPrintable c.payload.ledgerEntries

/-- The `ValueError` of the digit limit. -/
def digitLimitError : EvidenceError :=
  .valueError "Exceeds the limit (4300 digits) for integer string conversion"

/-- `f"{n:020d}"`. -/
def zeroPadded (n : ℕ) : Except EvidenceError String :=
  if Json.intPrintable n then .ok (String.ofList ((toString n).toList.leftpad 20 '0'))
  else .error digitLimitError

/-- `checkpoint_object_key`. -/
def checkpointObjectKey (c : SignedLedgerCheckpoint) : Except EvidenceError String := do
  let sequence ← zeroPadded c.payload.ledgerSequence
  .ok (c.payload.tenantId.val ++ "/" ++ sequence ++ "-" ++ c.payload.ledgerHeadSha256.val ++ "-" ++
    c.payload.checkpointId.str ++ ".json")

/-- An envelope can be dumped exactly if its numbers can be printed. -/
theorem SignedLedgerCheckpoint.encodable_dump (P : Platform) (c : SignedLedgerCheckpoint) :
    (c.dump P).encodable = c.printable := by
  simp [SignedLedgerCheckpoint.dump, LedgerCheckpointPayload.dump, LedgerCheckpointPayload.items,
    Json.encodable, Json.encodableFields, SignedLedgerCheckpoint.printable]

theorem SignedLedgerCheckpoint.height_dump (P : Platform) (c : SignedLedgerCheckpoint) :
    (c.dump P).height = 3 := rfl

theorem canonicalJsonText_dump (P : Platform) (c : SignedLedgerCheckpoint) :
    canonicalJsonText P.toInterpreter (c.dump P) =
      if c.printable then .ok (c.canonicalText P) else .error .unencodable := by
  have hheight : ¬P.recursionLimit < (c.dump P).height := by
    have := P.recursionLimit_ge
    rw [c.height_dump]
    omega
  rw [canonicalJsonText, if_neg hheight, SignedLedgerCheckpoint.encodable_dump]
  rfl

/-- No envelope is empty. -/
theorem canonicalBytes_ne_nil (P : Platform) (c : SignedLedgerCheckpoint) :
    c.canonicalBytes P ≠ [] := by
  intro h
  have htext : c.canonicalText P = "" := utf8_inj (h.trans utf8_empty.symm)
  have hprint : (c.canonicalText P).toList = [] := congrArg String.toList htext
  simp only [SignedLedgerCheckpoint.canonicalText, SignedLedgerCheckpoint.dump, Json.canonicalText,
    Json.canon, String.toList_ofList] at hprint
  exact Json.print_obj_ne_nil _ hprint

/-- An envelope has more bytes than its signature has characters. -/
theorem length_signature_le (P : Platform) (c : SignedLedgerCheckpoint) :
    c.signature.length ≤ (c.canonicalBytes P).length := by
  have htext : c.signature.length ≤ (c.canonicalText P).length :=
    Json.length_le_canonicalText_obj (k := "signature") (by simp)
  exact le_trans htext (length_le_utf8 _)

/-- A printable checkpoint has an object key. -/
theorem checkpointObjectKey_of_printable {c : SignedLedgerCheckpoint} (h : c.printable = true) :
    ∃ key, checkpointObjectKey c = .ok key := by
  have hsequence : Json.intPrintable c.payload.ledgerSequence = true :=
    ((Bool.and_eq_true _ _).mp h).1
  unfold checkpointObjectKey zeroPadded
  rw [if_pos hsequence]
  exact ⟨_, rfl⟩

/-! ## Receipts -/

/-- `[a-z0-9][a-z0-9-]{0,31}`. -/
def isDestinationId (s : String) : Bool :=
  let lowerOrDigit := fun c : Char => c.isDigit || c.isLower
  match s.toList with
  | [] => false
  | c :: cs => lowerOrDigit c && cs.length ≤ 31 && cs.all fun d => lowerOrDigit d || d = '-'

/-- A validated destination identifier. -/
abbrev DestinationId := { s : String // isDestinationId s = true }

/-- `[a-z0-9-]{1,32}`. -/
def isRegion (s : String) : Bool :=
  1 ≤ s.toList.length && s.toList.length ≤ 32 &&
    s.toList.all fun c => c.isDigit || c.isLower || c = '-'

/-- `CheckpointObjectReceipt`. -/
structure CheckpointObjectReceipt where
  destinationId : DestinationId
  destination : String
  objectKey : String
  region : Option { s : String // isRegion s = true }
  bodySha256 : HexDigest
  etag : Option { s : String // s.length ≤ 256 }
  versionId : Option { s : String // s.length ≤ 1024 }
  retentionUntil : Datetime
  verifiedAt : Datetime
  deriving DecidableEq

/-- `_optional_response_string`. -/
def optionalResponseString (value : Option String) (maximum : ℕ) :
    Option { s : String // s.length ≤ maximum } :=
  match value with
  | none => none
  | some rendered => if h : rendered.length ≤ maximum then some ⟨rendered, h⟩ else none

/-! ## Publications -/

/-- The destinations of some receipts. -/
def destinationIds (copies : List CheckpointObjectReceipt) : List String :=
  copies.map fun copy => copy.destinationId.val

/-- `CheckpointPublication`. -/
structure CheckpointPublication where
  checkpoint : SignedLedgerCheckpoint
  destination : String
  objectKey : String
  publishedAt : Datetime
  copies : List CheckpointObjectReceipt
  requiredCopies : ℕ
  failedDestinations : List String
  required_range : 1 ≤ requiredCopies ∧ requiredCopies ≤ 5
  /-- `validate_durability`, clause by clause. -/
  durable : ¬ (copies.length < requiredCopies ∧ (0 < copies.length ∨ 1 < requiredCopies))
  copies_distinct : (destinationIds copies).Nodup
  failed_valid : failedDestinations.Nodup ∧ ∀ name ∈ failedDestinations, isDestinationId name = true
  disjoint : ∀ name ∈ destinationIds copies, name ∉ failedDestinations

/-- The constructor. -/
def CheckpointPublication.make (checkpoint : SignedLedgerCheckpoint)
    (destination objectKey : String) (publishedAt : Datetime)
    (copies : List CheckpointObjectReceipt) (requiredCopies : ℕ)
    (failedDestinations : List String) : Except SinkError CheckpointPublication :=
  if hrange : 1 ≤ requiredCopies ∧ requiredCopies ≤ 5 then
    if hdurable : ¬ (copies.length < requiredCopies ∧
        (0 < copies.length ∨ 1 < requiredCopies)) then
      if hdistinct : (destinationIds copies).Nodup then
        if hfailed : failedDestinations.Nodup ∧
            ∀ name ∈ failedDestinations, isDestinationId name = true then
          if hdisjoint : ∀ name ∈ destinationIds copies, name ∉ failedDestinations then
            .ok ⟨checkpoint, destination, objectKey, publishedAt, copies, requiredCopies,
              failedDestinations, hrange, hdurable, hdistinct, hfailed, hdisjoint⟩
          else .error (.evidence (.validationError
            "checkpoint destination cannot be both successful and failed"))
        else .error (.evidence (.validationError
          "checkpoint publication contains invalid failed destinations"))
      else .error (.evidence (.validationError
        "checkpoint publication contains duplicate destinations"))
    else .error (.evidence (.validationError
      "checkpoint publication does not meet its durability policy"))
  else .error (.evidence (.validationError "required_copies"))

/-- A constructed publication has the given fields. -/
theorem CheckpointPublication.make_fields {checkpoint : SignedLedgerCheckpoint}
    {destination objectKey : String} {publishedAt : Datetime}
    {copies : List CheckpointObjectReceipt} {requiredCopies : ℕ}
    {failedDestinations : List String} {p : CheckpointPublication}
    (h : CheckpointPublication.make checkpoint destination objectKey publishedAt copies
      requiredCopies failedDestinations = .ok p) :
    p.checkpoint = checkpoint ∧ p.copies = copies ∧ p.requiredCopies = requiredCopies ∧
      p.failedDestinations = failedDestinations := by
  unfold CheckpointPublication.make at h
  split_ifs at h
  obtain rfl := Except.ok.inj h
  exact ⟨rfl, rfl, rfl, rfl⟩

/-- What satisfies the constraints is constructed as it is given. -/
theorem CheckpointPublication.make_ok (checkpoint : SignedLedgerCheckpoint)
    (destination objectKey : String) (publishedAt : Datetime)
    {copies : List CheckpointObjectReceipt} {requiredCopies : ℕ}
    {failedDestinations : List String} (hrange : 1 ≤ requiredCopies ∧ requiredCopies ≤ 5)
    (hdurable : requiredCopies ≤ copies.length ∨ copies = [] ∧ requiredCopies = 1)
    (hdistinct : (destinationIds copies).Nodup)
    (hfailed : failedDestinations.Nodup ∧ ∀ name ∈ failedDestinations, isDestinationId name = true)
    (hdisjoint : ∀ name ∈ destinationIds copies, name ∉ failedDestinations) :
    ∃ p, CheckpointPublication.make checkpoint destination objectKey publishedAt copies
        requiredCopies failedDestinations = .ok p ∧
      p.checkpoint = checkpoint ∧ p.destination = destination ∧ p.objectKey = objectKey ∧
      p.publishedAt = publishedAt ∧ p.copies = copies ∧ p.requiredCopies = requiredCopies ∧
      p.failedDestinations = failedDestinations := by
  have hdurable : ¬ (copies.length < requiredCopies ∧
      (0 < copies.length ∨ 1 < requiredCopies)) := by
    rintro ⟨hlt, hor⟩
    rcases hdurable with hle | ⟨rfl, rfl⟩
    · omega
    · simp at hor
  unfold CheckpointPublication.make
  rw [dif_pos hrange, dif_pos hdurable, dif_pos hdistinct, dif_pos hfailed, dif_pos hdisjoint]
  exact ⟨_, rfl, rfl, rfl, rfl, rfl, rfl, rfl, rfl⟩

end AEControl.Evidence
