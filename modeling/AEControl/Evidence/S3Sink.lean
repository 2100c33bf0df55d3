/-
  `checkpoints.py`: `S3ObjectLockCheckpointSink`, one destination of checkpoint publication.

  What a client answers is arbitrary (`ClientAnswers`); the object store underneath binds a key at
  most once.  `sinkPublish_ok` says what a receipt was issued on, `sinkPublish_store` what a
  publication leaves in the store, `sinkPublish_succeeds` when it must succeed.
-/
import AEControl.Evidence.ObjectLock
import AEControl.Lib.Except

namespace AEControl.Evidence

open CreateOnly

/-! ## One destination -/

/-- `S3ObjectLockCheckpointSink`; the client is named by its endpoint. -/
structure S3CheckpointSink where
  endpoint : String
  bucket : String
  keyPrefix : String
  destinationId : DestinationId
  region : Option { s : String // isRegion s = true }
  deriving DecidableEq

/-- The body stream of a `get_object`: what `read` of at most so many bytes returns, `none` where it
    is no `bytes`, and what `close` raises, if it does. -/
structure BodyStream where
  read : ℕ → Except ClientError (Option Bytes)
  closeError : Option ClientError

/-- What the client does in one publication, and the clock meanwhile. -/
structure ClientAnswers where
  now : Timestamp
  configuration : Except ClientError LockConfiguration
  /-- The put takes effect, if its key is free. -/
  stores : Bool
  etag : String
  versionId : Option String
  put : Except ClientError Unit
  head : Except ClientError HeadResponse
  /-- `get_object`, with the `Body` of its response where that can be read. -/
  get : Except ClientError (Option BodyStream)
  verifiedAt : Timestamp

/-- An object's place: endpoint, bucket and key. -/
abbrev Address := String × String × String

/-- What all buckets hold. -/
abbrev ObjectStore := Address → Option S3Object

/-- `_retention_request_deadline`: up to the next full second; `none` for an `OverflowError`. -/
def retentionRequestDeadline (value : Datetime) : Option Datetime :=
  let wall := value.instant + value.utcoffset
  let microsecond := wall % 1000000
  if microsecond = 0 then some value
  else if representable (wall - microsecond + 1000000) then
    some ⟨value.instant - microsecond + 1000000, value.utcoffset⟩
  else none

/-- `f"{self.prefix}/{relative_key}"`. -/
def S3CheckpointSink.key (sink : S3CheckpointSink) (c : SignedLedgerCheckpoint) :
    Except EvidenceError String := do
  let relativeKey ← checkpointObjectKey c
  .ok (sink.keyPrefix ++ "/" ++ relativeKey)

/-- `body_sha256`. -/
def SignedLedgerCheckpoint.bodySha256 (P : Platform) (c : SignedLedgerCheckpoint) : HexDigest :=
  P.sha256 (c.canonicalText P)

/-- The arguments of `put_object`. -/
def checkpointRequest (P : Platform) (c : SignedLedgerCheckpoint) (key : String)
    (deadline : Datetime) : PutRequest where
  key := key
  body := c.canonicalBytes P
  metadata := [("checkpoint-sha256", (c.bodySha256 P).val)]
  lockMode := "COMPLIANCE"
  retainUntil := deadline

/-- `raise CheckpointPublicationError(f"{message}: {code}")`. -/
def publicationError (message : String) (error : ClientError) : SinkError :=
  .publication (message ++ ": " ++ awsErrorCode error)

/-- `publish` before the put: the key. -/
def S3CheckpointSink.prepare (P : Platform) (sink : S3CheckpointSink) (c : SignedLedgerCheckpoint)
    (a : ClientAnswers) : Except SinkError String :=
  if c.payload.retentionUntil.instant ≤ a.now then
    .error (.publication "checkpoint retention must be in the future")
  else
    match a.configuration with
    | .error e => .error (publicationError "could not verify S3 Object Lock configuration" e)
    | .ok configuration =>
      if ¬ configuration.enabled then
        .error (.publication "S3 bucket does not have Object Lock enabled")
      else do
        let key ← (sink.key c).mapError .evidence
        let _ ← (canonicalJsonText P.toInterpreter (c.dump P)).mapError .evidence
        .ok key

/-- `_verify_copy`, what it reads: both responses, then the bounded body. -/
def readCopy (a : ClientAnswers) : Except SinkError (HeadResponse × Option Bytes) :=
  let failed := publicationError "S3 checkpoint read-back verification failed"
  match a.head with
  | .error e => .error (failed e)
  | .ok head =>
    match a.get with
    | .error e => .error (failed e)
    | .ok none => .error (.publication "S3 checkpoint body stream is unavailable")
    | .ok (some stream) =>
      -- an exception of `close` replaces one of `read`
      match stream.closeError, stream.read (1024 * 1024 + 1) with
      | some e, _ => .error (failed e)
      | none, .error e => .error (failed e)
      | none, .ok body => .ok (head, body)

/-- `ObjectLockRetainUntilDate`, where it is aware and not before `deadline`. -/
def sufficientRetention (deadline : Datetime) : Option PyDatetime → Option Datetime
  | some (.aware d) => if d.instant < deadline.instant then none else some d
  | _ => none

/-- The receipt of a verified copy. -/
def S3CheckpointSink.receipt (P : Platform) (sink : S3CheckpointSink) (c : SignedLedgerCheckpoint)
    (key : String) (head : HeadResponse) (retainedUntil : Datetime) (verifiedAt : Timestamp) :
    CheckpointObjectReceipt where
  destinationId := sink.destinationId
  destination := "s3://" ++ sink.bucket ++ "/" ++ key
  objectKey := key
  region := sink.region
  bodySha256 := c.bodySha256 P
  etag := optionalResponseString head.etag 256
  versionId := optionalResponseString head.versionId 1024
  retentionUntil := retainedUntil
  verifiedAt := .utc verifiedAt

/-- `_verify_copy`. -/
def S3CheckpointSink.verifyCopy (P : Platform) (sink : S3CheckpointSink)
    (c : SignedLedgerCheckpoint) (key : String) (a : ClientAnswers) :
    Except SinkError CheckpointObjectReceipt := do
  let (head, observedBody) ← readCopy a
  if observedBody ≠ some (c.canonicalBytes P) then
    .error (.publication "S3 checkpoint read-back bytes do not match")
  else if (head.metadata.bind fun m => m.lookup "checkpoint-sha256") ≠
      some (c.bodySha256 P).val then
    .error (.publication "S3 checkpoint read-back digest does not match")
  else if head.objectLockMode ≠ some "COMPLIANCE" then
    .error (.publication "S3 checkpoint is not under COMPLIANCE retention")
  else
    match sufficientRetention c.payload.retentionUntil head.retainUntil with
    | none => .error (.publication "S3 checkpoint retention deadline is insufficient")
    | some retainedUntil => .ok (sink.receipt P c key head retainedUntil a.verifiedAt)

/-- The put: what it leaves in the store, and the exception that `publish` sees of it. -/
def S3CheckpointSink.put (P : Platform) (sink : S3CheckpointSink) (c : SignedLedgerCheckpoint)
    (key : String) (a : ClientAnswers) (store : ObjectStore) :
    Except ClientError Unit × ObjectStore :=
  match retentionRequestDeadline c.payload.retentionUntil with
  | none => (.error .noResponse, store)
  | some deadline =>
    let object := (checkpointRequest P c key deadline).object a.etag a.versionId
    (a.put, if a.stores then create (sink.endpoint, sink.bucket, key) object store else store)

/-- The `try` statement around the put: an object that is there already will be verified. -/
def acceptAnswer (answer : Except ClientError Unit) : Except SinkError Unit :=
  match answer with
  | .ok () => .ok ()
  | .error e =>
    if isPreconditionFailed (awsErrorCode e) then .ok ()
    else .error (publicationError "S3 checkpoint publication failed" e)

/-- The publication of a sink, from the answer of its put on. -/
def S3CheckpointSink.finish (P : Platform) (sink : S3CheckpointSink) (c : SignedLedgerCheckpoint)
    (key : String) (a : ClientAnswers) (answer : Except ClientError Unit) :
    Except SinkError CheckpointPublication := do
  acceptAnswer answer
  let receipt ← sink.verifyCopy P c key a
  CheckpointPublication.make c receipt.destination key receipt.verifiedAt [receipt] 1 []

/-- `S3ObjectLockCheckpointSink.publish`. -/
def S3CheckpointSink.publish (P : Platform) (sink : S3CheckpointSink) (c : SignedLedgerCheckpoint)
    (a : ClientAnswers) (store : ObjectStore) :
    Except SinkError CheckpointPublication × ObjectStore :=
  match sink.prepare P c a with
  | .error e => (.error e, store)
  | .ok key =>
    let answer := sink.put P c key a store
    (sink.finish P c key a answer.1, answer.2)

/-! ## What a receipt was issued on -/

/-- What the receipt says was read back: the canonical bytes, metadata with their digest, COMPLIANCE
    mode, and a retention that covers the checkpoint's. -/
def ReadBack (P : Platform) (c : SignedLedgerCheckpoint) (a : ClientAnswers)
    (receipt : CheckpointObjectReceipt) : Prop :=
  ∃ head stream metadata, a.head = .ok head ∧ a.get = .ok (some stream) ∧
    stream.read (1024 * 1024 + 1) = .ok (some (c.canonicalBytes P)) ∧
    head.metadata = some metadata ∧
    metadata.lookup "checkpoint-sha256" = some (c.bodySha256 P).val ∧
    head.objectLockMode = some "COMPLIANCE" ∧
    head.retainUntil = some (.aware receipt.retentionUntil) ∧
    c.payload.retentionUntil.instant ≤ receipt.retentionUntil.instant

section

variable {P : Platform} {sink : S3CheckpointSink} {c : SignedLedgerCheckpoint} {key : String}
  {a : ClientAnswers} {store : ObjectStore}

theorem readCopy_ok {head : HeadResponse} {body : Option Bytes} :
    readCopy a = .ok (head, body) ↔ a.head = .ok head ∧ ∃ stream, a.get = .ok (some stream) ∧
      stream.closeError = none ∧ stream.read (1024 * 1024 + 1) = .ok body := by
  unfold readCopy
  cases a.head with
  | error e => simp
  | ok h =>
    rcases a.get with e | _ | stream
    · simp
    · simp
    · cases hclose : stream.closeError with
      | some e => simp [hclose]
      | none => cases hread : stream.read (1024 * 1024 + 1) <;> simp [hclose, hread]

theorem readCopy_error {e : SinkError} (h : readCopy a = .error e) :
    ∃ message, e = .publication message := by
  unfold readCopy at h
  cases hhead : a.head with
  | error e' =>
    simp only [hhead] at h
    exact ⟨_, (Except.error.inj h).symm⟩
  | ok head =>
    rcases hget : a.get with e' | _ | stream
    · simp only [hhead, hget] at h
      exact ⟨_, (Except.error.inj h).symm⟩
    · simp only [hhead, hget] at h
      exact ⟨_, (Except.error.inj h).symm⟩
    · simp only [hhead, hget] at h
      split at h
      · exact ⟨_, (Except.error.inj h).symm⟩
      · exact ⟨_, (Except.error.inj h).symm⟩
      · cases h

theorem sufficientRetention_some {deadline d : Datetime} {retainUntil : Option PyDatetime} :
    sufficientRetention deadline retainUntil = some d ↔
      retainUntil = some (.aware d) ∧ deadline.instant ≤ d.instant := by
  unfold sufficientRetention
  split
  · rename_i d'
    split
    · rename_i hlt
      simp only [reduceCtorEq, false_iff]
      rintro ⟨hd, hle⟩
      obtain rfl : d' = d := by simpa using hd
      exact absurd hlt (not_lt.mpr hle)
    · rename_i hlt
      simp only [Option.some.injEq, PyDatetime.aware.injEq]
      exact ⟨fun h => ⟨h, h ▸ not_lt.mp hlt⟩, And.left⟩
  · rename_i hne
    simp only [reduceCtorEq, false_iff]
    rintro ⟨rfl, -⟩
    exact hne d rfl

theorem verifyCopy_ok {receipt : CheckpointObjectReceipt}
    (h : sink.verifyCopy P c key a = .ok receipt) :
    receipt.destinationId = sink.destinationId ∧ receipt.bodySha256 = c.bodySha256 P ∧
      receipt.objectKey = key ∧ ReadBack P c a receipt := by
  unfold S3CheckpointSink.verifyCopy at h
  obtain ⟨⟨head, observedBody⟩, hread, h⟩ := Raising.bind_ok h
  obtain ⟨hhead, stream, hget, -, hbody⟩ := readCopy_ok.mp hread
  dsimp only at h
  split at h
  · cases h
  rename_i hbytes
  split at h
  · cases h
  rename_i hdigest
  split at h
  · cases h
  rename_i hmode
  split at h
  · cases h
  rename_i retainedUntil hretained
  obtain ⟨metadata, hmetadata, hlookup⟩ := Option.bind_eq_some_iff.mp (not_not.mp hdigest)
  obtain ⟨huntil, hle⟩ := sufficientRetention_some.mp hretained
  obtain rfl := Except.ok.inj h
  refine ⟨rfl, rfl, rfl, head, stream, metadata, hhead, hget, ?_, hmetadata, hlookup,
    not_not.mp hmode, huntil, hle⟩
  rw [hbody, not_not.mp hbytes]

theorem verifyCopy_error {e : SinkError} (h : sink.verifyCopy P c key a = .error e) :
    ∃ message, e = .publication message := by
  unfold S3CheckpointSink.verifyCopy at h
  rcases Raising.bind_error h with hread | ⟨⟨head, observedBody⟩, -, h⟩
  · exact readCopy_error hread
  · dsimp only at h
    split at h
    · exact ⟨_, (Except.error.inj h).symm⟩
    split at h
    · exact ⟨_, (Except.error.inj h).symm⟩
    split at h
    · exact ⟨_, (Except.error.inj h).symm⟩
    split at h
    · exact ⟨_, (Except.error.inj h).symm⟩
    · cases h

/-- The publication of one receipt is always constructed. -/
theorem make_single (c : SignedLedgerCheckpoint) (destination key : String) (at_ : Datetime)
    (receipt : CheckpointObjectReceipt) :
    ∃ p, CheckpointPublication.make c destination key at_ [receipt] 1 [] = .ok p ∧
      p.copies = [receipt] := by
  obtain ⟨p, hp, -, -, -, -, hcopies, -⟩ := @CheckpointPublication.make_ok c destination key at_
    [receipt] 1 [] (by decide) (.inl (le_refl _)) (by simp [destinationIds]) (by simp) (by simp)
  exact ⟨p, hp, hcopies⟩

/-- When `publish` gets as far as the put. -/
theorem sinkPrepare_ok : sink.prepare P c a = .ok key ↔
    a.now < c.payload.retentionUntil.instant ∧
      (∃ configuration, a.configuration = .ok configuration ∧ configuration.enabled = true) ∧
      sink.key c = .ok key ∧ c.printable = true := by
  unfold S3CheckpointSink.prepare
  constructor
  · intro h
    split at h
    · cases h
    rename_i hlate
    split at h
    · cases h
    rename_i configuration hconfiguration
    split at h
    · cases h
    rename_i henabled
    obtain ⟨key', hkey, h⟩ := Raising.bind_ok h
    obtain ⟨text, htext, h⟩ := Raising.bind_ok h
    obtain rfl := Except.ok.inj h
    rw [Raising.mapError_ok, canonicalJsonText_dump] at htext
    refine ⟨not_le.mp hlate, ⟨configuration, hconfiguration, not_not.mp henabled⟩,
      Raising.mapError_ok.mp hkey, ?_⟩
    split at htext
    · rename_i hprintable
      exact hprintable
    · cases htext
  · rintro ⟨hnow, ⟨configuration, hconfiguration, henabled⟩, hkey, hprintable⟩
    rw [if_neg (not_le.mpr hnow), hconfiguration]
    simp only [henabled, not_true_eq_false, if_false, hkey, canonicalJsonText_dump, hprintable,
      if_true]
    rfl

/-- A printable checkpoint is refused only with a `CheckpointPublicationError`. -/
theorem sinkPrepare_error {e : SinkError} (hprintable : c.printable = true)
    (h : sink.prepare P c a = .error e) : ∃ message, e = .publication message := by
  obtain ⟨relativeKey, hkey⟩ := checkpointObjectKey_of_printable hprintable
  unfold S3CheckpointSink.prepare at h
  split at h
  · exact ⟨_, (Except.error.inj h).symm⟩
  split at h
  · exact ⟨_, (Except.error.inj h).symm⟩
  split at h
  · exact ⟨_, (Except.error.inj h).symm⟩
  · simp only [S3CheckpointSink.key, hkey, canonicalJsonText_dump, hprintable, if_true] at h
    cases h

theorem finish_ok {answer : Except ClientError Unit} {p : CheckpointPublication}
    (h : sink.finish P c key a answer = .ok p) :
    ∃ receipt, p.copies = [receipt] ∧ sink.verifyCopy P c key a = .ok receipt := by
  unfold S3CheckpointSink.finish at h
  obtain ⟨_, -, h⟩ := Raising.bind_ok h
  obtain ⟨receipt, hverify, h⟩ := Raising.bind_ok h
  obtain ⟨p', hmake, hcopies⟩ := make_single c receipt.destination key receipt.verifiedAt receipt
  rw [hmake] at h
  obtain rfl := Except.ok.inj h
  exact ⟨receipt, hcopies, hverify⟩

theorem finish_error {answer : Except ClientError Unit} {e : SinkError}
    (h : sink.finish P c key a answer = .error e) : ∃ message, e = .publication message := by
  unfold S3CheckpointSink.finish at h
  rcases Raising.bind_error h with hanswer | ⟨_, -, h⟩
  · unfold acceptAnswer at hanswer
    split at hanswer
    · cases hanswer
    · split at hanswer
      · cases hanswer
      · exact ⟨_, (Except.error.inj hanswer).symm⟩
  · rcases Raising.bind_error h with hverify | ⟨receipt, -, h⟩
    · exact verifyCopy_error hverify
    · obtain ⟨p, hmake, -⟩ := make_single c receipt.destination key receipt.verifiedAt receipt
      rw [hmake] at h
      cases h

/-- A put that was accepted or found its key bound, and a verified copy, make a publication. -/
theorem finish_of_verified {answer : Except ClientError Unit} {receipt : CheckpointObjectReceipt}
    (hanswer : ∀ e, answer = .error e → isPreconditionFailed (awsErrorCode e) = true)
    (hverify : sink.verifyCopy P c key a = .ok receipt) :
    ∃ p, sink.finish P c key a answer = .ok p ∧ p.copies = [receipt] := by
  obtain ⟨p, hmake, hcopies⟩ := make_single c receipt.destination key receipt.verifiedAt receipt
  refine ⟨p, ?_, hcopies⟩
  have haccept : acceptAnswer answer = .ok () := by
    cases answer with
    | ok => rfl
    | error e => simp [acceptAnswer, hanswer e rfl]
  unfold S3CheckpointSink.finish
  rw [haccept, hverify]
  exact hmake

theorem sinkPublish_eq (h : sink.prepare P c a = .ok key) :
    sink.publish P c a store =
      (sink.finish P c key a (sink.put P c key a store).1, (sink.put P c key a store).2) := by
  unfold S3CheckpointSink.publish
  rw [h]

theorem sinkPublish_refused {e : SinkError} (h : sink.prepare P c a = .error e) :
    sink.publish P c a store = (.error e, store) := by
  unfold S3CheckpointSink.publish
  rw [h]

/-- A publication of one sink carries one receipt, for what was read back. -/
theorem sinkPublish_ok {p : CheckpointPublication} (h : (sink.publish P c a store).1 = .ok p) :
    ∃ receipt, p.copies = [receipt] ∧ receipt.destinationId = sink.destinationId ∧
      receipt.bodySha256 = c.bodySha256 P ∧ sink.key c = .ok receipt.objectKey ∧
      ReadBack P c a receipt := by
  cases hprepare : sink.prepare P c a with
  | error e =>
    rw [sinkPublish_refused hprepare] at h
    cases h
  | ok key =>
    rw [sinkPublish_eq hprepare] at h
    obtain ⟨receipt, hcopies, hverify⟩ := finish_ok h
    obtain ⟨hid, hsha, rfl, hread⟩ := verifyCopy_ok hverify
    exact ⟨receipt, hcopies, hid, hsha, (sinkPrepare_ok.mp hprepare).2.2.1, hread⟩

/-- Otherwise it raises a `CheckpointPublicationError`. -/
theorem sinkPublish_error {e : SinkError} (hprintable : c.printable = true)
    (h : (sink.publish P c a store).1 = .error e) : ∃ message, e = .publication message := by
  cases hprepare : sink.prepare P c a with
  | error e' =>
    rw [sinkPublish_refused hprepare] at h
    obtain rfl := Except.error.inj h
    exact sinkPrepare_error hprintable hprepare
  | ok key =>
    rw [sinkPublish_eq hprepare] at h
    exact finish_error h

/-! ## What a publication leaves in the store -/

/-- The object is the checkpoint, retained for long enough. -/
structure IsCopy (P : Platform) (c : SignedLedgerCheckpoint) (o : S3Object) : Prop where
  body : o.body = c.canonicalBytes P
  metadata : o.metadata.lookup "checkpoint-sha256" = some (c.bodySha256 P).val
  lockMode : o.lockMode = some "COMPLIANCE"
  retained : ∃ d, o.retainUntil = some d ∧ c.payload.retentionUntil.instant ≤ d.instant

/-- Rounding a deadline up does not shorten it. -/
theorem le_retentionRequestDeadline {value d : Datetime}
    (h : retentionRequestDeadline value = some d) : value.instant ≤ d.instant := by
  obtain ⟨instant, offset⟩ := value
  unfold retentionRequestDeadline at h
  dsimp only at h
  split at h
  · obtain rfl := Option.some.inj h
    exact le_refl instant
  · split at h
    · obtain rfl := Option.some.inj h
      have hmod : (instant + offset) % 1000000 < 1000000 := Int.emod_lt_of_pos _ (by decide)
      have hle : ∀ m : ℤ, m < 1000000 → ∀ t : ℤ, t ≤ t - m + 1000000 := by omega
      exact hle _ hmod instant
    · cases h

theorem isCopy_request {deadline : Datetime}
    (h : retentionRequestDeadline c.payload.retentionUntil = some deadline) (etag : String)
    (versionId : Option String) :
    IsCopy P c ((checkpointRequest P c key deadline).object etag versionId) := by
  refine ⟨?_, ?_, ?_, deadline, ?_, le_retentionRequestDeadline h⟩
  · simp only [PutRequest.object, checkpointRequest]
  · simp [PutRequest.object, checkpointRequest]
  · simp only [PutRequest.object, checkpointRequest]
  · simp only [PutRequest.object, checkpointRequest]

/-- A publication leaves the store alone, or binds its key, if that is free, to a copy. -/
theorem sinkPublish_store (P : Platform) (sink : S3CheckpointSink) (c : SignedLedgerCheckpoint)
    (a : ClientAnswers) (store : ObjectStore) : (sink.publish P c a store).2 = store ∨
      ∃ key o, sink.key c = .ok key ∧ IsCopy P c o ∧
        (sink.publish P c a store).2 = create (sink.endpoint, sink.bucket, key) o store := by
  cases hprepare : sink.prepare P c a with
  | error e => exact .inl (by rw [sinkPublish_refused hprepare])
  | ok key =>
    rw [sinkPublish_eq hprepare]
    unfold S3CheckpointSink.put
    cases hdeadline : retentionRequestDeadline c.payload.retentionUntil with
    | none => exact .inl rfl
    | some deadline =>
      cases hstores : a.stores with
      | false => exact .inl rfl
      | true =>
        exact .inr ⟨key, _, (sinkPrepare_ok.mp hprepare).2.2.1,
          isCopy_request hdeadline a.etag a.versionId, rfl⟩

/-! ## When a publication must succeed -/

/-- The client of a bucket in order: Object Lock is enabled, the put is accepted exactly if the key
    was free, and what is read is what the key holds after it. -/
structure Faithful (P : Platform) (sink : S3CheckpointSink) (c : SignedLedgerCheckpoint)
    (key : String) (a : ClientAnswers) (store : ObjectStore) : Prop where
  configuration : ∃ configuration, a.configuration = .ok configuration ∧
    configuration.enabled = true
  free : store (sink.endpoint, sink.bucket, key) = none → a.stores = true ∧ a.put = .ok ()
  bound : ∀ o, store (sink.endpoint, sink.bucket, key) = some o →
    ∃ e, a.put = .error e ∧ isPreconditionFailed (awsErrorCode e) = true
  readBack : ∀ o, (sink.put P c key a store).2 (sink.endpoint, sink.bucket, key) = some o →
    a.head = .ok o.head ∧ ∃ stream, a.get = .ok (some stream) ∧ stream.closeError = none ∧
      ∀ n, stream.read n = .ok (some (o.body.take n))

/-- The bounds of the code: the numbers can be printed, the bytes fit the read-back buffer, the
    rounded deadline is a `datetime`. -/
structure WithinBounds (P : Platform) (c : SignedLedgerCheckpoint) : Prop where
  printable : c.printable = true
  length_le : (c.canonicalBytes P).length ≤ 1024 * 1024 + 1
  deadline : (retentionRequestDeadline c.payload.retentionUntil).isSome = true

/-- A copy that is read back whole is verified. -/
theorem verifyCopy_of_copy {o : S3Object} (hcopy : IsCopy P c o)
    (hlength : (c.canonicalBytes P).length ≤ 1024 * 1024 + 1) (hhead : a.head = .ok o.head)
    {stream : BodyStream} (hget : a.get = .ok (some stream)) (hclose : stream.closeError = none)
    (hread : ∀ n, stream.read n = .ok (some (o.body.take n))) :
    ∃ receipt, sink.verifyCopy P c key a = .ok receipt := by
  obtain ⟨d, hd, hle⟩ := hcopy.retained
  have hbody : stream.read (1024 * 1024 + 1) = .ok (some (c.canonicalBytes P)) := by
    rw [hread, hcopy.body, List.take_of_length_le hlength]
  have hcopied : readCopy a = .ok (o.head, some (c.canonicalBytes P)) :=
    readCopy_ok.mpr ⟨hhead, stream, hget, hclose, hbody⟩
  have hretained : sufficientRetention c.payload.retentionUntil o.head.retainUntil = some d :=
    sufficientRetention_some.mpr ⟨by simp [S3Object.head, hd], hle⟩
  have hmetadata : (o.head.metadata.bind fun m => m.lookup "checkpoint-sha256") =
      some (c.bodySha256 P).val := hcopy.metadata
  have hmode : o.head.objectLockMode = some "COMPLIANCE" := hcopy.lockMode
  refine ⟨sink.receipt P c key o.head d a.verifiedAt, ?_⟩
  unfold S3CheckpointSink.verifyCopy
  simp only [hcopied, bind, Except.bind]
  rw [if_neg (not_not.mpr rfl), if_neg (not_not.mpr hmetadata), if_neg (not_not.mpr hmode),
    hretained]

/-- A bucket in order whose key is free or holds a copy takes the checkpoint. -/
theorem sinkPublish_succeeds (hbounds : WithinBounds P c) (hkey : sink.key c = .ok key)
    (hnow : a.now < c.payload.retentionUntil.instant) (hfaithful : Faithful P sink c key a store)
    (hcell : ∀ o, store (sink.endpoint, sink.bucket, key) = some o → IsCopy P c o) :
    ∃ p, (sink.publish P c a store).1 = .ok p := by
  obtain ⟨deadline, hdeadline⟩ := Option.isSome_iff_exists.mp hbounds.deadline
  have hprepare : sink.prepare P c a = .ok key :=
    sinkPrepare_ok.mpr ⟨hnow, hfaithful.configuration, hkey, hbounds.printable⟩
  -- after the put the key holds a copy, and the answer is accepted
  have hput : (∃ o, (sink.put P c key a store).2 (sink.endpoint, sink.bucket, key) = some o ∧
      IsCopy P c o) ∧ ∀ e, (sink.put P c key a store).1 = .error e →
        isPreconditionFailed (awsErrorCode e) = true := by
    unfold S3CheckpointSink.put
    simp only [hdeadline]
    cases hheld : store (sink.endpoint, sink.bucket, key) with
    | none =>
      obtain ⟨hstores, hanswer⟩ := hfaithful.free hheld
      rw [hstores, hanswer]
      exact ⟨⟨_, create_self_of_none hheld _, isCopy_request hdeadline _ _⟩,
        fun e he => absurd he (by simp)⟩
    | some o =>
      obtain ⟨e, hanswer, hcode⟩ := hfaithful.bound o hheld
      refine ⟨⟨o, ?_, hcell o hheld⟩, fun e' he' => ?_⟩
      · split
        · rw [create_of_some hheld, hheld]
        · exact hheld
      · rw [hanswer] at he'
        obtain rfl := Except.error.inj he'
        exact hcode
  obtain ⟨⟨o, ho, hcopy⟩, hanswer⟩ := hput
  obtain ⟨hhead, stream, hget, hclose, hread⟩ := hfaithful.readBack o ho
  obtain ⟨receipt, hverify⟩ := @verifyCopy_of_copy P sink c key a o hcopy hbounds.length_le hhead
    stream hget hclose hread
  obtain ⟨p, hp, -⟩ := finish_of_verified hanswer hverify
  exact ⟨p, by rw [sinkPublish_eq hprepare, hp]⟩

end

end AEControl.Evidence
