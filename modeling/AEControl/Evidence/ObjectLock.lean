/-
  The S3 client protocol as `checkpoints.py` and `recovery.py` use it: exceptions and their codes,
  response dictionaries, and the objects of Object Lock buckets.

  S3 itself lies outside the program.  Of a bucket this is assumed: `put_object` with
  `IfNoneMatch="*"` binds a free key to exactly what was sent, or leaves the bucket alone; whether
  it reports success is another matter (`PutFault`).
-/
import AEControl.Lib.CreateOnly
import AEControl.Evidence.Publication

namespace AEControl.Evidence

open CreateOnly

/-! ## Exceptions of a client -/

/-- `response["Error"]`: missing, no dictionary, or a dictionary with or without a `Code`. -/
inductive ErrorDetail where
  | missing
  | notDict
  | dict (code : Option String)
  deriving DecidableEq

/-- An exception of a client, by its `response` attribute. -/
inductive ClientError where
  | noResponse
  | notDict
  | response (detail : ErrorDetail)
  deriving DecidableEq

/-- An exception with a `Code`. -/
def ClientError.ofCode (code : String) : ClientError := .response (.dict (some code))

/-- `_aws_error_code`. -/
def awsErrorCode : ClientError → String
  | .response (.dict (some code)) => code
  | _ => "unknown"

/-- `[A-Za-z0-9._-]{1,64}`. -/
def isErrorCode (s : String) : Bool :=
  1 ≤ s.toList.length && s.toList.length ≤ 64 &&
    s.toList.all fun c => c.isAlphanum || c = '.' || c = '_' || c = '-'

/-- `_s3_error_code`; `none` where `.get` raises an `AttributeError`. -/
def s3ErrorCode (error : ClientError) (default : String) : Option String :=
  let code := match error with
    | .noResponse | .response .missing | .response (.dict none) => some default
    | .response (.dict (some code)) => some code
    | .notDict | .response .notDict => none
  code.map fun code =>
    if isErrorCode code then code else if default = "" then "unknown" else default

/-- `code in {"PreconditionFailed", "412"}`. -/
def isPreconditionFailed (code : String) : Bool := code = "PreconditionFailed" || code = "412"

/-! ## Responses -/

/-- What `get_object_lock_configuration` returns: `ObjectLockConfiguration`, if it is there, and
    `ObjectLockEnabled` in it. -/
structure LockConfiguration where
  objectLockConfiguration : Option (Option String)
  deriving DecidableEq

/-- `configuration.get("ObjectLockConfiguration", {}).get("ObjectLockEnabled") == "Enabled"`. -/
def LockConfiguration.enabled (c : LockConfiguration) : Bool :=
  c.objectLockConfiguration = some (some "Enabled")

/-- What `head_object` returns, as far as it is read. -/
structure HeadResponse where
  /-- `Metadata`, where it is a dictionary. -/
  metadata : Option (List (String × String))
  objectLockMode : Option String
  /-- `ObjectLockRetainUntilDate`, where it is a `datetime`. -/
  retainUntil : Option PyDatetime
  etag : Option String
  versionId : Option String
  deriving DecidableEq

/-! ## Buckets -/

/-- An object. -/
structure S3Object where
  body : Bytes
  metadata : List (String × String)
  lockMode : Option String
  retainUntil : Option Datetime
  etag : String
  versionId : Option String
  deriving DecidableEq

/-- What `put_object` is asked for. -/
structure PutRequest where
  key : String
  body : Bytes
  metadata : List (String × String)
  lockMode : String
  retainUntil : Datetime
  deriving DecidableEq

/-- The object of an accepted request; the bucket chooses its entity tag and its version. -/
def PutRequest.object (r : PutRequest) (etag : String) (versionId : Option String) : S3Object :=
  ⟨r.body, r.metadata, some r.lockMode, some r.retainUntil, etag, versionId⟩

/-- `head_object` on an object. -/
def S3Object.head (o : S3Object) : HeadResponse :=
  ⟨some o.metadata, o.lockMode, o.retainUntil.map .aware, some o.etag, o.versionId⟩

/-- What the keys of a bucket hold. -/
abbrev Bucket := String → Option S3Object

/-- How a `put_object` ends, apart from what `If-None-Match` decides. -/
inductive PutFault where
  | none
  /-- The request is lost. -/
  | lost (error : ClientError)
  /-- The request takes effect, its answer is lost or is that of a repetition. -/
  | answerLost (error : ClientError)
  deriving DecidableEq

/-- The exception of a put on a key that is bound. -/
def PutFault.refusal : PutFault → ClientError
  | .none => .ofCode "PreconditionFailed"
  | .lost e | .answerLost e => e

/-- `put_object(…, IfNoneMatch="*")`. -/
def putObject (r : PutRequest) (etag : String) (versionId : Option String) (fault : PutFault)
    (bucket : Bucket) : Except ClientError Unit × Bucket :=
  match fault, bucket r.key with
  | .none, some _ => (.error PutFault.none.refusal, bucket)
  | .none, none => (.ok (), create r.key (r.object etag versionId) bucket)
  | .lost e, _ => (.error e, bucket)
  | .answerLost e, _ => (.error e, create r.key (r.object etag versionId) bucket)

theorem putObject_of_bound {r : PutRequest} {bucket : Bucket} {o : S3Object}
    (h : bucket r.key = some o) (etag : String) (versionId : Option String) (fault : PutFault) :
    putObject r etag versionId fault bucket = (.error fault.refusal, bucket) := by
  unfold putObject
  rw [h]
  cases fault with
  | none | lost e => rfl
  | answerLost e =>
    simp only [create_of_some h]
    rfl

theorem putObject_of_free {r : PutRequest} {bucket : Bucket} (h : bucket r.key = none)
    (etag : String) (versionId : Option String) :
    putObject r etag versionId .none bucket =
      (.ok (), create r.key (r.object etag versionId) bucket) := by
  simp only [putObject, h]

/-- A put binds the key to what was sent or changes nothing; when it reports success, it did the
    first. -/
theorem putObject_cases (r : PutRequest) (etag : String) (versionId : Option String)
    (fault : PutFault) (bucket : Bucket) :
    ((putObject r etag versionId fault bucket).2 = bucket ∧
        ∃ e, (putObject r etag versionId fault bucket).1 = .error e) ∨
      (bucket r.key = none ∧ (putObject r etag versionId fault bucket).2 =
        create r.key (r.object etag versionId) bucket) := by
  unfold putObject
  cases fault with
  | lost e => exact .inl ⟨rfl, e, rfl⟩
  | none =>
    cases hkey : bucket r.key with
    | some o => exact .inl ⟨rfl, _, rfl⟩
    | none => exact .inr ⟨rfl, rfl⟩
  | answerLost e =>
    cases hkey : bucket r.key with
    | some o => exact .inl ⟨create_of_some hkey _, e, rfl⟩
    | none => exact .inr ⟨rfl, rfl⟩

/-- A put changes no object that exists. -/
theorem putObject_preserves (r : PutRequest) (etag : String) (versionId : Option String)
    (fault : PutFault) (bucket : Bucket) :
    Preserves bucket (putObject r etag versionId fault bucket).2 := by
  rcases putObject_cases r etag versionId fault bucket with ⟨h, -⟩ | ⟨-, h⟩
  · rw [h]
    exact Preserves.refl bucket
  · rw [h]
    exact preserves_create _ _ bucket

end AEControl.Evidence
