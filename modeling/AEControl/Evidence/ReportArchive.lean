/-
  `recovery.py`: `S3ObjectLockRecoveryReportSink`, the archive of recovery drill reports.

  A receipt can come from a put that was accepted or from a key that was already bound; in the
  second case only the metadata of the object is looked at, and the receipt promises the deadline
  of the call.

  Structure of the proof:
  1. `publish_eq` says where a receipt comes from: the request, then the put, then the head of the
     object, each of which may raise;
  2. nothing is ever overwritten (`reportPublish_preserves`), and on a free key a receipt is true
     (`publish_free`);
  3. **the crux**, `truthful_iff`: on a bound key a receipt is true exactly if the object that was
     there kept the promise already (`ExistingHeld`);
  4. `reportReceipts_iff` carries that over every history of calls, and of writes by others, with
     the bucket as each call finds it.
-/
import AEControl.Evidence.ObjectLock

namespace AEControl.Evidence

open CreateOnly Runs

/-! ## Reports -/

/-- A letter or digit of a drill identifier. -/
def isDrillEnd (c : Char) : Bool := c.isDigit || c.isLower

/-- `DRILL_ID_PATTERN`. -/
def isDrillId (s : String) : Bool :=
  match s.toList with
  | [] => false
  | [c] => isDrillEnd c
  | c :: d :: cs => isDrillEnd c && cs.length ≤ 61 &&
      (d :: cs).dropLast.all (fun x => isDrillEnd x || x = '-') &&
      isDrillEnd ((d :: cs).getLast (List.cons_ne_nil d cs))

/-- `RecoveryDrillReport`, its checkpoint results and failures as they are dumped. -/
structure RecoveryDrillReport where
  drillId : { s : String // isDrillId s = true }
  startedAt : PyDatetime
  completedAt : PyDatetime
  database : String
  schemaName : String
  expectedSchemaVersion : ℕ
  observedSchemaVersion : Option ℕ
  transactionReadOnly : Bool
  recoveryInProgress : Bool
  checkpointsChecked : ℕ
  checkpointsValid : ℕ
  entriesChecked : ℕ
  success : Bool
  failureCount : ℕ
  failuresTruncated : Bool
  checkpointResults : List Json
  failures : List Json
  one_le : 1 ≤ expectedSchemaVersion

/-- What lies outside: SHA-256, pydantic's JSON form of a `datetime`, and
    `completed_at.astimezone(UTC).strftime("%Y/%m/%d")`, which reads a naive time in the local zone
    and raises at the ends of the calendar. -/
structure ReportPlatform extends Interpreter where
  sha256 : String → HexDigest
  datetimeText : PyDatetime → String
  completedDay : PyDatetime → Except EvidenceError String

/-- `report.model_dump(mode="json")`. -/
def RecoveryDrillReport.dump (P : ReportPlatform) (r : RecoveryDrillReport) : Json :=
  .obj [("drill_id", .str r.drillId.val),
    ("started_at", .str (P.datetimeText r.startedAt)),
    ("completed_at", .str (P.datetimeText r.completedAt)),
    ("database", .str r.database),
    ("schema_name", .str r.schemaName),
    ("expected_schema_version", .int r.expectedSchemaVersion),
    ("observed_schema_version", match r.observedSchemaVersion with
      | none => .null
      | some n => .int n),
    ("transaction_read_only", .bool r.transactionReadOnly),
    ("recovery_in_progress", .bool r.recoveryInProgress),
    ("checkpoints_checked", .int r.checkpointsChecked),
    ("checkpoints_valid", .int r.checkpointsValid),
    ("entries_checked", .int r.entriesChecked),
    ("success", .bool r.success),
    ("failure_count", .int r.failureCount),
    ("failures_truncated", .bool r.failuresTruncated),
    ("checkpoint_results", .arr r.checkpointResults),
    ("failures", .arr r.failures)]

/-- The text whose encoding is `canonical_bytes()`. -/
def RecoveryDrillReport.canonicalText (P : ReportPlatform) (r : RecoveryDrillReport) : String :=
  (r.dump P).canonicalText

/-- `canonical_bytes()`, of a report that can be dumped. -/
def RecoveryDrillReport.canonicalBytes (P : ReportPlatform) (r : RecoveryDrillReport) : Bytes :=
  utf8 (r.canonicalText P)

/-- `hashlib.sha256(body).hexdigest()`. -/
def RecoveryDrillReport.digest (P : ReportPlatform) (r : RecoveryDrillReport) : HexDigest :=
  P.sha256 (r.canonicalText P)

/-! ## The sink -/

/-- `S3ObjectLockRecoveryReportSink`, its bucket's name and its normalized prefix. -/
structure RecoveryReportSink where
  bucket : String
  reportPrefix : String

/-- `RecoveryReportPublication`. -/
structure RecoveryReportPublication where
  drillId : String
  destination : String
  objectKey : String
  reportSha256 : HexDigest
  publishedAt : Timestamp
  retentionUntil : Timestamp
  deriving DecidableEq

/-- What `publish` raises. -/
inductive ReportError where
  /-- `RecoveryReportPublicationError`. -/
  | publication (message : String)
  /-- `_s3_error_code` on an exception whose `response` is no dictionary. -/
  | attributeError
  | evidence (error : EvidenceError)
  deriving DecidableEq

/-- The microseconds of `timedelta(days=…)`. -/
def dayMicroseconds : ℤ := 86400000000

/-- A call of `publish` for a report, with all it meets: the clock, the answers of the bucket and
    the faults of its requests. -/
structure ReportCall where
  retentionDays : ℤ
  configuration : Except ClientError LockConfiguration
  /-- The clock at `datetime.now(UTC) + timedelta(days=retention_days)`. -/
  now : Timestamp
  put : PutFault
  etag : String
  versionId : Option String
  /-- What `head_object` raises, if it does. -/
  headError : Option ClientError
  publishedAt : Timestamp

/-- `retention_until`. -/
def ReportCall.deadline (call : ReportCall) : Timestamp :=
  call.now + call.retentionDays * dayMicroseconds

/-- `raise RecoveryReportPublicationError(f"{message}: {code}")`. -/
def raiseCoded (message : String) (code : Option String) : ReportError :=
  match code with
  | none => .attributeError
  | some code => .publication (message ++ ": " ++ code)

/-- `head_object` on a key. -/
def headObject (headError : Option ClientError) (bucket : Bucket) (key : String) :
    Except ClientError HeadResponse :=
  match headError, bucket key with
  | some e, _ => .error e
  | none, none => .error (.ofCode "404")
  | none, some o => .ok o.head

/-- The object key: `f"{self.prefix}/{day}/{report.drill_id}.json"`. -/
def RecoveryReportSink.key (P : ReportPlatform) (sink : RecoveryReportSink)
    (report : RecoveryDrillReport) : Except EvidenceError String := do
  let day ← P.completedDay report.completedAt
  .ok (sink.reportPrefix ++ "/" ++ day ++ "/" ++ report.drillId.val ++ ".json")

/-- The request of `publish`. -/
def reportRequest (P : ReportPlatform) (report : RecoveryDrillReport) (key : String)
    (deadline : Timestamp) : PutRequest where
  key := key
  body := report.canonicalBytes P
  metadata := [("recovery-report-sha256", (report.digest P).val), ("drill-id", report.drillId.val)]
  lockMode := "COMPLIANCE"
  retainUntil := .utc deadline

@[simp] theorem reportRequest_key (P : ReportPlatform) (report : RecoveryDrillReport) (key : String)
    (deadline : Timestamp) : (reportRequest P report key deadline).key = key := rfl

/-- `publish`, up to the `put_object`: the arguments and the bucket's configuration are checked, the
    request is made up. -/
def RecoveryReportSink.prepare (P : ReportPlatform) (sink : RecoveryReportSink)
    (report : RecoveryDrillReport) (call : ReportCall) : Except ReportError PutRequest :=
  if ¬ (1 ≤ call.retentionDays ∧ call.retentionDays ≤ 3650) then
    .error (.evidence (.valueError "recovery report retention must be between 1 and 3650 days"))
  else
    match call.configuration with
    | .error e =>
      .error (raiseCoded "could not verify S3 Object Lock configuration" (s3ErrorCode e "unknown"))
    | .ok configuration =>
      if ¬ configuration.enabled then
        .error (.publication "S3 bucket does not have Object Lock enabled")
      else do
        let key ← (sink.key P report).mapError .evidence
        let _ ← (canonicalJsonText P.toInterpreter (report.dump P)).mapError .evidence
        if representable call.deadline then .ok (reportRequest P report key call.deadline)
        else .error (.evidence .overflowError)

/-- The `except` block of the `put_object`: `.ok` where the key holds the report already. -/
def checkExisting (P : ReportPlatform) (report : RecoveryDrillReport) (call : ReportCall)
    (key : String) (bucket : Bucket) (error : ClientError) : Except ReportError Unit :=
  match s3ErrorCode error "" with
  | none => .error .attributeError
  | some code =>
    if ¬ isPreconditionFailed code then
      .error (.publication ("S3 recovery report publication failed: " ++ code))
    else
      match headObject call.headError bucket key with
      | .error e =>
        .error (raiseCoded "could not verify existing S3 recovery report" (s3ErrorCode e "unknown"))
      | .ok existing =>
        let metadata := existing.metadata.getD []
        if metadata.lookup "recovery-report-sha256" ≠ some (report.digest P).val then
          .error (.publication "S3 recovery report key already contains different bytes")
        else .ok ()

/-- What the `try` statement around the `put_object` makes of its answer. -/
def settle (P : ReportPlatform) (report : RecoveryDrillReport) (call : ReportCall) (key : String)
    (answer : Except ClientError Unit × Bucket) : Except ReportError Unit :=
  match answer.1 with
  | .ok () => .ok ()
  | .error e => checkExisting P report call key answer.2 e

/-- The receipt of a call. -/
def RecoveryReportSink.receipt (P : ReportPlatform) (sink : RecoveryReportSink)
    (report : RecoveryDrillReport) (call : ReportCall) (key : String) :
    RecoveryReportPublication where
  drillId := report.drillId.val
  destination := "s3://" ++ sink.bucket ++ "/" ++ key
  objectKey := key
  reportSha256 := report.digest P
  publishedAt := call.publishedAt
  retentionUntil := call.deadline

/-- `S3ObjectLockRecoveryReportSink.publish`. -/
def RecoveryReportSink.publish (P : ReportPlatform) (sink : RecoveryReportSink)
    (report : RecoveryDrillReport) (call : ReportCall) (bucket : Bucket) :
    Except ReportError RecoveryReportPublication × Bucket :=
  match sink.prepare P report call with
  | .error e => (.error e, bucket)
  | .ok request =>
    let answer := putObject request call.etag call.versionId call.put bucket
    ((settle P report call request.key answer).map fun _ =>
      sink.receipt P report call request.key, answer.2)

/-! ## Where a receipt comes from -/

section

variable {P : ReportPlatform} {sink : RecoveryReportSink} {report : RecoveryDrillReport}
  {call : ReportCall} {bucket : Bucket} {request : PutRequest}

/-- The object is the report, under COMPLIANCE retention until the deadline at least. -/
structure HeldUntil (P : ReportPlatform) (report : RecoveryDrillReport) (deadline : Timestamp)
    (o : S3Object) : Prop where
  body : o.body = report.canonicalBytes P
  lockMode : o.lockMode = some "COMPLIANCE"
  retained : ∃ d, o.retainUntil = some d ∧ deadline ≤ d.instant

/-- The metadata of the object names the digest of the report. -/
def NamesDigest (P : ReportPlatform) (report : RecoveryDrillReport) (o : S3Object) : Prop :=
  o.metadata.lookup "recovery-report-sha256" = some (report.digest P).val

/-- The bucket answers that a bound key is bound, and shows the object. -/
def ReportCall.ShowsExisting (call : ReportCall) : Prop :=
  (s3ErrorCode call.put.refusal "").any isPreconditionFailed = true ∧ call.headError = none

theorem headObject_ok {e : Option ClientError} {key : String} {existing : HeadResponse} :
    headObject e bucket key = .ok existing ↔
      e = none ∧ ∃ o, bucket key = some o ∧ o.head = existing := by
  unfold headObject
  cases e with
  | some e => simp
  | none => cases bucket key <;> simp

theorem checkExisting_ok {key : String} {e : ClientError} :
    checkExisting P report call key bucket e = .ok () ↔
      (s3ErrorCode e "").any isPreconditionFailed = true ∧ call.headError = none ∧
        ∃ o, bucket key = some o ∧ NamesDigest P report o := by
  unfold checkExisting
  cases s3ErrorCode e "" with
  | none => simp
  | some code =>
    -- the object is asked for only behind a precondition that failed
    by_cases hcode : isPreconditionFailed code = true
    · cases hhead : headObject call.headError bucket key with
      | error e' =>
        have hnone : ¬ (call.headError = none ∧ ∃ o, bucket key = some o ∧
            NamesDigest P report o) := by
          rintro ⟨hhe, o, ho, -⟩
          rw [headObject_ok.mpr ⟨hhe, o, ho, rfl⟩] at hhead
          cases hhead
        simpa [hcode] using hnone
      | ok existing =>
        obtain ⟨hhe, o, ho, rfl⟩ := headObject_ok.mp hhead
        by_cases hnames : NamesDigest P report o
        · have hlookup := hnames
          unfold NamesDigest at hlookup
          simp [hcode, hhe, ho, S3Object.head, hlookup, hnames]
        · have hlookup := hnames
          unfold NamesDigest at hlookup
          simp [hcode, ho, S3Object.head, hlookup, hnames]
    · simp [hcode]

/-- A prepared request is for the report, under the deadline of the call. -/
theorem prepare_ok_request (h : sink.prepare P report call = .ok request) :
    ∃ key, request = reportRequest P report key call.deadline := by
  unfold RecoveryReportSink.prepare at h
  split at h
  · cases h
  · split at h
    · cases h
    · split at h
      · cases h
      · obtain ⟨key, -, h⟩ := Raising.bind_ok h
        obtain ⟨text, -, h⟩ := Raising.bind_ok h
        split at h
        · exact ⟨key, (Except.ok.inj h).symm⟩
        · cases h

/-- What is sent is what a receipt promises. -/
theorem heldUntil_request (h : sink.prepare P report call = .ok request) (etag : String)
    (versionId : Option String) :
    HeldUntil P report call.deadline (request.object etag versionId) := by
  obtain ⟨key, rfl⟩ := prepare_ok_request h
  generalize call.deadline = deadline
  refine ⟨?_, ?_, .utc deadline, ?_, le_refl deadline⟩
  · simp only [PutRequest.object, reportRequest]
  · simp only [PutRequest.object, reportRequest]
  · simp only [PutRequest.object, reportRequest]

/-- What is sent names the digest of the report. -/
theorem namesDigest_request (h : sink.prepare P report call = .ok request) (etag : String)
    (versionId : Option String) : NamesDigest P report (request.object etag versionId) := by
  obtain ⟨key, rfl⟩ := prepare_ok_request h
  simp [NamesDigest, PutRequest.object, reportRequest]

theorem publish_eq (h : sink.prepare P report call = .ok request) :
    sink.publish P report call bucket =
      ((settle P report call request.key
          (putObject request call.etag call.versionId call.put bucket)).map fun _ =>
        sink.receipt P report call request.key,
      (putObject request call.etag call.versionId call.put bucket).2) := by
  unfold RecoveryReportSink.publish
  rw [h]

/-- An undisturbed call binds a free key. -/
theorem publish_free (h : sink.prepare P report call = .ok request) (hput : call.put = .none)
    (hfree : bucket request.key = none) :
    (sink.publish P report call bucket).2 request.key =
      some (request.object call.etag call.versionId) := by
  rw [publish_eq h, hput, putObject_of_free hfree]
  exact create_self_of_none hfree _

/-- **Never overwrites.** -/
theorem reportPublish_preserves (P : ReportPlatform) (sink : RecoveryReportSink)
    (report : RecoveryDrillReport) (call : ReportCall) (bucket : Bucket) :
    Preserves bucket (sink.publish P report call bucket).2 := by
  cases h : sink.prepare P report call with
  | error e =>
    unfold RecoveryReportSink.publish
    rw [h]
    exact Preserves.refl bucket
  | ok request =>
    rw [publish_eq h]
    exact putObject_preserves _ _ _ _ bucket

/-! ## When receipts are true -/

/-- Every receipt of the call is true when it is returned. -/
def TruthfulCall (P : ReportPlatform) (sink : RecoveryReportSink) (report : RecoveryDrillReport)
    (call : ReportCall) (bucket : Bucket) : Prop :=
  ∀ receipt, (sink.publish P report call bucket).1 = .ok receipt →
    ∃ o, (sink.publish P report call bucket).2 receipt.objectKey = some o ∧
      HeldUntil P report receipt.retentionUntil o

/-- An object that the call meets under its key, is shown and takes for the report is the report,
    retained for as long as the call asks. -/
def ExistingHeld (P : ReportPlatform) (sink : RecoveryReportSink) (report : RecoveryDrillReport)
    (call : ReportCall) (bucket : Bucket) : Prop :=
  ∀ request o, sink.prepare P report call = .ok request → bucket request.key = some o →
    call.ShowsExisting → NamesDigest P report o → HeldUntil P report call.deadline o

/-- **A receipt is true exactly if the object it was issued for, when there was one, kept its
    promise already.** -/
theorem truthful_iff : TruthfulCall P sink report call bucket ↔
    ExistingHeld P sink report call bucket := by
  constructor
  · intro h request o hprepare ho hshows hnames
    have hsettle : settle P report call request.key
        (putObject request call.etag call.versionId call.put bucket) = .ok () := by
      rw [putObject_of_bound ho]
      exact checkExisting_ok.mpr ⟨hshows.1, hshows.2, o, ho, hnames⟩
    have hpublish := @publish_eq P sink report call bucket request hprepare
    rw [hsettle, putObject_of_bound ho] at hpublish
    unfold TruthfulCall at h
    rw [hpublish] at h
    obtain ⟨o', ho', hheld⟩ := h _ rfl
    obtain rfl : o = o' := Option.some.inj (ho.symm.trans ho')
    exact hheld
  · intro h receipt hok
    cases hprepare : sink.prepare P report call with
    | error e =>
      unfold RecoveryReportSink.publish at hok
      rw [hprepare] at hok
      cases hok
    | ok request =>
      rw [publish_eq hprepare] at hok ⊢
      obtain ⟨_, hsettle, rfl⟩ := Raising.map_ok hok
      cases ho : bucket request.key with
      | some o =>
        -- the key was bound: the receipt rests on the object's metadata
        rw [putObject_of_bound ho] at hsettle ⊢
        obtain ⟨hcode, hhead, o', ho', hnames⟩ := checkExisting_ok.mp hsettle
        obtain rfl : o = o' := Option.some.inj (ho.symm.trans ho')
        exact ⟨o, ho, h request o hprepare ho ⟨hcode, hhead⟩ hnames⟩
      | none =>
        rcases putObject_cases request call.etag call.versionId call.put bucket with
          ⟨hsame, e, he⟩ | ⟨-, hcreated⟩
        · -- the put was lost: nothing can be shown under the key
          unfold settle at hsettle
          rw [he, hsame] at hsettle
          obtain ⟨-, -, o, ho', -⟩ := checkExisting_ok.mp hsettle
          rw [ho] at ho'
          cases ho'
        · refine ⟨_, ?_, heldUntil_request hprepare call.etag call.versionId⟩
          rw [hcreated]
          exact create_self_of_none ho _

end

/-! ## Histories -/

/-- What happens to the bucket: a call of `publish` for the report, or something else, of which
    nothing is known. -/
inductive ReportEvent where
  | publish (call : ReportCall)
  | other (write : Bucket → Bucket)

/-- The bucket after an event. -/
def RecoveryReportSink.step (P : ReportPlatform) (sink : RecoveryReportSink)
    (report : RecoveryDrillReport) (bucket : Bucket) : ReportEvent → Bucket
  | .publish call => (sink.publish P report call bucket).2
  | .other write => write bucket

/-- The contract of the archive at one event: receipts are true, and nothing is overwritten. -/
def ArchivesTruly (P : ReportPlatform) (sink : RecoveryReportSink) (report : RecoveryDrillReport)
    (bucket : Bucket) : ReportEvent → Prop
  | .publish call => TruthfulCall P sink report call bucket ∧
      Preserves bucket (sink.publish P report call bucket).2
  | .other _ => True

/-- No call of the history meets an object that it would wrongly vouch for. -/
def VouchesRightly (P : ReportPlatform) (sink : RecoveryReportSink) (report : RecoveryDrillReport)
    (bucket : Bucket) : ReportEvent → Prop
  | .publish call => ExistingHeld P sink report call bucket
  | .other _ => True

/-- **When recovery report receipts are true**, over any history of the bucket: every receipt is
    true and nothing is ever overwritten exactly if each call that is shown an object it takes for
    the report finds it retained for as long as the call itself asks. -/
theorem reportReceipts_iff (P : ReportPlatform) (sink : RecoveryReportSink)
    (report : RecoveryDrillReport) (bucket : Bucket) (history : List ReportEvent) :
    Along (sink.step P report) (ArchivesTruly P sink report) bucket history ↔
      Along (sink.step P report) (VouchesRightly P sink report) bucket history := by
  refine along_congr (sink.step P report) (fun _ => True) (fun _ _ _ => trivial)
    (fun s event _ => ?_) trivial history
  cases event with
  | other write => exact Iff.rfl
  | publish call =>
    have hkept := reportPublish_preserves P sink report call s
    exact ⟨fun h => truthful_iff.mp h.1, fun h => ⟨truthful_iff.mpr h, hkept⟩⟩

/-! ## A retention that was only promised -/

namespace Sample

/-- SHA-256 of the drill report's canonical bytes. -/
def reportDigest : HexDigest :=
  ⟨"8f96ca8c36e5df5cd7183fccd3ac52aca60c9351fc23e3f35b997e83b956d49a", by decide +kernel⟩

/-- The platform, on the texts and times of one drill report. -/
def reportPlatform : ReportPlatform where
  recursionLimit := 900
  recursionLimit_ge := sample_recursionLimit
  sha256 _ := reportDigest
  datetimeText d :=
    if d = .aware (.utc 1767225600000000) then "2026-01-01T00:00:00Z" else "2026-01-01T00:02:00Z"
  completedDay _ := .ok "2026/01/01"

theorem one_le_schemaVersion : 1 ≤ 18 := by decide

theorem isDrillId_sample : isDrillId "drill-2026-01" = true := by decide

def report : RecoveryDrillReport :=
  ⟨⟨"drill-2026-01", isDrillId_sample⟩, .aware (.utc 1767225600000000),
    .aware (.utc 1767225720000000), "aecontrol", "public", 18, some 18, true, false, 1, 1, 1, true,
    0, false, [], [], one_le_schemaVersion⟩

def reportSink : RecoveryReportSink := ⟨"evidence", "aecontrol/recovery-reports"⟩

/-- An undisturbed call, two minutes after the drill. -/
def reportCall (retentionDays : ℤ) : ReportCall :=
  ⟨retentionDays, .ok ⟨some (some "Enabled")⟩, 1767225840000000, .none, "etag", none, none,
    1767225841000000⟩

theorem canonicalizes_report :
    reportPlatform.canonicalizes (report.dump reportPlatform) = true := by
  have hprintable : Json.intPrintable 18 = true := by decide +kernel
  have hheight : (report.dump reportPlatform).height = 2 := rfl
  refine Interpreter.canonicalizes_of_height (by rw [hheight]; decide) ?_
  simp [RecoveryDrillReport.dump, report, Json.encodable, Json.encodableFields, Json.encodableItems,
    Json.intPrintable_of_natAbs_lt, hprintable]

def reportKey : String := "aecontrol/recovery-reports/2026/01/01/drill-2026-01.json"

theorem key_report : reportSink.key reportPlatform report = .ok reportKey := by decide

/-- A call for some days within the limits makes its request. -/
theorem prepare_report {days : ℤ} (hdays : 1 ≤ days ∧ days ≤ 3650)
    (hdeadline : representable (reportCall days).deadline = true) :
    reportSink.prepare reportPlatform report (reportCall days) =
      .ok (reportRequest reportPlatform report reportKey (reportCall days).deadline) := by
  have hrange : ¬¬ (1 ≤ (reportCall days).retentionDays ∧
      (reportCall days).retentionDays ≤ 3650) := not_not.mpr hdays
  unfold RecoveryReportSink.prepare
  rw [if_neg hrange, key_report]
  simp only [canonicalJsonText_of canonicalizes_report, hdeadline]
  rfl

end Sample

/-- The same report, first for a day, then for ten years: the second receipt promises ten years of
    an object that is kept for a day. -/
theorem reportReceipts_fail :
    ¬ Along (Sample.reportSink.step Sample.reportPlatform Sample.report)
      (ArchivesTruly Sample.reportPlatform Sample.reportSink Sample.report) (fun _ => none)
      [.publish (Sample.reportCall 1), .publish (Sample.reportCall 3650)] := by
  rintro ⟨-, ⟨hsecond, -⟩, -⟩
  have hfirst := @Sample.prepare_report 1 (by decide) (by decide)
  have hagain := @Sample.prepare_report 3650 (by decide) (by decide)
  -- what the first call put under the key
  have hbound := @publish_free _ _ _ _ (fun _ => none) _ hfirst rfl rfl
  have hexisting := truthful_iff.mp hsecond
  simp only [RecoveryReportSink.step] at hexisting
  rw [reportRequest_key] at hbound
  have hheld := hexisting _ _ hagain (by rw [reportRequest_key]; exact hbound) ⟨by decide, rfl⟩
    (namesDigest_request hfirst _ _)
  obtain ⟨d, hd, hlate⟩ := hheld.retained
  obtain rfl : Datetime.utc (Sample.reportCall 1).deadline = d := Option.some.inj hd
  exact absurd hlate (by decide)

end AEControl.Evidence
