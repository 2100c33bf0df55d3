/-
  `save_run` with every column of `evaluation_runs`, statement by statement.

  The upsert overwrites the row before `_append_ledger_values` compares envelopes, so a refused save
  has to be undone: `saveRun` is a session on a working copy (`Lib/Session`), and it refines the
  save of `Evidence/Store` on the columns the ledger knows (`toDatabase_step`).

  1. **Columns** — the columns are functions of the canonical payload text (`runColumns_congr`), so
     a row whose digest and envelope are in the ledger already is written as it stood.

  2. **Runs of writes** — every row is the row of some run and the ledger is the one of
     `Evidence/Ledger` (`StoreInvariant`), in every store a history of writes leads to.

  3. **The contract** — what a save does is told by what is recorded under its `run_id`
     (`saveRun_contract`).  A new run returns if PostgreSQL can hold it and the signature is made
     by a key of the keyring itself (`Storable`, `SignsLocally`), or whenever the remote signer
     answers; what has been saved is saved again without any effect.
-/
import Mathlib.Algebra.Order.Field.Rat
import AEControl.Lib.Session
import AEControl.Evaluation.Engine
import AEControl.Evidence.Ledger

namespace AEControl.Evidence.Saving

open Table

/-! ## Runs -/

/-- `EvaluationResult`. -/
structure EvaluationResult where
  name : String
  passed : Bool
  score : Json.PyFloat
  explanation : String
  metricValue : Option Json.PyFloat

/-- `CaseResult`, with its case and its output as they are dumped. -/
structure CaseResult where
  case : Json
  agentVersion : String
  status : Evaluation.ExecutionStatus
  startedAt : PyDatetime
  completedAt : PyDatetime
  output : Json
  evaluatorResults : List EvaluationResult

/-- `CaseResult.hidden_success`. -/
def CaseResult.hiddenSuccess (r : CaseResult) : Bool :=
  r.evaluatorResults.any fun result => result.name = "hidden_test_success" && result.passed

/-- `EvaluationRun`. -/
structure EvaluationRun where
  runId : UUID
  suiteName : String
  datasetName : String
  datasetVersion : String
  agentVersion : String
  startedAt : PyDatetime
  completedAt : PyDatetime
  caseResults : List CaseResult

/-- The platform, with pydantic's JSON form of a `datetime` and the instant a `TIMESTAMPTZ` column
    holds for it: a naive one is read in the time zone of the session. -/
structure RunPlatform extends Platform where
  datetimeText : PyDatetime → String
  timestamptz : PyDatetime → Timestamp

variable (P : RunPlatform)

def EvaluationResult.items (r : EvaluationResult) : List (String × Json) :=
  [("name", .str r.name),
    ("passed", .bool r.passed),
    ("score", .float r.score),
    ("explanation", .str r.explanation),
    ("metric_value", match r.metricValue with
      | none => .null
      | some x => .float x)]

def CaseResult.items (r : CaseResult) : List (String × Json) :=
  [("case", r.case),
    ("agent_version", .str r.agentVersion),
    ("status", .str r.status.value),
    ("started_at", .str (P.datetimeText r.startedAt)),
    ("completed_at", .str (P.datetimeText r.completedAt)),
    ("output", r.output),
    ("evaluator_results", .arr (r.evaluatorResults.map fun e => .obj e.items))]

def EvaluationRun.items (run : EvaluationRun) : List (String × Json) :=
  [("run_id", .str run.runId.str),
    ("suite_name", .str run.suiteName),
    ("dataset_name", .str run.datasetName),
    ("dataset_version", .str run.datasetVersion),
    ("agent_version", .str run.agentVersion),
    ("started_at", .str (P.datetimeText run.startedAt)),
    ("completed_at", .str (P.datetimeText run.completedAt)),
    ("case_results", .arr (run.caseResults.map fun r => .obj (r.items P)))]

/-- `run.model_dump(mode="json")`. -/
def EvaluationRun.dump (run : EvaluationRun) : Json := .obj (run.items P)

/-- `case_count`. -/
def EvaluationRun.caseCount (run : EvaluationRun) : ℕ := run.caseResults.length

/-- `hidden_passes`. -/
def EvaluationRun.hiddenPasses (run : EvaluationRun) : ℕ :=
  run.caseResults.countP CaseResult.hiddenSuccess

/-- `hidden_pass_rate`. -/
def EvaluationRun.hiddenPassRate (run : EvaluationRun) : ℚ :=
  if run.caseCount = 0 then 0 else run.hiddenPasses / run.caseCount

/-! ## The store -/

/-- A row of `evaluation_runs`, with the signature column of earlier releases. -/
structure RunRow where
  tenantId : TenantId
  runId : UUID
  suiteName : String
  datasetName : String
  datasetVersion : String
  agentVersion : String
  startedAt : Timestamp
  completedAt : Timestamp
  caseCount : ℕ
  hiddenPassRate : ℚ
  payload : Json
  payloadSha256 : String
  signatureHmacSha256 : Option String
  envelope : Envelope

/-- The row without the legacy signature. -/
def RunRow.clearLegacy (row : RunRow) : RunRow := { row with signatureHmacSha256 := none }

/-- The columns the ledger and the audit know. -/
def RunRow.toArtifactRow (row : RunRow) : ArtifactRow :=
  ⟨row.tenantId, row.runId, row.payload, row.payloadSha256, row.envelope⟩

/-- The evidence tables, runs with all their columns. -/
structure RunStore where
  runs : List RunRow
  comparisons : List ArtifactRow
  guardrailEvidence : List ArtifactRow
  ledger : List LedgerRow
  checkpoints : List CheckpointRow

namespace RunStore

def empty : RunStore := ⟨[], [], [], [], []⟩

/-- The database of `Evidence/Store`. -/
def toDatabase (s : RunStore) : Database where
  artifacts
    | .run => s.runs.map RunRow.toArtifactRow
    | .comparison => s.comparisons
    | .guardrailEvidence => s.guardrailEvidence
  ledger := s.ledger
  checkpoints := s.checkpoints

/-- The store after a transaction that writes no run. -/
def withDatabase (s : RunStore) (db : Database) : RunStore where
  runs := s.runs
  comparisons := db.artifacts .comparison
  guardrailEvidence := db.artifacts .guardrailEvidence
  ledger := db.ledger
  checkpoints := db.checkpoints

end RunStore

/-! ## `save_run` -/

/-- What the INSERT can hold of a run: its texts, and its case count in an `INTEGER`. -/
def EvaluationRun.isStorable (run : EvaluationRun) : Bool :=
  isStorableText run.suiteName && isStorableText run.datasetName &&
    isStorableText run.datasetVersion && isStorableText run.agentVersion &&
    run.caseCount ≤ 2147483647

/-- Digest and envelope, computed before the store connects. -/
def signRun (keyring : Option (ArtifactKeyring P.toCrypto)) (run : EvaluationRun) :
    Except EvidenceError (HexDigest × Envelope) := do
  let digest ← artifactDigest P.toCrypto (run.dump P)
  let envelope ← signArtifact keyring .run run.runId digest
  .ok (digest, envelope)

/-- The row the INSERT stores; its `tenant_id` is the default of the column. -/
def runColumns (t : TenantId) (run : EvaluationRun) (digest : HexDigest) (envelope : Envelope) :
    Except EvidenceError RunRow := do
  let stored ← storeJson P.toPlatform (run.dump P)
  if run.isStorable then .ok {
    tenantId := t
    runId := run.runId
    suiteName := run.suiteName
    datasetName := run.datasetName
    datasetVersion := run.datasetVersion
    agentVersion := run.agentVersion
    startedAt := P.timestamptz run.startedAt
    completedAt := P.timestamptz run.completedAt
    caseCount := run.caseCount
    hiddenPassRate := run.hiddenPassRate
    payload := stored
    payloadSha256 := digest.val
    signatureHmacSha256 := none
    envelope := envelope }
  else .error .dataError

/-- `INSERT … ON CONFLICT(run_id) DO UPDATE`, which writes every column. -/
def upsertRun (row : RunRow) : EStateM EvidenceError RunStore Unit := fun s =>
  match Table.lookup RunRow.runId row.runId s.runs with
  | none => .ok () { s with runs := s.runs ++ [row] }
  | some old =>
    if old.tenantId = row.tenantId then
      .ok () { s with
        runs := Table.update RunRow.runId row.runId (fun _ => true) (fun _ => row) s.runs }
    else .error .insufficientPrivilege s

/-- `_append_artifact_ledger`. -/
def appendArtifactLedger (t : TenantId) (kind : ArtifactKind) (id : UUID) (digest : HexDigest)
    (envelope : Envelope) : EStateM EvidenceError RunStore Unit := fun s =>
  match appendLedgerValues P.toCrypto t kind id digest envelope s.toDatabase with
  | .ok ledger => .ok () { s with ledger := ledger }
  | .error e => .error e s

/-- The two statements of `save_run`. -/
def saveRunBlock (t : TenantId) (run : EvaluationRun) (digest : HexDigest) (envelope : Envelope) :
    EStateM EvidenceError RunStore Unit := do
  let row ← MonadExcept.ofExcept (runColumns P t run digest envelope)
  upsertRun row
  appendArtifactLedger P t .run run.runId digest envelope

/-- `save_run`. -/
def saveRun (keyring : Option (ArtifactKeyring P.toCrypto)) (t : TenantId) (run : EvaluationRun)
    (s : RunStore) : Except EvidenceError Unit × RunStore :=
  match signRun P keyring run with
  | .error e => (.error e, s)
  | .ok (digest, envelope) => Session.transaction (saveRunBlock P t run digest envelope) s

/-! ## Histories -/

/-- The writes of evidence, each with the store it runs in. -/
inductive Write (P : RunPlatform) where
  | saveRun (keyring : Option (ArtifactKeyring P.toCrypto)) (t : TenantId) (run : EvaluationRun)
  | saveComparison (keyring : Option (ArtifactKeyring P.toCrypto)) (t : TenantId)
      (comparisonId baselineRunId candidateRunId : UUID) (payload : Json)
  | saveGuardrailEvidence (keyring : Option (ArtifactKeyring P.toCrypto)) (t : TenantId)
      (evidenceId : UUID) (payload : Json)
  | createLedgerCheckpoint (keyring : Option (ArtifactKeyring P.toCrypto)) (t : TenantId)
      (retentionDays : ℤ) (lookupNow now : Timestamp) (checkpointId : UUID)

/-- The transaction of `Evidence/Store` a write is. -/
def Write.transaction {P : RunPlatform} : Write P → Transaction P.toPlatform
  | saveRun keyring t run => .saveRun keyring t run.runId (run.dump P)
  | saveComparison keyring t comparisonId baseline candidate payload =>
    .saveComparison keyring t comparisonId baseline candidate payload
  | saveGuardrailEvidence keyring t evidenceId payload =>
    .saveGuardrailEvidence keyring t evidenceId payload
  | createLedgerCheckpoint keyring t days lookupNow now id =>
    .createLedgerCheckpoint keyring t days lookupNow now id

/-- One write. -/
def step {P : RunPlatform} (s : RunStore) : Write P → RunStore
  | .saveRun keyring t run => (saveRun P keyring t run s).2
  | w => s.withDatabase (commit s.toDatabase w.transaction)

/-! ## The payload determines the columns -/

/-- The documented behaviour of JSONB: neither the order of keys nor the sign of a zero is kept. -/
def JsonbIsCanonical (P : Platform) : Prop :=
  ∀ j k, j.canonicalText = k.canonicalText → P.jsonb j = P.jsonb k

/-- The JSON form of a `datetime` names its instant. -/
def TextDeterminesInstant (P : RunPlatform) : Prop :=
  ∀ d d', P.datetimeText d = P.datetimeText d' → P.timestamptz d = P.timestamptz d'

variable {P}

/-- The same field of two objects with one canonical form. -/
theorem text_eq_of_canon {items items' : List (String × Json)}
    (hkeys : (items'.map Prod.fst).Nodup)
    (h : (Json.obj items).canon = (Json.obj items').canon) {k s s' : String}
    (hs : (k, Json.str s) ∈ items) (hs' : (k, Json.str s') ∈ items') : s = s' := by
  have := Json.canon_obj_field hkeys h hs hs'
  simpa only [Json.canon, Json.str.injEq] using this

/-- The items of the canonical form are those of the value, made canonical one by one. -/
theorem canonItems_eq_map (items : List Json) :
    Json.canonItems items = items.map Json.canon := by
  induction items with
  | nil => rfl
  | cons x xs ih => rw [Json.canonItems, ih, List.map_cons]

/-- What is read off the canonical forms of a list is the same for lists with one form. -/
theorem map_eq_of_canon_arr {α β : Type*} {dump : α → Json} {g : α → β}
    (hg : ∀ a b, (dump a).canon = (dump b).canon → g a = g b) :
    ∀ {as bs : List α}, (Json.arr (as.map dump)).canon = (Json.arr (bs.map dump)).canon →
      as.map g = bs.map g := by
  intro as bs h
  have hforms : as.map (fun a => (dump a).canon) = bs.map fun b => (dump b).canon := by
    simpa only [Json.canon, canonItems_eq_map, List.map_map, Json.arr.injEq,
      Function.comp_def] using h
  clear h
  induction as generalizing bs with
  | nil =>
    obtain rfl : bs = [] := List.map_eq_nil_iff.mp hforms.symm
    rfl
  | cons a as ih =>
    cases bs with
    | nil => cases hforms
    | cons b bs =>
      obtain ⟨hhead, htail⟩ := List.cons.inj hforms
      rw [List.map_cons, List.map_cons, hg a b hhead, ih htail]

/-- The dump of an evaluator's result has its name and its verdict. -/
theorem EvaluationResult.canon_inj {r r' : EvaluationResult}
    (h : (Json.obj r.items).canon = (Json.obj r'.items).canon) :
    (r.name, r.passed) = (r'.name, r'.passed) := by
  have hkeys : (r'.items.map Prod.fst).Nodup := by simp [items]
  have hname : r.name = r'.name :=
    text_eq_of_canon hkeys h (k := "name") (by simp [items]) (by simp [items])
  have hpassed := Json.canon_obj_field hkeys h (k := "passed") (v := .bool r.passed)
    (w := .bool r'.passed) (by simp [items]) (by simp [items])
  have hpassed : r.passed = r'.passed := by
    simpa only [Json.canon, Json.bool.injEq] using hpassed
  rw [hname, hpassed]

/-- The dump of a case result says whether its hidden tests passed. -/
theorem CaseResult.canon_hiddenSuccess {r r' : CaseResult}
    (h : (Json.obj (r.items P)).canon = (Json.obj (r'.items P)).canon) :
    r.hiddenSuccess = r'.hiddenSuccess := by
  have harr := Json.canon_obj_field (by simp [items]) h (k := "evaluator_results")
    (v := .arr (r.evaluatorResults.map fun e => .obj e.items))
    (w := .arr (r'.evaluatorResults.map fun e => .obj e.items)) (by simp [items])
    (by simp [items])
  have hnames := map_eq_of_canon_arr (g := fun e : EvaluationResult => (e.name, e.passed))
    (fun _ _ => EvaluationResult.canon_inj) harr
  -- the test looks at name and verdict only
  have hany : ∀ rs : List EvaluationResult,
      (rs.any fun e => e.name = "hidden_test_success" && e.passed) =
        (rs.map fun e => (e.name, e.passed)).any
          fun e => e.1 = "hidden_test_success" && e.2 := by
    intro rs
    rw [List.any_map]
    rfl
  unfold hiddenSuccess
  rw [hany, hany, hnames]

/-- What the columns read of a run, datetimes as they are printed. -/
theorem EvaluationRun.canon_inj {run run' : EvaluationRun}
    (h : (run.dump P).canonicalText = (run'.dump P).canonicalText) :
    run.runId = run'.runId ∧ run.suiteName = run'.suiteName ∧
      run.datasetName = run'.datasetName ∧ run.datasetVersion = run'.datasetVersion ∧
      run.agentVersion = run'.agentVersion ∧
      P.datetimeText run.startedAt = P.datetimeText run'.startedAt ∧
      P.datetimeText run.completedAt = P.datetimeText run'.completedAt ∧
      run.caseResults.map CaseResult.hiddenSuccess =
        run'.caseResults.map CaseResult.hiddenSuccess := by
  have hcanon : (Json.obj (run.items P)).canon = (Json.obj (run'.items P)).canon :=
    Json.canonicalText_inj.mp h
  have hkeys : ((run'.items P).map Prod.fst).Nodup := by simp [items]
  have text : ∀ {k s s' : String}, (k, Json.str s) ∈ run.items P →
      (k, Json.str s') ∈ run'.items P → s = s' := fun hs hs' => text_eq_of_canon hkeys hcanon hs hs'
  have harr := Json.canon_obj_field hkeys hcanon (k := "case_results")
    (v := .arr (run.caseResults.map fun r => .obj (r.items P)))
    (w := .arr (run'.caseResults.map fun r => .obj (r.items P))) (by simp [items])
    (by simp [items])
  refine ⟨UUID.str_inj (text (k := "run_id") ?_ ?_), text (k := "suite_name") ?_ ?_,
    text (k := "dataset_name") ?_ ?_, text (k := "dataset_version") ?_ ?_,
    text (k := "agent_version") ?_ ?_, text (k := "started_at") ?_ ?_,
    text (k := "completed_at") ?_ ?_,
    map_eq_of_canon_arr (fun _ _ => CaseResult.canon_hiddenSuccess) harr⟩
  all_goals simp [items]

/-- **The columns are functions of the payload text.** -/
theorem runColumns_congr (hjsonb : JsonbIsCanonical P.toPlatform) (htext : TextDeterminesInstant P)
    {run run' : EvaluationRun} (h : (run.dump P).canonicalText = (run'.dump P).canonicalText)
    (t : TenantId) (digest : HexDigest) (envelope : Envelope) :
    runColumns P t run digest envelope = runColumns P t run' digest envelope := by
  obtain ⟨hid, hsuite, hdataset, hversion, hagent, hstarted, hcompleted, hhidden⟩ :=
    EvaluationRun.canon_inj h
  have hcount : run.caseCount = run'.caseCount := by
    have := congrArg List.length hhidden
    rwa [List.length_map, List.length_map] at this
  have hpasses : run.hiddenPasses = run'.hiddenPasses := by
    have := congrArg (List.countP id) hhidden
    rwa [List.countP_map, List.countP_map] at this
  have hstorable : run.isStorable = run'.isStorable := by
    simp only [EvaluationRun.isStorable, hsuite, hdataset, hversion, hagent, hcount]
  unfold runColumns storeJson
  rw [hjsonb _ _ h, hstorable]
  simp only [hid, hsuite, hdataset, hversion, hagent, htext _ _ hstarted, htext _ _ hcompleted,
    hcount, EvaluationRun.hiddenPassRate, hpasses]

/-! ## What the statements do -/

/-- The row that is written has the run's dump as its payload, and digest and envelope in their
    columns. -/
theorem runColumns_ok {t : TenantId} {run : EvaluationRun} {digest : HexDigest}
    {envelope : Envelope} {row : RunRow} (h : runColumns P t run digest envelope = .ok row) :
    P.jsonb (run.dump P) = some row.payload ∧ row.tenantId = t ∧ row.runId = run.runId ∧
      row.payloadSha256 = digest.val ∧ row.envelope = envelope := by
  unfold runColumns at h
  obtain ⟨stored, hstored, h⟩ := Raising.bind_ok h
  split at h
  · obtain rfl := Except.ok.inj h
    exact ⟨storeJson_ok hstored, rfl, rfl, rfl, rfl⟩
  · cases h

/-- A written row has no legacy signature. -/
theorem runColumns_clearLegacy {t : TenantId} {run : EvaluationRun} {digest : HexDigest}
    {envelope : Envelope} {row : RunRow} (h : runColumns P t run digest envelope = .ok row) :
    row.clearLegacy = row := by
  unfold runColumns at h
  obtain ⟨stored, -, h⟩ := Raising.bind_ok h
  split at h
  · obtain rfl := Except.ok.inj h
    rfl
  · cases h

/-- A run is found among the rows of the runs as among the artifacts. -/
theorem lookup_toArtifactRow (id : UUID) (rows : List RunRow) :
    lookup ArtifactRow.artifactId id (rows.map RunRow.toArtifactRow) =
      (lookup RunRow.runId id rows).map RunRow.toArtifactRow := by
  unfold lookup
  rw [List.find?_map]
  rfl

/-- The upsert of a row with all its columns is the upsert of those the ledger knows. -/
theorem upsertRun_ok {row : RunRow} {s s' : RunStore} {u : Unit}
    (h : upsertRun row s = .ok u s') :
    ∃ rows, s' = { s with runs := rows } ∧
      upsertRow row.toArtifactRow (s.runs.map RunRow.toArtifactRow) =
        .ok (rows.map RunRow.toArtifactRow) ∧
      (∀ x ∈ rows, x ∈ s.runs ∨ x = row) ∧ row ∈ rows := by
  have hlookup : lookup ArtifactRow.artifactId row.toArtifactRow.artifactId
      (s.runs.map RunRow.toArtifactRow) = (lookup RunRow.runId row.runId s.runs).map
        RunRow.toArtifactRow := lookup_toArtifactRow row.runId s.runs
  unfold upsertRun at h
  unfold upsertRow
  rw [hlookup]
  split at h
  -- a new row
  · rename_i hnone
    obtain ⟨-, rfl⟩ := EStateM.Result.ok.inj h
    refine ⟨_, rfl, ?_, ?_, List.mem_append_right _ List.mem_cons_self⟩
    · rw [hnone, List.map_append]
      rfl
    · intro x hx
      rcases List.mem_append.mp hx with hx | hx
      · exact Or.inl hx
      · exact Or.inr (List.mem_singleton.mp hx)
  -- a row that is there is replaced in its own tenant only
  · rename_i old hlook
    split at h
    · rename_i htenant
      obtain ⟨-, rfl⟩ := EStateM.Result.ok.inj h
      obtain ⟨hold, hkey⟩ := lookup_some hlook
      refine ⟨_, rfl, ?_, ?_, List.mem_map.mpr ⟨old, hold, if_pos ⟨hkey, rfl⟩⟩⟩
      · have hmap : (update RunRow.runId row.runId (fun _ => true) (fun _ => row) s.runs).map
            RunRow.toArtifactRow = update ArtifactRow.artifactId row.runId (fun _ => true)
              (fun _ => row.toArtifactRow) (s.runs.map RunRow.toArtifactRow) := by
          refine (map_update_map ?_ ?_ ?_).1 <;> exact fun _ => rfl
        rw [hlook, hmap]
        exact if_pos htenant
      · intro x hx
        obtain ⟨y, hy, rfl⟩ := List.mem_map.mp hx
        split_ifs
        · exact Or.inr rfl
        · exact Or.inl hy
    · cases h

/-- An artifact without an entry gets the next one. -/
theorem appendLedgerValues_new {C : Crypto} {db : Database} {t : TenantId} {kind : ArtifactKind}
    {id : UUID} (h : lookup LedgerRow.key (t, kind, id) db.ledger = none) (digest : HexDigest)
    (envelope : Envelope) :
    appendLedgerValues C t kind id digest envelope db =
      .ok (db.ledger ++ [nextEntry C t kind id digest envelope (db.ledgerOf t).getLast?]) := by
  unfold appendLedgerValues
  rw [h]

/-- An entry that repeats digest and envelope is reused. -/
theorem appendLedgerValues_same {C : Crypto} {db : Database} {t : TenantId} {kind : ArtifactKind}
    {id : UUID} {e : LedgerRow} (h : lookup LedgerRow.key (t, kind, id) db.ledger = some e) :
    appendLedgerValues C t kind id e.payloadSha256 e.envelope db = .ok db.ledger := by
  unfold appendLedgerValues
  rw [h]
  exact if_pos ⟨rfl, rfl⟩

/-- The INSERT into the ledger replaces the ledger and leaves the runs. -/
theorem appendArtifactLedger_of_ok {t : TenantId} {kind : ArtifactKind} {id : UUID}
    {digest : HexDigest} {envelope : Envelope} {s : RunStore} {ledger : List LedgerRow}
    (h : appendLedgerValues P.toCrypto t kind id digest envelope s.toDatabase = .ok ledger) :
    appendArtifactLedger P t kind id digest envelope s = .ok () { s with ledger := ledger } := by
  unfold appendArtifactLedger
  rw [h]

/-- The inversion of a save that returns. -/
structure RunSaved (P : RunPlatform) (keyring : Option (ArtifactKeyring P.toCrypto)) (t : TenantId)
    (run : EvaluationRun) (s s' : RunStore) where
  digest : HexDigest
  envelope : Envelope
  row : RunRow
  rows : List RunRow
  ledger : List LedgerRow
  hsign : signRun P keyring run = .ok (digest, envelope)
  hcolumns : runColumns P t run digest envelope = .ok row
  hrows : upsertRow row.toArtifactRow (s.runs.map RunRow.toArtifactRow) =
    .ok (rows.map RunRow.toArtifactRow)
  hmem : ∀ x ∈ rows, x ∈ s.runs ∨ x = row
  hwritten : row ∈ rows
  hledger : appendLedgerValues P.toCrypto t .run run.runId digest envelope s.toDatabase =
    .ok ledger
  hs' : s' = { s with runs := rows, ledger := ledger }

/-- **A save raises and leaves the store alone, or it returns**, and both statements did. -/
theorem saveRun_cases (keyring : Option (ArtifactKeyring P.toCrypto)) (t : TenantId)
    (run : EvaluationRun) (s : RunStore) :
    (∃ e, saveRun P keyring t run s = (.error e, s)) ∨
      ∃ s', saveRun P keyring t run s = (.ok (), s') ∧
        Nonempty (RunSaved P keyring t run s s') := by
  unfold saveRun
  cases hsign : signRun P keyring run with
  | error e => exact Or.inl ⟨e, rfl⟩
  | ok signed =>
    obtain ⟨digest, envelope⟩ := signed
    rcases Session.transaction_cases (saveRunBlock P t run digest envelope) s with
      hraised | ⟨u, s', hblock, htransaction⟩
    · exact Or.inl hraised
    · refine Or.inr ⟨s', htransaction, ?_⟩
      obtain ⟨row, s₁, hcompute, hblock⟩ := Session.bind_ok hblock
      obtain ⟨u', s₂, hupsert, happend⟩ := Session.bind_ok hblock
      -- computing the row writes nothing
      obtain ⟨hcolumns, rfl⟩ : runColumns P t run digest envelope = .ok row ∧ s₁ = s := by
        cases hrow : runColumns P t run digest envelope with
        | error e =>
          rw [hrow] at hcompute
          cases hcompute
        | ok row' =>
          rw [hrow] at hcompute
          obtain ⟨rfl, rfl⟩ := EStateM.Result.ok.inj hcompute
          exact ⟨rfl, rfl⟩
      obtain ⟨rows, rfl, hrows, hmem, hwritten⟩ := upsertRun_ok hupsert
      unfold appendArtifactLedger at happend
      split at happend
      · rename_i ledger hledger
        obtain ⟨-, rfl⟩ := EStateM.Result.ok.inj happend
        exact ⟨⟨digest, envelope, row, rows, ledger, hsign, hcolumns, hrows, hmem, hwritten,
          hledger, rfl⟩⟩
      · cases happend

/-- What is computed before the statements: the digest of the dump, and the envelope over it. -/
theorem signRun_ok {keyring : Option (ArtifactKeyring P.toCrypto)} {run : EvaluationRun}
    {digest : HexDigest} {envelope : Envelope}
    (h : signRun P keyring run = .ok (digest, envelope)) :
    artifactDigest P.toCrypto (run.dump P) = .ok digest ∧
      signArtifact keyring .run run.runId digest = .ok envelope := by
  unfold signRun at h
  obtain ⟨digest', hdigest, h⟩ := Raising.bind_ok h
  obtain ⟨envelope', hsign, h⟩ := Raising.bind_ok h
  obtain ⟨rfl, rfl⟩ := Prod.mk.inj (Except.ok.inj h)
  exact ⟨hdigest, hsign⟩

/-- A save that returns is the save of `Evidence/Store`. -/
theorem RunSaved.refines {keyring : Option (ArtifactKeyring P.toCrypto)} {t : TenantId}
    {run : EvaluationRun} {s s' : RunStore} (h : RunSaved P keyring t run s s') :
    Evidence.saveRun P.toPlatform keyring t run.runId (run.dump P) s.toDatabase =
      .ok s'.toDatabase := by
  obtain ⟨digest, envelope, row, rows, ledger, hsign, hcolumns, hrows, -, -, hledger, rfl⟩ := h
  obtain ⟨hdigest, hsign⟩ := signRun_ok hsign
  obtain ⟨hstored, htenant, hid, hsha, henvelope⟩ := runColumns_ok hcolumns
  have hrow : row.toArtifactRow = ⟨t, run.runId, row.payload, digest.val, envelope⟩ := by
    rw [RunRow.toArtifactRow, htenant, hid, hsha, henvelope]
  rw [hrow] at hrows
  have hdb : RunStore.toDatabase { s with runs := rows, ledger := ledger } =
      s.toDatabase.saved .run (rows.map RunRow.toArtifactRow) ledger := by
    refine (Database.mk.injEq ..).mpr ⟨?_, rfl, rfl⟩
    funext kind
    cases kind <;> rfl
  rw [hdb]
  exact saveArtifact_of_steps hdigest hsign hstored hrows hledger

/-- A save whose computations and statements return. -/
theorem saveRun_of_steps {keyring : Option (ArtifactKeyring P.toCrypto)} {t : TenantId}
    {run : EvaluationRun} {s s₁ s₂ : RunStore} {digest : HexDigest} {envelope : Envelope}
    {row : RunRow} (hsign : signRun P keyring run = .ok (digest, envelope))
    (hcolumns : runColumns P t run digest envelope = .ok row)
    (hupsert : upsertRun row s = .ok () s₁)
    (happend : appendArtifactLedger P t .run run.runId digest envelope s₁ = .ok () s₂) :
    saveRun P keyring t run s = (.ok (), s₂) := by
  have hcompute : (MonadExcept.ofExcept (runColumns P t run digest envelope) :
      EStateM EvidenceError RunStore RunRow) s = .ok row s := by
    rw [hcolumns]
    rfl
  have hblock : saveRunBlock P t run digest envelope s = .ok () s₂ := by
    unfold saveRunBlock
    rw [Session.bind_of_ok hcompute, Session.bind_of_ok hupsert, happend]
  unfold saveRun
  rw [hsign]
  exact Session.transaction_of_ok hblock

/-! ## Histories and their invariant -/

/-- A store in which a database was put shows that database, if the runs were its own. -/
theorem withDatabase_toDatabase {s : RunStore} {db : Database}
    (h : db.artifacts .run = s.runs.map RunRow.toArtifactRow) :
    (s.withDatabase db).toDatabase = db := by
  refine (Database.mk.injEq ..).mpr ⟨?_, rfl, rfl⟩
  funext kind
  cases kind with
  | run => exact h.symm
  | comparison => rfl
  | guardrailEvidence => rfl

/-- A transaction that saves no run leaves the runs alone. -/
theorem commit_artifacts_run {P : Platform} (db : Database) {txn : Transaction P}
    (h : ∀ keyring t runId payload, txn ≠ .saveRun keyring t runId payload) :
    (commit db txn).artifacts .run = db.artifacts .run := by
  unfold commit
  split
  · rename_i db' hperform
    cases txn with
    | saveRun keyring t runId payload => exact absurd rfl (h keyring t runId payload)
    | saveComparison keyring t id baseline candidate payload =>
      obtain ⟨hs⟩ := saveComparison_ok hperform
      rw [hs.hdb]
      exact Database.saved_artifacts_of_ne (by decide)
    | saveGuardrailEvidence keyring t id payload =>
      obtain ⟨hs⟩ := saveArtifact_ok (fun _ _ => insertRow_ok) hperform
      rw [hs.hdb]
      exact Database.saved_artifacts_of_ne (by decide)
    | createLedgerCheckpoint keyring t days lookupNow now id =>
      obtain ⟨⟨checkpoint, db''⟩, hcreate, rfl⟩ := Raising.map_ok hperform
      rcases createLedgerCheckpoint_ok hcreate with ⟨rfl, -⟩ | ⟨K, -, ⟨hs⟩⟩
      · rfl
      · rw [hs.hdb]
  · rfl

/-- **Refinement.**  A write raises and leaves the store alone, or it is the transaction of
    `Evidence/Store`. -/
theorem toDatabase_step (s : RunStore) (w : Write P) :
    step s w = s ∨ (step s w).toDatabase = commit s.toDatabase w.transaction := by
  cases w with
  | saveRun keyring t run =>
    rcases saveRun_cases keyring t run s with ⟨e, hraised⟩ | ⟨s', hsaved, ⟨hs⟩⟩
    · exact Or.inl (congrArg Prod.snd hraised)
    · refine Or.inr ?_
      show (saveRun P keyring t run s).2.toDatabase = _
      have hperform : (Write.saveRun keyring t run).transaction.perform s.toDatabase =
          .ok s'.toDatabase := hs.refines
      rw [hsaved, commit_of_ok hperform]
  | saveComparison keyring t id baseline candidate payload =>
    exact Or.inr (withDatabase_toDatabase (commit_artifacts_run _ (by intros; exact nofun)))
  | saveGuardrailEvidence keyring t id payload =>
    exact Or.inr (withDatabase_toDatabase (commit_artifacts_run _ (by intros; exact nofun)))
  | createLedgerCheckpoint keyring t days lookupNow now id =>
    exact Or.inr (withDatabase_toDatabase (commit_artifacts_run _ (by intros; exact nofun)))

/-- The row holds what `save_run` writes for the run, the legacy signature apart. -/
def RunRow.Holds (P : RunPlatform) (row : RunRow) (run : EvaluationRun) : Prop :=
  ∃ digest, artifactDigest P.toCrypto (run.dump P) = .ok digest ∧
    runColumns P row.tenantId run digest row.envelope = .ok row.clearLegacy

/-- **The invariant of the store.** -/
structure StoreInvariant (P : RunPlatform) (s : RunStore) : Prop where
  evidence : LedgerInvariant P.toCrypto s.toDatabase
  holds : ∀ row ∈ s.runs, ∃ run, row.Holds P run

/-- An empty store meets the invariant. -/
theorem StoreInvariant.empty (P : RunPlatform) : StoreInvariant P .empty := by
  have hdb : RunStore.empty.toDatabase = .empty := by
    refine (Database.mk.injEq ..).mpr ⟨?_, rfl, rfl⟩
    funext kind
    cases kind <;> rfl
  refine ⟨?_, fun row hrow => by cases hrow⟩
  rw [hdb]
  exact LedgerInvariant.empty _

/-- **Every write preserves the invariant.** -/
theorem StoreInvariant.step {s : RunStore} (hinv : StoreInvariant P s) (w : Write P) :
    StoreInvariant P (step s w) := by
  have hholds : ∀ row ∈ (Saving.step s w).runs, ∃ run, row.Holds P run := by
    cases w with
    | saveRun keyring t run =>
      rcases saveRun_cases keyring t run s with ⟨e, hraised⟩ | ⟨s', hsaved, ⟨hs⟩⟩
      · show ∀ row ∈ (saveRun P keyring t run s).2.runs, _
        rw [hraised]
        exact hinv.holds
      · show ∀ row ∈ (saveRun P keyring t run s).2.runs, _
        rw [hsaved, hs.hs']
        intro row hrow
        rcases hs.hmem row hrow with hrow | rfl
        · exact hinv.holds row hrow
        · -- the row that was written
          have hdigest := (signRun_ok hs.hsign).1
          obtain ⟨-, htenant, -, -, henvelope⟩ := runColumns_ok hs.hcolumns
          refine ⟨run, hs.digest, hdigest, ?_⟩
          rw [htenant, henvelope, hs.hcolumns, runColumns_clearLegacy hs.hcolumns]
    | saveComparison => exact hinv.holds
    | saveGuardrailEvidence => exact hinv.holds
    | createLedgerCheckpoint => exact hinv.holds
  refine ⟨?_, hholds⟩
  rcases toDatabase_step s w with hsame | hdb
  · rw [hsame]
    exact hinv.evidence
  · rw [hdb]
    exact hinv.evidence.commit _

/-- **The invariant holds after every history of writes**, by the lemma for one write. -/
theorem storeInvariant_run {s : RunStore} (hinv : StoreInvariant P s) (history : List (Write P)) :
    StoreInvariant P (Runs.run step s history) :=
  Runs.run_invariant step _ (fun _ w h => h.step w) hinv history

/-! ## The contract of `save_run` -/

/-- The store with the legacy signature of a run cleared. -/
def RunStore.clearLegacy (s : RunStore) (runId : UUID) : RunStore :=
  { s with runs := Table.update RunRow.runId runId (fun _ => true) RunRow.clearLegacy s.runs }

/-- The run is signed as the row is. -/
def SignsAs (P : RunPlatform) (keyring : Option (ArtifactKeyring P.toCrypto)) (run : EvaluationRun)
    (row : RunRow) : Prop := ∃ digest, signRun P keyring run = .ok (digest, row.envelope)

/-- The two runs have one payload. -/
def SamePayload (P : RunPlatform) (run run' : EvaluationRun) : Prop :=
  (run.dump P).canonicalText = (run'.dump P).canonicalText

/-- A run the store can hold: its dump has a digest, PostgreSQL takes it into a JSONB column, and
    texts and case count fit the other columns. -/
structure EvaluationRun.Storable (P : RunPlatform) (run : EvaluationRun) : Prop where
  canonical : P.canonicalizes (run.dump P) = true
  jsonb : (P.jsonb (run.dump P)).isSome = true
  columns : run.isStorable = true

/-- No keyring, or one that signs with a key of its own. -/
def SignsLocally {C : Crypto} (keyring : Option (ArtifactKeyring C)) : Prop :=
  ∀ K, keyring = some K → K.activeKeyId.isSome = true ∧ K.remoteSigner = none

/-- The store after the save of a new run: one row and one entry more, which follows the tenant's
    ledger and repeats what the row says. -/
structure Added (P : RunPlatform) (keyring : Option (ArtifactKeyring P.toCrypto)) (t : TenantId)
    (run : EvaluationRun) (s : RunStore) (row : RunRow) (entry : LedgerRow) : Prop where
  returns : saveRun P keyring t run s =
    (.ok (), { s with runs := s.runs ++ [row], ledger := s.ledger ++ [entry] })
  holds : row.Holds P run
  tenant : row.tenantId = t
  id : row.runId = run.runId
  legacy : row.clearLegacy = row
  signs : SignsAs P keyring run row
  records : Records entry .run row.toArtifactRow
  sequence : entry.sequence = (s.toDatabase.ledgerOf t).length + 1
  previous : entry.previousEntrySha256 = (ledgerHead s.toDatabase t).2
  hash : entry.entrySha256 = ledgerEntryDigest P.toCrypto t.val entry.toLedgerFields

/-- What saving a run does to a store, by what is recorded under its `run_id`. -/
structure SaveRunContract (P : RunPlatform) (keyring : Option (ArtifactKeyring P.toCrypto))
    (t : TenantId) (run : EvaluationRun) (s : RunStore) : Prop where
  /-- Every row is the row of some run, the legacy signature apart. -/
  accounted : ∀ row ∈ s.runs, ∃ saved, row.Holds P saved
  repeated : ∀ row ∈ s.runs, row.runId = run.runId → row.tenantId = t →
    ∀ saved, row.Holds P saved → SamePayload P saved run → SignsAs P keyring run row →
      saveRun P keyring t run s = (.ok (), s.clearLegacy run.runId)
  conflicting : ∀ row ∈ s.runs, row.runId = run.runId → ∀ saved, row.Holds P saved →
    NoCollision P.toCrypto (saved.dump P).canonicalText (run.dump P).canonicalText →
    ¬(row.tenantId = t ∧ SamePayload P saved run ∧ SignsAs P keyring run row) →
      ∃ e, saveRun P keyring t run s = (.error e, s)
  rotated : ∀ row ∈ s.runs, row.runId = run.runId → ∀ K, keyring = some K →
    row.envelope.keyId ≠ K.activeKeyId → ∃ e, saveRun P keyring t run s = (.error e, s)
  /-- A local signature is always made; a remote one is, or the save raises. -/
  fresh : (∀ row ∈ s.runs, row.runId ≠ run.runId) → run.Storable P →
    (SignsLocally keyring ∨ ∃ signed, signRun P keyring run = .ok signed) →
      ∃ row entry, Added P keyring t run s row entry
  /-- What a save has left is saved again, and nothing changes. -/
  again : ∀ s', saveRun P keyring t run s = (.ok (), s') →
    saveRun P keyring t run s' = (.ok (), s')
  /-- A run that cannot be stored or signed. -/
  unstorable : ¬(run.Storable P ∧ ∃ signed, signRun P keyring run = .ok signed) →
    ∃ e, saveRun P keyring t run s = (.error e, s)

/-- The runs of a store have their identifiers once. -/
theorem keyed_runs {s : RunStore} (hinv : StoreInvariant P s) : Keyed RunRow.runId s.runs := by
  have hkeyed : (((s.runs.map RunRow.toArtifactRow)).map ArtifactRow.artifactId).Nodup :=
    hinv.evidence.artifacts_keyed .run
  rw [List.map_map] at hkeyed
  exact hkeyed

/-- A row that is written again with what it holds is the row it was. -/
theorem update_self_row {s : RunStore} (hinv : StoreInvariant P s) {row : RunRow}
    (hrow : row ∈ s.runs) :
    Table.update RunRow.runId row.runId (fun _ => true) (fun _ => row.clearLegacy) s.runs =
      Table.update RunRow.runId row.runId (fun _ => true) RunRow.clearLegacy s.runs := by
  refine List.map_congr_left fun x hx => ?_
  by_cases hid : x.runId = row.runId
  · rw [(keyed_runs hinv).eq_of_key hx hrow hid]
  · rw [if_neg fun h => hid h.1, if_neg fun h => hid h.1]

/-- The digest of a row is that of every run with the payload it holds. -/
theorem RunRow.Holds.digest {row : RunRow} {saved : EvaluationRun} (h : row.Holds P saved) :
    row.payloadSha256 = (P.sha256 (saved.dump P).canonicalText).val := by
  obtain ⟨digest, hdigest, hcolumns⟩ := h
  obtain ⟨-, -, -, hsha, -⟩ := runColumns_ok hcolumns
  rw [(artifactDigest_ok.mp hdigest).2]
  exact hsha

/-- **A repeated save** clears the legacy signature, and that is all. -/
theorem saveRun_repeated (hjsonb : JsonbIsCanonical P.toPlatform) (htext : TextDeterminesInstant P)
    {keyring : Option (ArtifactKeyring P.toCrypto)} {t : TenantId} {run : EvaluationRun}
    {s : RunStore} (hinv : StoreInvariant P s) {row : RunRow} (hrow : row ∈ s.runs)
    (hid : row.runId = run.runId) (htenant : row.tenantId = t) {saved : EvaluationRun}
    (hholds : row.Holds P saved) (hsame : SamePayload P saved run)
    (hsigns : SignsAs P keyring run row) :
    saveRun P keyring t run s = (.ok (), s.clearLegacy run.runId) := by
  obtain ⟨digest, hsign⟩ := hsigns
  obtain ⟨digest', hdigest', hcolumns⟩ := id hholds
  have hdigest : digest' = digest := by
    rw [← (artifactDigest_ok.mp hdigest').2, ← (artifactDigest_ok.mp (signRun_ok hsign).1).2, hsame]
  subst hdigest htenant
  -- the row is written as it stood
  rw [runColumns_congr hjsonb htext hsame] at hcolumns
  have hlookup : lookup RunRow.runId row.clearLegacy.runId s.runs = some row :=
    lookup_of_mem (keyed_runs hinv) hrow
  have hupsert : upsertRun row.clearLegacy s = .ok () (s.clearLegacy run.runId) := by
    unfold upsertRun RunStore.clearLegacy
    rw [hlookup]
    show (if row.tenantId = row.tenantId then _ else _) = _
    rw [if_pos rfl, ← hid, ← update_self_row hinv hrow]
    rfl
  -- and the ledger has its entry
  obtain ⟨e, he, hrecords⟩ := hinv.evidence.recorded .run row.toArtifactRow
    (List.mem_map_of_mem hrow)
  have hentry : lookup LedgerRow.key (row.tenantId, .run, run.runId) s.ledger = some e := by
    have hkey : e.key = (row.tenantId, .run, run.runId) := by
      rw [hrecords.key_eq, ← hid]
      rfl
    rw [← hkey]
    exact lookup_of_mem hinv.evidence.entries_keyed he
  have hsha : e.payloadSha256 = digest' := by
    refine Subtype.ext (hrecords.digest.trans ?_)
    rw [← (artifactDigest_ok.mp hdigest').2]
    exact hholds.digest
  have henvelope : e.envelope = row.envelope := hrecords.envelope
  have happend : appendLedgerValues P.toCrypto row.tenantId .run run.runId digest' row.envelope
      (s.clearLegacy run.runId).toDatabase = .ok s.ledger := by
    rw [← hsha, ← henvelope]
    exact appendLedgerValues_same hentry
  have happend := appendArtifactLedger_of_ok happend
  exact saveRun_of_steps hsign hcolumns hupsert happend

/-- A save under a recorded `run_id` that does not raise is one of the row's tenant, digest and
    envelope. -/
theorem saveRun_recorded {keyring : Option (ArtifactKeyring P.toCrypto)} {t : TenantId}
    {run : EvaluationRun} {s : RunStore} (hinv : StoreInvariant P s) {row : RunRow}
    (hrow : row ∈ s.runs) (hid : row.runId = run.runId) :
    (∃ e, saveRun P keyring t run s = (.error e, s)) ∨
      (row.tenantId = t ∧ row.payloadSha256 = (P.sha256 (run.dump P).canonicalText).val ∧
        SignsAs P keyring run row) := by
  rcases saveRun_cases keyring t run s with hraised | ⟨s', -, ⟨hs⟩⟩
  · exact Or.inl hraised
  refine Or.inr ?_
  obtain ⟨digest, envelope, new, rows, ledger, hsign, hcolumns, hrows, -, -, hledger, -⟩ := hs
  obtain ⟨-, htenant, hnewId, hsha, henvelope⟩ := runColumns_ok hcolumns
  have hwrite : RowWrite new.toArtifactRow (s.toDatabase.artifacts .run)
      (rows.map RunRow.toArtifactRow) := upsertRow_ok (hinv.evidence.artifacts_keyed .run) hrows
  generalize rows.map RunRow.toArtifactRow = written at hwrite
  have hold : row.toArtifactRow ∈ s.toDatabase.artifacts .run := List.mem_map_of_mem hrow
  subst htenant henvelope
  rw [← hnewId] at hledger
  cases saveStep_of_write hinv.evidence hwrite hledger hsha with
  | fresh hfresh _ => exact absurd (hid.trans hnewId.symm) (hfresh _ hold)
  | @again _ old hrep hold' htenant hsame henvelope =>
    -- the replaced row is the one that was recorded
    obtain rfl : row.toArtifactRow = old :=
      (hinv.evidence.artifacts_keyed .run).eq_of_key hold hrep.mem_old
        ((hid.trans hnewId.symm).trans hold'.symm)
    refine ⟨htenant, ?_, digest, ?_⟩
    · rw [(artifactDigest_ok.mp (signRun_ok hsign).1).2]
      exact hsame.trans hsha
    · rw [show row.envelope = new.envelope from henvelope]
      exact hsign

/-- A store signs with its active key. -/
theorem SignsAs.keyId {K : ArtifactKeyring P.toCrypto} {run : EvaluationRun} {row : RunRow}
    (h : SignsAs P (some K) run row) : row.envelope.keyId = K.activeKeyId := by
  obtain ⟨digest, hsign⟩ := h
  obtain ⟨signature, -, h⟩ := Raising.bind_ok (signRun_ok hsign).2
  rw [← Except.ok.inj h]

/-- **A new run** adds a row and the next entry of the ledger. -/
theorem saveRun_fresh {keyring : Option (ArtifactKeyring P.toCrypto)} {t : TenantId}
    {run : EvaluationRun} {s : RunStore} (hinv : StoreInvariant P s)
    (hfresh : ∀ row ∈ s.runs, row.runId ≠ run.runId) {digest : HexDigest} {envelope : Envelope}
    {row : RunRow} (hsign : signRun P keyring run = .ok (digest, envelope))
    (hcolumns : runColumns P t run digest envelope = .ok row) :
    saveRun P keyring t run s = (.ok (), { s with
      runs := s.runs ++ [row]
      ledger := s.ledger ++ [nextEntry P.toCrypto t .run run.runId digest envelope
        (s.toDatabase.ledgerOf t).getLast?] }) := by
  obtain ⟨-, -, hid, -, -⟩ := runColumns_ok hcolumns
  have hupsert : upsertRun row s = .ok () { s with runs := s.runs ++ [row] } := by
    unfold upsertRun
    rw [hid, lookup_none.mpr hfresh]
  -- an entry under the identifier would have its run in the store
  have hnone : lookup LedgerRow.key (t, .run, run.runId) s.ledger = none := by
    refine lookup_none.mpr fun e he hkey => ?_
    obtain ⟨a, ha, hrecords⟩ := hinv.evidence.stored e he
    obtain ⟨-, hkind, hid'⟩ : e.tenantId = t ∧ e.artifactType = .run ∧
        e.artifactId = run.runId := by simpa [LedgerRow.key] using hkey
    rw [hkind] at ha
    obtain ⟨x, hx, rfl⟩ := List.mem_map.mp ha
    exact hfresh x hx (hrecords.id.symm.trans hid')
  exact saveRun_of_steps hsign hcolumns hupsert
    (appendArtifactLedger_of_ok (appendLedgerValues_new hnone digest envelope))

/-- What is stored of a run that is signed: it has columns exactly if it is storable. -/
theorem exists_runColumns_iff {keyring : Option (ArtifactKeyring P.toCrypto)} {t : TenantId}
    {run : EvaluationRun} {digest : HexDigest} {envelope : Envelope}
    (hsign : signRun P keyring run = .ok (digest, envelope)) :
    (∃ row, runColumns P t run digest envelope = .ok row) ↔ run.Storable P := by
  constructor
  · rintro ⟨row, hrow⟩
    have hstored := (runColumns_ok hrow).1
    refine ⟨(artifactDigest_ok.mp (signRun_ok hsign).1).1, by rw [hstored]; rfl, ?_⟩
    unfold runColumns at hrow
    obtain ⟨stored, -, hrow⟩ := Raising.bind_ok hrow
    split at hrow
    · assumption
    · cases hrow
  · rintro ⟨-, hjsonb, hcolumns⟩
    obtain ⟨stored, hstored⟩ := Option.isSome_iff_exists.mp hjsonb
    unfold runColumns
    simp only [storeJson_of_some hstored, hcolumns, bind, Except.bind, if_true]
    exact ⟨_, rfl⟩

/-- A storable run is signed by every store whose key is its own. -/
theorem signRun_local {keyring : Option (ArtifactKeyring P.toCrypto)} {run : EvaluationRun}
    (hrun : run.Storable P) (hlocal : SignsLocally keyring) :
    ∃ signed, signRun P keyring run = .ok signed := by
  unfold signRun
  rw [artifactDigest_of hrun.canonical]
  cases keyring with
  | none => exact ⟨_, rfl⟩
  | some K =>
    obtain ⟨hactive, hremote⟩ := hlocal K rfl
    obtain ⟨keyId, hkey⟩ := Option.isSome_iff_exists.mp hactive
    obtain ⟨signature, hsign⟩ := ArtifactKeyring.sign_ok hkey hremote ArtifactKind.run.value
      run.runId (P.sha256 (run.dump P).canonicalText).val
    simp only [signArtifact_of_sign hsign, bind, Except.bind]
    exact ⟨_, rfl⟩

/-- The entry that follows a linked ledger has the next sequence and names the head. -/
theorem nextEntry_follows {C : Crypto} {db : Database} (hinv : LedgerInvariant C db) (t : TenantId)
    (kind : ArtifactKind) (id : UUID) (digest : HexDigest) (envelope : Envelope) :
    (nextEntry C t kind id digest envelope (db.ledgerOf t).getLast?).sequence =
        (db.ledgerOf t).length + 1 ∧
      (nextEntry C t kind id digest envelope (db.ledgerOf t).getLast?).previousEntrySha256 =
        (ledgerHead db t).2 := by
  have hlinked := hinv.linked t
  rw [← ledgerOf_eq hlinked] at hlinked
  unfold ledgerHead
  cases hlast : (db.ledgerOf t).getLast? with
  | none =>
    have hnil : db.ledgerOf t = [] := List.getLast?_eq_none_iff.mp hlast
    rw [hnil]
    exact ⟨rfl, rfl⟩
  | some e =>
    have hsequence : e.sequence + 1 = 1 + (db.ledgerOf t).length := hlinked.sequence_getLast? hlast
    refine ⟨?_, rfl⟩
    show e.sequence + 1 = (db.ledgerOf t).length + 1
    omega

/-- Clearing a signature that is not there changes nothing. -/
theorem clearLegacy_self {s : RunStore} {row : RunRow} (hkeyed : Keyed RunRow.runId s.runs)
    (hrow : row ∈ s.runs) (hlegacy : row.clearLegacy = row) :
    s.clearLegacy row.runId = s := by
  have hruns : Table.update RunRow.runId row.runId (fun _ => true) RunRow.clearLegacy s.runs =
      s.runs := by
    conv_rhs => rw [← List.map_id s.runs]
    refine List.map_congr_left fun x hx => ?_
    by_cases hid : x.runId = row.runId
    · obtain rfl := hkeyed.eq_of_key hx hrow hid
      rw [if_pos ⟨rfl, rfl⟩, hlegacy]
      rfl
    · rw [if_neg fun h => hid h.1]
      rfl
  rw [RunStore.clearLegacy, hruns]

/-- **A save after the save** returns, and finds nothing to change. -/
theorem saveRun_again (hjsonb : JsonbIsCanonical P.toPlatform) (htext : TextDeterminesInstant P)
    {keyring : Option (ArtifactKeyring P.toCrypto)} {t : TenantId} {run : EvaluationRun}
    {s s' : RunStore} (hinv : StoreInvariant P s) (h : saveRun P keyring t run s = (.ok (), s')) :
    saveRun P keyring t run s' = (.ok (), s') := by
  have hinv' : StoreInvariant P s' := by
    have hstep := hinv.step (.saveRun keyring t run)
    rwa [show Saving.step s (.saveRun keyring t run) = s' from congrArg Prod.snd h] at hstep
  rcases saveRun_cases keyring t run s with ⟨e, hraised⟩ | ⟨s'', hsaved, ⟨hs⟩⟩
  · rw [hraised] at h
    cases h
  · obtain rfl : s'' = s' := congrArg Prod.snd (hsaved.symm.trans h)
    obtain ⟨-, htenant, hid, -, henvelope⟩ := runColumns_ok hs.hcolumns
    have hruns : s''.runs = hs.rows := congrArg RunStore.runs hs.hs'
    have hrow : hs.row ∈ s''.runs := by
      rw [hruns]
      exact hs.hwritten
    have hholds : hs.row.Holds P run := ⟨hs.digest, (signRun_ok hs.hsign).1, by
      rw [htenant, henvelope, hs.hcolumns, runColumns_clearLegacy hs.hcolumns]⟩
    have hsigns : SignsAs P keyring run hs.row := ⟨hs.digest, by rw [henvelope]; exact hs.hsign⟩
    have hagain := saveRun_repeated hjsonb htext hinv' hrow hid htenant hholds rfl hsigns
    rwa [← hid, clearLegacy_self (keyed_runs hinv') hrow (runColumns_clearLegacy hs.hcolumns)]
      at hagain

/-- **Saving is idempotent and atomic** in every store a history of writes leads to.  A new `run_id`
    adds one row and one ledger entry and returns; the same payload under the same key changes
    nothing but the legacy signature; another payload, tenant or key raises, and so does a run that
    cannot be stored or signed, and the store stays as it was. -/
theorem saveRun_contract (hjsonb : JsonbIsCanonical P.toPlatform) (htext : TextDeterminesInstant P)
    {s₀ : RunStore} (h₀ : StoreInvariant P s₀) (history : List (Write P))
    (keyring : Option (ArtifactKeyring P.toCrypto)) (t : TenantId) (run : EvaluationRun) :
    SaveRunContract P keyring t run (Runs.run step s₀ history) := by
  have hinv := storeInvariant_run h₀ history
  refine ⟨hinv.holds, ?_, ?_, ?_, ?_, ?_, ?_⟩
  · intro row hrow hid htenant saved hholds hsame hsigns
    exact saveRun_repeated hjsonb htext hinv hrow hid htenant hholds hsame hsigns
  · intro row hrow hid saved hholds hcollision hconflict
    refine (saveRun_recorded hinv hrow hid).resolve_right fun ⟨htenant, hsha, hsigns⟩ =>
      hconflict ⟨htenant, hcollision (Subtype.ext ?_), hsigns⟩
    rw [← hholds.digest, hsha]
  · rintro row hrow hid K rfl hrotated
    exact (saveRun_recorded hinv hrow hid).resolve_right fun h => hrotated h.2.2.keyId
  · intro hfresh hrun hsigner
    obtain ⟨⟨digest, envelope⟩, hsign⟩ := hsigner.elim (signRun_local hrun) id
    obtain ⟨row, hcolumns⟩ := (exists_runColumns_iff (t := t) hsign).mpr hrun
    obtain ⟨-, htenant, hid, hsha, henvelope⟩ := runColumns_ok hcolumns
    obtain ⟨hsequence, hprevious⟩ :=
      nextEntry_follows hinv.evidence t .run run.runId digest envelope
    refine ⟨row, _, saveRun_fresh hinv hfresh hsign hcolumns, ⟨digest, (signRun_ok hsign).1, ?_⟩,
      htenant, hid, runColumns_clearLegacy hcolumns, ⟨digest, ?_⟩,
      ⟨htenant.symm, rfl, hid.symm, hsha.symm, henvelope.symm⟩, hsequence, hprevious, rfl⟩
    · rw [htenant, henvelope, hcolumns, runColumns_clearLegacy hcolumns]
    · rw [henvelope]
      exact hsign
  · intro s' hsaved
    exact saveRun_again hjsonb htext hinv hsaved
  · intro hunstorable
    rcases saveRun_cases keyring t run (Runs.run step s₀ history) with hraised | ⟨s', -, ⟨hs⟩⟩
    · exact hraised
    · exact absurd ⟨(exists_runColumns_iff hs.hsign).mp ⟨_, hs.hcolumns⟩, _, hs.hsign⟩ hunstorable

/-! ### The run of the worked store -/

namespace Sample

open Evidence.Sample

def startedAt : PyDatetime := .aware (.utc 1767225600000000)

def completedAt : PyDatetime := .aware (.utc 1767225660000000)

/-- The platform of the worked store, with the two times of its run. -/
def runPlatform : RunPlatform where
  toPlatform := platform
  datetimeText d :=
    if d = startedAt then "2026-01-01T00:00:00Z"
    else if d = completedAt then "2026-01-01T00:01:00Z" else ""
  timestamptz d :=
    if d = startedAt then 1767225600000000
    else if d = completedAt then 1767225660000000 else 0

def run (agentVersion : String) : EvaluationRun :=
  ⟨1, "coding", "repair", "1", agentVersion, startedAt, completedAt, []⟩

/-- The sample run is dumped as its items. -/
theorem dump_run (agentVersion : String) :
    (run agentVersion).dump runPlatform = .obj (runItems agentVersion) := by
  simp [EvaluationRun.dump, EvaluationRun.items, run, runPlatform, runItems]
  decide

/-- The sample column gives back one value for values with one canonical text. -/
theorem jsonbIsCanonical : JsonbIsCanonical platform := by
  intro j k h
  rw [platform_jsonb]
  unfold jsonb
  rw [h]

/-- The printed times of the sample determine their instants. -/
theorem textDeterminesInstant : TextDeterminesInstant runPlatform := by
  intro d d' h
  simp only [runPlatform] at h ⊢
  split_ifs at h ⊢ <;> simp_all

/-- The columns of the worked store take the run. -/
theorem storable : (run "baseline").Storable runPlatform where
  canonical := by
    rw [dump_run]
    rfl
  jsonb := by
    rw [dump_run, show runPlatform.jsonb = jsonb from platform_jsonb, jsonb_run]
    rfl
  columns := by decide

/-- Its keyring holds the private key. -/
theorem signsLocally : SignsLocally (some keyring) := by
  rintro _ ⟨⟩
  exact ⟨rfl, rfl⟩

/-- A run with another payload does not share the saved run's digest. -/
theorem noCollision_run : NoCollision runPlatform.toCrypto
    ((run "baseline").dump runPlatform).canonicalText
    ((run "tampered").dump runPlatform).canonicalText := by
  rw [dump_run, dump_run]
  exact fun h => absurd (congrArg Subtype.val
    (sha256_run.symm.trans (h.trans sha256_tampered))) (by decide)

/-- The history that saves the run. -/
def history : List (Write runPlatform) := [.saveRun (some keyring) tenant (run "baseline")]

/-- The run and the one with another agent version have different payloads. -/
theorem not_samePayload : ¬SamePayload runPlatform (run "baseline") (run "tampered") := by
  intro h
  have hcanon := (EvaluationRun.canon_inj h).2.2.2.2.1
  exact absurd hcanon (by decide)

end Sample

open Evidence.Sample in
/-- The run is saved and has its row and its entry; it is saved again, and the store stays as it is;
    the run with another payload is refused, and the store stays as it is. -/
theorem saveRun_contract_sample : ∃ s row entry,
    saveRun Sample.runPlatform (some keyring) tenant (Sample.run "baseline") .empty = (.ok (), s) ∧
      s = { RunStore.empty with runs := [row], ledger := [entry] } ∧ entry.sequence = 1 ∧
      saveRun Sample.runPlatform (some keyring) tenant (Sample.run "baseline") s = (.ok (), s) ∧
      ∃ e, saveRun Sample.runPlatform (some keyring) tenant (Sample.run "tampered") s =
        (.error e, s) := by
  have contract := fun history => saveRun_contract Sample.jsonbIsCanonical
    Sample.textDeterminesInstant (StoreInvariant.empty Sample.runPlatform) history (some keyring)
    tenant
  obtain ⟨row, entry, hadded⟩ := (contract [] (Sample.run "baseline")).fresh
    (fun row hrow => by cases hrow) Sample.storable (Or.inl Sample.signsLocally)
  have hsaved : saveRun Sample.runPlatform (some keyring) tenant (Sample.run "baseline") .empty =
      (.ok (), { RunStore.empty with runs := [row], ledger := [entry] }) := hadded.returns
  refine ⟨_, row, entry, hsaved, rfl, hadded.sequence,
    (contract [] (Sample.run "baseline")).again _ hsaved, ?_⟩
  -- the other payload comes after the save
  have hrun : Runs.run step .empty Sample.history =
      { RunStore.empty with runs := [row], ledger := [entry] } := congrArg Prod.snd hsaved
  have hrow : row ∈ (Runs.run step .empty Sample.history).runs := by
    rw [hrun]
    exact List.mem_singleton.mpr rfl
  have hrefused := (contract Sample.history (Sample.run "tampered")).conflicting row hrow hadded.id
    (Sample.run "baseline") hadded.holds Sample.noCollision_run
    fun h => Sample.not_samePayload h.2.1
  rwa [hrun] at hrefused

end AEControl.Evidence.Saving
