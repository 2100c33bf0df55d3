/-
  The fleet rollups under every statement on their tables (`store.py`).

  `Fleet` tells what the store's own methods do to `evaluation_jobs` and `workers`.  Here any SQL
  statement may come: inserts, updates that move a row to another tenant or key, deletes, many rows
  at a time, and between them schema initializations, which truncate and refill the rollups and
  install the triggers.  The columns are those PostgreSQL sees, `capabilities` a JSONB document, so
  a projection can raise and take its statement with it.

  Structure of the proof:
  1. both tables are instances of `Lib/Trigger`; what they share is the pair of facts that a rollup
     has its row's key (`projectJob_key`, `projectWorker_key`) and that rows with one key have one
     primary key;
  2. `Consistent`, the invariant: the primary keys hold, and where the triggers are installed each
     rollup table mirrors its source;
  3. `Consistent.step`, a case for each statement: the trigger rule for the statements on rows, the
     backfill for an initialization (`Consistent.initializeSchema`);
  4. `rollups_mirror_sources` for every run with an initialization that commits.

  The rows that the store writes itself have the projections of `Fleet` (`projectJob_ofRow`), which
  connects the two modules.
-/
import AEControl.Lib.Trigger
import AEControl.Jobs.Fleet

namespace AEControl.Jobs.Rollups

open Table Mirror Trigger Evidence

/-! ## Rows -/

/-- What PostgreSQL raises. -/
inductive SqlError where
  | uniqueViolation
  | checkViolation
  | invalidParameterValue
  deriving DecidableEq, Repr

/-- A row of `evaluation_jobs`, the columns the rollup copies. -/
structure SqlJob where
  tenantId : TenantId
  jobId : UUID
  status : JobStatus
  requiredAccelerator : String
  createdAt : Timestamp
  leaseExpiresAt : Option Timestamp
  updatedAt : Timestamp

/-- A row of `workers`, the columns the rollup reads. -/
structure SqlWorker where
  tenantId : TenantId
  workerId : String
  capabilities : Json
  lastSeenAt : Timestamp

def SqlJob.key (r : SqlJob) : TenantId × UUID := (r.tenantId, r.jobId)

/-- `PRIMARY KEY (tenant_id, worker_id)`. -/
def SqlWorker.key (r : SqlWorker) : TenantId × String := (r.tenantId, r.workerId)

/-! ## Projections -/

/-- `document->'k'`. -/
def jsonField (k : String) : Json → Option Json
  | .obj fields => fields.lookup k
  | _ => none

/-- `document ? 's'`: a key of an object, an element of an array, or the text itself. -/
def jsonExists (s : String) : Json → Bool
  | .obj fields => (fields.lookup s).isSome
  | .arr items => items.any fun
    | .str t => t = s
    | _ => false
  | .str t => t = s
  | _ => false

/-- `jsonb_array_length`. -/
def jsonbArrayLength : Json → Except SqlError ℕ
  | .arr items => .ok items.length
  | _ => .error .invalidParameterValue

/-- `CHECK (required_accelerator IN ('cpu', 'cuda'))` of the rollup. -/
def acceleratorOfText (s : String) : Except SqlError Accelerator :=
  if s = "cpu" then .ok .cpu
  else if s = "cuda" then .ok .cuda
  else .error .checkViolation

/-- The row `sync_fleet_job_rollup` writes. -/
def projectJob (r : SqlJob) : Except SqlError JobRollup := do
  let accelerator ← acceleratorOfText r.requiredAccelerator
  .ok ⟨r.tenantId, r.jobId, r.status, accelerator, r.createdAt, r.leaseExpiresAt, r.updatedAt⟩

/-- `coalesce(capabilities->'accelerators' ? 'name', false)`. -/
def supports (name : String) (capabilities : Json) : Bool :=
  ((jsonField "accelerators" capabilities).map (jsonExists name)).getD false

/-- `coalesce(jsonb_array_length(capabilities->'gpus'), 0)`. -/
def gpuDevices (capabilities : Json) : Except SqlError ℕ :=
  ((jsonField "gpus" capabilities).map jsonbArrayLength).getD (.ok 0)

/-- The row `sync_fleet_worker_rollup` writes. -/
def projectWorker (r : SqlWorker) : Except SqlError WorkerRollup := do
  let devices ← gpuDevices r.capabilities
  .ok ⟨r.tenantId, r.workerId, supports "cpu" r.capabilities, supports "cuda" r.capabilities,
    devices, r.lastSeenAt⟩

/-- The projection of a job has the job's key. -/
theorem projectJob_key (r : SqlJob) (b : JobRollup) (h : projectJob r = .ok b) : b.key = r.key := by
  obtain ⟨accelerator, -, h⟩ := Raising.bind_ok h
  rw [← Except.ok.inj h]
  rfl

/-- The projection of a worker has the worker's key. -/
theorem projectWorker_key (r : SqlWorker) (b : WorkerRollup) (h : projectWorker r = .ok b) :
    b.key = r.key := by
  obtain ⟨devices, -, h⟩ := Raising.bind_ok h
  rw [← Except.ok.inj h]
  rfl

/-- `job_id` is a key by itself, so the rollup's key is one. -/
theorem jobId_of_key (r r' : SqlJob) (h : r.key = r'.key) : r.jobId = r'.jobId :=
  congrArg Prod.snd h

/-! ## The rows the store writes -/

/-- The row of `evaluation_jobs` for a job. -/
def SqlJob.ofRow (r : JobRow) : SqlJob :=
  ⟨r.tenantId, r.job.jobId, r.job.status, acceleratorValue r.job.requiredAccelerator,
    r.job.createdAt, r.job.leaseExpiresAt, r.job.updatedAt⟩

/-- `capabilities.model_dump(mode="json")`, with the dump of a GPU and the fields that neither a
    rollup nor a claim reads left open. -/
def capabilitiesDocument (gpu : GpuDevice → Json) (rest : List (String × Json))
    (c : WorkerCapabilities) : Json :=
  .obj (("accelerators", .arr (c.accelerators.map fun a => .str (acceleratorValue a))) ::
    ("gpus", .arr (c.gpus.map gpu)) :: rest)

/-- The row of `workers` for a worker. -/
def SqlWorker.ofRow (gpu : GpuDevice → Json) (rest : WorkerRow → List (String × Json))
    (r : WorkerRow) : SqlWorker :=
  ⟨r.tenantId, r.worker.workerId, capabilitiesDocument gpu (rest r) r.worker.capabilities,
    r.worker.lastSeenAt⟩

/-- The projection of a row that the store writes is the rollup of the job it holds. -/
theorem projectJob_ofRow (r : JobRow) : projectJob (.ofRow r) = .ok (Fleet.jobRollup r) := by
  have htext : acceleratorOfText (acceleratorValue r.job.requiredAccelerator) =
      .ok r.job.requiredAccelerator := by
    cases r.job.requiredAccelerator <;> simp [acceleratorValue, acceleratorOfText]
  simp only [projectJob, SqlJob.ofRow, htext]
  rfl

/-- An accelerator is found in the document when it is in the list. -/
theorem supports_capabilitiesDocument (gpu : GpuDevice → Json) (rest : List (String × Json))
    (c : WorkerCapabilities) (a : Accelerator) :
    supports (acceleratorValue a) (capabilitiesDocument gpu rest c) = c.accelerators.contains a := by
  have hvalue : ∀ b, acceleratorValue b = acceleratorValue a ↔ b = a := by
    intro b
    cases a <;> cases b <;> simp [acceleratorValue]
  show (c.accelerators.map fun b => Json.str (acceleratorValue b)).any _ = _
  rw [List.any_map, List.contains_eq_any_beq]
  congr 1
  funext b
  simp [hvalue, eq_comm, beq_eq_decide]

/-- The projection of a row that the store writes is the rollup of the worker it holds. -/
theorem projectWorker_ofRow (gpu : GpuDevice → Json) (rest : WorkerRow → List (String × Json))
    (r : WorkerRow) : projectWorker (.ofRow gpu rest r) = .ok (Fleet.workerRollup r) := by
  have hdevices : gpuDevices (capabilitiesDocument gpu (rest r) r.worker.capabilities) =
      .ok r.worker.capabilities.gpus.length := by
    show Except.ok (r.worker.capabilities.gpus.map gpu).length = _
    rw [List.length_map]
  have hcpu := supports_capabilitiesDocument gpu (rest r) r.worker.capabilities .cpu
  have hcuda := supports_capabilitiesDocument gpu (rest r) r.worker.capabilities .cuda
  simp only [acceleratorValue] at hcpu hcuda
  simp only [projectWorker, SqlWorker.ofRow, hdevices, hcpu, hcuda]
  rfl

/-! ## The schema -/

/-- The two tables with their rollups, and whether the triggers are there. -/
structure Schema where
  jobs : List SqlJob
  workers : List SqlWorker
  jobRollups : List JobRollup
  workerRollups : List WorkerRollup
  triggersInstalled : Bool

/-- A committed statement: the rows it writes, in the order it writes them, or a schema
    initialization, which holds its locks until it commits. -/
inductive Statement where
  | jobs (ws : List (RowWrite SqlJob UUID))
  | workers (ws : List (RowWrite SqlWorker (TenantId × String)))
  | initializeSchema

/-- A statement on a table, with its row trigger if there is one. -/
def execute {α β : Type} {κ κ' : Type} [DecidableEq κ] [DecidableEq κ'] (triggered : Bool)
    (key : α → κ) (mirrorKey : β → κ) (image : α → Except SqlError β) (pk : α → κ')
    (ws : List (RowWrite α κ')) (rows : List α) (mirror : List β) :
    Except SqlError (List α × List β) :=
  if triggered then statement key mirrorKey image pk .uniqueViolation ws rows mirror
  else do
    let (rows, _) ← applyWrites pk .uniqueViolation ws rows
    .ok (rows, mirror)

/-- `_backfill_fleet_rollups`. -/
def backfillFleetRollups (s : Schema) : Except SqlError Schema := do
  let jobRollups ← s.jobs.mapM projectJob
  let workerRollups ← s.workers.mapM projectWorker
  .ok { s with jobRollups := jobRollups, workerRollups := workerRollups }

/-- The part of `_initialize_schema` about the rollups. -/
def initializeSchema (s : Schema) : Except SqlError Schema := do
  let s ← backfillFleetRollups s
  .ok { s with triggersInstalled := true }

/-- The schema after a statement; one that raises leaves it alone. -/
def step (s : Schema) : Statement → Schema
  | .jobs ws =>
    match execute s.triggersInstalled SqlJob.key JobRollup.key projectJob SqlJob.jobId ws s.jobs
        s.jobRollups with
    | .ok (jobs, rollups) => { s with jobs := jobs, jobRollups := rollups }
    | .error _ => s
  | .workers ws =>
    match execute s.triggersInstalled SqlWorker.key WorkerRollup.key projectWorker SqlWorker.key ws
        s.workers s.workerRollups with
    | .ok (workers, rollups) => { s with workers := workers, workerRollups := rollups }
    | .error _ => s
  | .initializeSchema =>
    match initializeSchema s with
    | .ok s' => s'
    | .error _ => s

/-! ## One statement -/

section Execute

variable {α β κ κ' : Type} [DecidableEq κ] [DecidableEq κ'] {key : α → κ} {mirrorKey : β → κ}
  {image : α → Except SqlError β} {pk : α → κ'} {rows rows' : List α} {mirror mirror' : List β}

/-- A statement that returns keeps the primary key, and the rollup where there is a trigger. -/
theorem execute_exact {triggered : Bool} (himage : ∀ r b, image r = .ok b → mirrorKey b = key r)
    (hkey : ∀ r r', key r = key r' → pk r = pk r') {ws : List (RowWrite α κ')}
    (hk : Keyed pk rows) (hm : triggered = true → MirrorsExactly mirrorKey image rows mirror)
    (h : execute triggered key mirrorKey image pk ws rows mirror = .ok (rows', mirror')) :
    Keyed pk rows' ∧ (triggered = true → MirrorsExactly mirrorKey image rows' mirror') := by
  cases triggered with
  | true =>
    have h : statement key mirrorKey image pk .uniqueViolation ws rows mirror =
        .ok (rows', mirror') := h
    obtain ⟨hk', hm'⟩ := statement_exact himage hkey hk (hm rfl) h
    exact ⟨hk', fun _ => hm'⟩
  | false =>
    obtain ⟨⟨rows₁, events⟩, hwrites, h⟩ := Raising.bind_ok h
    obtain ⟨rfl, -⟩ := Prod.mk.inj (Except.ok.inj h)
    refine ⟨applyWrites_keyed hk hwrites, fun habsent => ?_⟩
    cases habsent

end Execute

/-- An initialization that commits has a projection for every row; it fills both rollups with them
    and installs the triggers. -/
theorem initializeSchema_ok {s s' : Schema} (h : initializeSchema s = .ok s') :
    ∃ jobRollups workerRollups, s.jobs.mapM projectJob = .ok jobRollups ∧
      s.workers.mapM projectWorker = .ok workerRollups ∧
      s' = ⟨s.jobs, s.workers, jobRollups, workerRollups, true⟩ := by
  obtain ⟨s₁, hbackfill, h⟩ := Raising.bind_ok h
  obtain ⟨jobRollups, hjobs, hbackfill⟩ := Raising.bind_ok hbackfill
  obtain ⟨workerRollups, hworkers, hbackfill⟩ := Raising.bind_ok hbackfill
  obtain rfl := Except.ok.inj hbackfill
  exact ⟨jobRollups, workerRollups, hjobs, hworkers, (Except.ok.inj h).symm⟩

/-! ## The invariant -/

/-- The primary keys hold, and the rollups are exact from the first initialization on. -/
structure Consistent (s : Schema) : Prop where
  jobs : Keyed SqlJob.jobId s.jobs
  workers : Keyed SqlWorker.key s.workers
  jobRollups : s.triggersInstalled = true →
    MirrorsExactly JobRollup.key projectJob s.jobs s.jobRollups
  workerRollups : s.triggersInstalled = true →
    MirrorsExactly WorkerRollup.key projectWorker s.workers s.workerRollups

/-- Initializing the schema backfills the rollups, so it leaves a consistent schema. -/
theorem Consistent.initializeSchema {s s' : Schema} (hc : Consistent s)
    (h : initializeSchema s = .ok s') : Consistent s' := by
  obtain ⟨jobRollups, workerRollups, hjobs, hworkers, rfl⟩ := initializeSchema_ok h
  refine ⟨hc.jobs, hc.workers, fun _ => ?_, fun _ => ?_⟩
  · exact backfill_exact projectJob_key jobId_of_key hc.jobs hjobs
  · exact backfill_exact projectWorker_key (fun _ _ hkey => hkey) hc.workers hworkers

/-- **One statement** keeps the invariant. -/
theorem Consistent.step {s : Schema} (hc : Consistent s) (statement : Statement) :
    Consistent (step s statement) := by
  cases statement with
  | jobs ws =>
    simp only [Rollups.step]
    split
    · next jobs rollups h =>
      obtain ⟨hjobs, hrollups⟩ :=
        execute_exact projectJob_key jobId_of_key hc.jobs hc.jobRollups h
      exact ⟨hjobs, hc.workers, hrollups, hc.workerRollups⟩
    · exact hc
  | workers ws =>
    simp only [Rollups.step]
    split
    · next workers rollups h =>
      obtain ⟨hworkers, hrollups⟩ :=
        execute_exact projectWorker_key (fun _ _ hkey => hkey) hc.workers hc.workerRollups h
      exact ⟨hc.jobs, hworkers, hc.jobRollups, hrollups⟩
    · exact hc
  | initializeSchema =>
    simp only [Rollups.step]
    split
    · next s' h => exact hc.initializeSchema h
    · exact hc

/-- Nothing but an initialization touches the triggers, and no initialization removes them. -/
theorem installed_step {s : Schema} (hs : s.triggersInstalled = true) (statement : Statement) :
    (step s statement).triggersInstalled = true := by
  cases statement with
  | jobs ws =>
    simp only [step]
    split
    · exact hs
    · exact hs
  | workers ws =>
    simp only [step]
    split
    · exact hs
    · exact hs
  | initializeSchema =>
    simp only [step]
    split
    · next s' h =>
      obtain ⟨jobRollups, workerRollups, -, -, rfl⟩ := initializeSchema_ok h
      rfl
    · exact hs

/-- Where the triggers are, every row has a projection: a later initialization commits. -/
theorem initializeSchema_commits {s : Schema} (hc : Consistent s)
    (hs : s.triggersInstalled = true) : ∃ s', initializeSchema s = .ok s' := by
  obtain ⟨jobRollups, hjobs⟩ := Raising.mapM_of_forall (hc.jobRollups hs).total
  obtain ⟨workerRollups, hworkers⟩ := Raising.mapM_of_forall (hc.workerRollups hs).total
  refine ⟨⟨s.jobs, s.workers, jobRollups, workerRollups, true⟩, ?_⟩
  simp only [initializeSchema, backfillFleetRollups, hjobs, hworkers, bind, Except.bind]

/-! ## Every run -/

/-- One row for each source row, its projection, and no others. -/
structure ExactRollups (s : Schema) : Prop where
  jobs : ∃ projections, s.jobs.mapM projectJob = .ok projections ∧
    s.jobRollups.Perm projections
  workers : ∃ projections, s.workers.mapM projectWorker = .ok projections ∧
    s.workerRollups.Perm projections

/-- With the triggers installed, a consistent schema has exactly the rollups of its sources. -/
theorem Consistent.exactRollups {s : Schema} (hc : Consistent s)
    (hs : s.triggersInstalled = true) : ExactRollups s where
  jobs := (hc.jobRollups hs).perm projectJob_key jobId_of_key hc.jobs
  workers := (hc.workerRollups hs).perm projectWorker_key (fun _ _ hkey => hkey) hc.workers

/-- Tables under their primary keys, before the first initialization. -/
structure Fresh (s : Schema) : Prop where
  jobs : Keyed SqlJob.jobId s.jobs
  workers : Keyed SqlWorker.key s.workers
  untriggered : s.triggersInstalled = false

/-- A schema with keyed tables is consistent before its first initialization. -/
theorem Fresh.consistent {s : Schema} (h : Fresh s) : Consistent s := by
  refine ⟨h.jobs, h.workers, fun hs => ?_, fun hs => ?_⟩
  · exact absurd (h.untriggered.symm.trans hs) Bool.false_ne_true
  · exact absurd (h.untriggered.symm.trans hs) Bool.false_ne_true

/-- **Every run of statements keeps the schema consistent**, by the lemma for one statement. -/
theorem consistent_run {s : Schema} (hc : Consistent s) (statements : List Statement) :
    Consistent (Runs.run step s statements) :=
  Runs.run_invariant step Consistent (fun _ statement hc => hc.step statement) hc statements

/-- **Rollups mirror their sources.**  After the first initialization that commits, whatever came
    before it and whatever statements come after, further initializations among them, the rollups
    are the projections of the tables. -/
theorem rollups_mirror_sources {s : Schema} (hs : Fresh s) (before after : List Statement)
    {s' : Schema} (hinit : initializeSchema (Runs.run step s before) = .ok s') :
    ExactRollups (Runs.run step s (before ++ .initializeSchema :: after)) := by
  have hinstalled : s'.triggersInstalled = true := by
    obtain ⟨jobRollups, workerRollups, -, -, rfl⟩ := initializeSchema_ok hinit
    rfl
  have hc' : Consistent s' := (consistent_run hs.consistent before).initializeSchema hinit
  have hrun : Runs.run step s (before ++ .initializeSchema :: after) =
      Runs.run step s' after := by
    rw [Runs.run_append, Runs.run_cons]
    simp only [step, hinit]
  rw [hrun]
  refine (consistent_run hc' after).exactRollups ?_
  exact Runs.run_invariant step (fun s => s.triggersInstalled = true)
    (fun _ statement hs => installed_step hs statement) hinstalled after

/-! ## The store's own schema -/

/-- The tables of `Fleet` as PostgreSQL has them, after an initialization. -/
def Schema.ofFleet (gpu : GpuDevice → Json) (rest : WorkerRow → List (String × Json)) (db : Fleet) :
    Schema :=
  ⟨db.jobs.map SqlJob.ofRow, db.workers.map (SqlWorker.ofRow gpu rest), db.jobRollups,
    db.workerRollups, true⟩

/-- The rows of a table, projected one by one. -/
theorem mapM_projected {α β γ : Type} {image : β → Except SqlError γ} {row : α → β}
    {rollup : α → γ} (h : ∀ r, image (row r) = .ok (rollup r)) (rows : List α) :
    (rows.map row).mapM image = .ok (rows.map rollup) := by
  induction rows with
  | nil => rfl
  | cons r rows ih =>
    simp only [List.map_cons, List.mapM_cons, h, ih]
    rfl

/-- What the store's methods keep is what any statement keeps. -/
theorem exactRollups_ofFleet (gpu : GpuDevice → Json) (rest : WorkerRow → List (String × Json))
    {db : Fleet} (h : Fleet.Exact db) : ExactRollups (.ofFleet gpu rest db) where
  jobs := by
    refine ⟨db.jobs.map Fleet.jobRollup, mapM_projected projectJob_ofRow db.jobs, ?_⟩
    rw [← show db.jobRollups = db.jobs.map Fleet.jobRollup from h.jobRollups]
    exact List.Perm.refl _
  workers := by
    refine ⟨db.workers.map Fleet.workerRollup,
      mapM_projected (projectWorker_ofRow gpu rest) db.workers, ?_⟩
    rw [← show db.workerRollups = db.workers.map Fleet.workerRollup from h.workerRollups]
    exact List.Perm.refl _

namespace Sample

def default : TenantId := ⟨"default", Evidence.isTenantId_default⟩

theorem isTenantId_safety : Evidence.isTenantId "safety" = true := by decide

def safety : TenantId := ⟨"safety", isTenantId_safety⟩

def job (t : TenantId) (jobId : UUID) (accelerator : String) : SqlJob :=
  ⟨t, jobId, .queued, accelerator, 1767225600000000, none, 1767225600000000⟩

def worker (t : TenantId) (workerId : String) : SqlWorker :=
  ⟨t, workerId, .obj [("accelerators", .arr [.str "cpu", .str "cuda"]), ("gpus", .arr [.obj []])],
    1767225600000000⟩

/-- A database that has a job and a worker when it meets the rollups. -/
def schema : Schema := ⟨[job default 1 "cpu"], [worker default "w1"], [], [], false⟩

/-- A new job, a job that moves to another tenant and id, a worker that is renamed, a deleted job,
    and the schema once more. -/
def statements : List Statement :=
  [.jobs [.insert (job default 2 "cuda")],
    .jobs [.update 1 fun r => { r with tenantId := safety, jobId := 3, status := .running }],
    .workers [.update (default, "w1") fun r => { r with workerId := "w2" }],
    .jobs [.delete 2], .initializeSchema]

/-- The sample schema is keyed, and has not been initialized. -/
theorem fresh : Fresh schema := ⟨List.nodup_singleton _, List.nodup_singleton _, rfl⟩

end Sample

/-- The worked statements: rows are inserted, changed, moved between tenants and deleted, and the
    rollups follow. -/
theorem rollups_mirror_sources_sample :
    ExactRollups (Runs.run step Sample.schema ([] ++ .initializeSchema :: Sample.statements)) :=
  rollups_mirror_sources Sample.fresh [] Sample.statements rfl

end AEControl.Jobs.Rollups
