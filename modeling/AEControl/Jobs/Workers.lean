/-
  `jobs.py` and the queue together: any number of worker processes on one store.

  A `Pool` is a tenant's queue with the workers' `run_once`s on it.  One event is one call of one
  worker's main path or heartbeat, a turn of a heartbeat's timer, a client's call, or the start of
  a process that takes a worker's place; a call of the store is one transaction, which the
  connection may lose before it, or after it and before the answer.  Worker ids may clash.

  `saved` is the history of the workers' `save_run`s, each under the attempt that made it.  The
  invariant of the pool (`Sound`) says where every attempt stands between lease, evaluation, save
  and completion; `pool_safe` reads off it that no attempt saves twice and that a completed job has
  a run of its own.

  Structure of the proof:
  1. `extends_step`: the queue only moves on, so what an attempt stands on stays
     (`Standing.extends`);
  2. the three ways a pool changes, each with its rule: the queue moves (`Sound.queue_step`), a
     worker moves (`Sound.put`), a worker saves (`Sound.save`);
  3. `Sound.through`: a call that the connection may lose either had no effect or the effect of its
     operation, and in both cases the pool stays sound;
  4. **the crux** is `Sound.lease`: a lease counts the attempt up, so no two workers are ever at one
     attempt, and none is at an attempt that has saved;
  5. `sound_step` goes through the events, and `pool_safe` through the runs.
-/
import AEControl.Evaluation.PassRates
import AEControl.Jobs.Lifecycle
import AEControl.Jobs.Worker

namespace AEControl.Jobs.Workers

open Runs Table Raising RunOnce
open Evaluation (EvaluationRun EvaluationSuite Dataset AgentOutput RunError engineRun)

/-! ## Exceptions -/

/-- The texts of the exceptions that `src` does not word itself. -/
structure Texts where
  store : StoreError → String
  unicodeDecodeError : String

/-- A store's exception as the worker sees it. -/
def Texts.ofStore (texts : Texts) : StoreError → PyException
  | .valueError message => ⟨"ValueError", false, message⟩
  | .runtimeError message => ⟨"RuntimeError", true, message⟩
  | .keyError key => ⟨"KeyError", false, "'" ++ key ++ "'"⟩
  | .validationError field => ⟨"ValidationError", false, texts.store (.validationError field)⟩
  | .tenantQuotaExceeded quota limit observed =>
    ⟨"TenantQuotaExceededError", true,
      s!"tenant quota exceeded: {quota} limit={limit} observed={observed}"⟩
  | .uniqueViolation => ⟨"UniqueViolation", false, texts.store .uniqueViolation⟩
  | .foreignKeyViolation => ⟨"ForeignKeyViolation", false, texts.store .foreignKeyViolation⟩
  | .dataError => ⟨"DataError", false, texts.store .dataError⟩
  | .overflowError => ⟨"OverflowError", false, "date value out of range"⟩

/-- The engine's exception; the runtime's own type comes with its text. -/
def Texts.ofRun (texts : Texts) (runtime : String → PyException) : RunError → PyException
  | .unicodeDecodeError => ⟨"UnicodeDecodeError", false, texts.unicodeDecodeError⟩
  | .valueError message => ⟨"ValueError", false, message⟩
  | .keyError name => ⟨"KeyError", false, "'" ++ name ++ "'"⟩
  | .runtime message => runtime message

/-! ## Calls -/

/-- How a call of the store goes. -/
inductive Delivery where
  | answered
  /-- The transaction commits and the connection is lost before the answer. -/
  | unanswered (e : PyException)
  | refused (e : PyException)

def Delivery.commits : Delivery → Bool
  | refused _ => false
  | _ => true

/-- What the caller gets of a call, and the queue it leaves. -/
def Delivery.through {α : Type} (texts : Texts) (delivery : Delivery)
    (call : Queue → Except StoreError α × Queue) (q : Queue) : Except PyException α × Queue :=
  match delivery with
  | answered => ((call q).1.mapError texts.ofStore, (call q).2)
  | unanswered e => (.error e, (call q).2)
  | refused e => (.error e, q)

/-- What the queue sees of `save_run`. -/
def saveRun (runId : UUID) (q : Queue) : Except StoreError Unit × Queue :=
  (.ok (), Jobs.step q (.saveRun runId))

/-- What `EvaluationEngine().run` works on beside the agent version, and the id its run draws. -/
structure EngineInputs where
  suite : EvaluationSuite
  dataset : Dataset
  outputs : ℕ → Except String AgentOutput
  runId : UUID
  runtime : String → PyException

/-- `EvaluationEngine().run(load_suite(Path(job.suite_path)), job.agent_version)`; a file that
    cannot be loaded raises. -/
def evaluate (texts : Texts) (job : EvaluationJob) (inputs : Except PyException EngineInputs) :
    Except PyException EvaluationRun := do
  let inputs ← inputs
  (engineRun inputs.suite job.agentVersion inputs.runId inputs.outputs inputs.dataset).mapError
    (texts.ofRun inputs.runtime)

/-- The answer to the call a task awaits, as far as it comes from outside the queue. -/
inductive Reply where
  /-- Of the capability provider. -/
  | provider (r : Except PyException WorkerCapabilities)
  /-- Of `register_worker`. -/
  | registered (r : Except PyException Unit)
  | evaluated (inputs : Except PyException EngineInputs)
  /-- Of the job store; `plan` is how PostgreSQL goes through the rows. -/
  | store (plan : ClaimPlan) (delivery : Delivery)

/-- A call of somebody who is not a worker. -/
inductive ClientCall where
  | enqueueJob (request : EnqueueRequest) (jobId : UUID) (createdAt updatedAt : Timestamp)
  | cancelJob (jobId : UUID)
  | saveRun (runId : UUID)
  | advance (microseconds : ℕ)

def ClientCall.op : ClientCall → Op
  | enqueueJob request jobId createdAt updatedAt => .enqueueJob request jobId createdAt updatedAt
  | cancelJob jobId => .cancelJob jobId
  | saveRun runId => .saveRun runId
  | advance microseconds => .advance microseconds

/-! ## The pool -/

/-- A run a worker saved, under the attempt that saved it. -/
structure SavedRun where
  runId : UUID
  agentVersion : String
  jobId : UUID
  attempt : ℕ

structure Pool (ι : Type) where
  queue : Queue
  workers : ι → Worker
  saved : List SavedRun

inductive Event (ι : Type) where
  | client (call : ClientCall)
  | main (i : ι) (reply : Reply)
  | beat (i : ι) (reply : Reply)
  | timeout (i : ι)
  | stopped (i : ι)
  /-- The next turn of `run_forever`, or a new process after the old one died. -/
  | start (i : ι) (capabilities : WorkerCapabilities)

section
variable {ι : Type} [DecidableEq ι]

/-- Worker `i` goes on to `w`, on the queue `q`. -/
def Pool.put (s : Pool ι) (i : ι) (w : Worker) (q : Queue) : Pool ι :=
  { s with queue := q, workers := Function.update s.workers i w }

variable (conf : ι → EvaluationWorker) (texts : Texts)

/-- The call the main path of worker `i` awaits. -/
def mainStep (s : Pool ι) (i : ι) (reply : Reply) : Pool ι :=
  let o := conf i
  let w := s.workers i
  let next := fun answer => RunOnce.step o w (.main answer)
  match w.phase, reply with
  | .refreshing, .provider r => s.put i (next (.capabilities r)) s.queue
  | .registering _, .registered r => s.put i (next (.done r)) s.queue
  | .leasing capabilities, .store plan delivery =>
    let (r, q) := delivery.through texts
      (leaseJob o.workerId o.leaseSeconds (some capabilities) plan) s.queue
    s.put i (next (.leased r)) q
  | .attempt job .evaluating _, .evaluated inputs =>
    s.put i (next (.evaluated (evaluate texts job inputs))) s.queue
  | .attempt job (.saving run) _, .store _ delivery =>
    let (r, q) := delivery.through texts (saveRun run.runId) s.queue
    { s.put i (next (.done r)) q with
      saved := if delivery.commits then
          ⟨run.runId, run.agentVersion, job.jobId, job.attempts⟩ :: s.saved
        else s.saved }
  | .attempt job (.completing runId) _, .store _ delivery =>
    let (r, q) := delivery.through texts (completeJob job.jobId o.workerId runId) s.queue
    s.put i (next (.job r)) q
  | .attempt job (.failing message) _, .store _ delivery =>
    let (r, q) := delivery.through texts (failJob job.jobId o.workerId message) s.queue
    s.put i (next (.job r)) q
  | .attempt job .getting _, .store _ delivery =>
    let (r, q) := delivery.through texts (fun q => (getJob job.jobId q, q)) s.queue
    s.put i (next (.job r)) q
  | _, _ => s

/-- The call the heartbeat of worker `i` awaits. -/
def beatStep (s : Pool ι) (i : ι) (reply : Reply) : Pool ι :=
  let o := conf i
  let w := s.workers i
  let next := fun answer => RunOnce.step o w (.beat answer)
  match w.phase, reply with
  | .attempt _ _ .refreshing, .provider r => s.put i (next (.capabilities r)) s.queue
  | .attempt _ _ (.registering _), .registered r => s.put i (next (.done r)) s.queue
  | .attempt job _ .renewing, .store _ delivery =>
    let (r, q) := delivery.through texts (renewJobLease job.jobId o.workerId o.leaseSeconds) s.queue
    s.put i (next (.done (r.map fun _ => ()))) q
  | _, _ => s

def step (s : Pool ι) : Event ι → Pool ι
  | .client call => { s with queue := Jobs.step s.queue call.op }
  | .main i reply => mainStep conf texts s i reply
  | .beat i reply => beatStep conf texts s i reply
  | .timeout i => s.put i (RunOnce.step (conf i) (s.workers i) .timeout) s.queue
  | .stopped i => s.put i (RunOnce.step (conf i) (s.workers i) .stopped) s.queue
  | .start i capabilities => s.put i ⟨capabilities, .refreshing⟩ s.queue

/-- No jobs, and every worker about to start. -/
def start (now : Timestamp) (quota : Option TenantQuotaLimits) (runs : List UUID)
    (capabilities : ι → WorkerCapabilities) : Pool ι :=
  ⟨emptyQueue now quota runs, fun i => ⟨capabilities i, .refreshing⟩, []⟩

end

/-! ## What a pool keeps -/

/-- Every row of `q` is still in `q'`, with what was fixed at admission; its counter never falls,
    and a final row stays as it is. -/
def Extends (q q' : Queue) : Prop :=
  ∀ j ∈ q.jobs, ∃ j' ∈ q'.jobs, j'.jobId = j.jobId ∧ j'.toJobSpec = j.toJobSpec ∧
    j.attempts ≤ j'.attempts ∧ (j.status.terminal = true → j' = j)

/-- A step of the queue extends it: the final jobs stay as they are, and the others count on. -/
theorem extends_step {q : Queue} (h : Jobs.Invariant q) (op : Op) :
    Extends q (Jobs.step q op) := by
  intro j hj
  generalize hr : (perform q op).1 = r
  generalize hq' : Jobs.step q op = q'
  have heff : Jobs.Effect q op r q' := hr ▸ hq' ▸ perform_effect h.keyed op
  have hsame : j ∈ q'.jobs → ∃ j' ∈ q'.jobs, j'.jobId = j.jobId ∧ j'.toJobSpec = j.toJobSpec ∧
      j.attempts ≤ j'.attempts ∧ (j.status.terminal = true → j' = j) :=
    fun hj' => ⟨j, hj', rfl, rfl, le_refl _, fun _ => rfl⟩
  cases heff with
  | raised e => exact hsame hj
  | idle _ => exact hsame hj
  | enqueued _ _ _ => exact hsame (List.mem_append_left _ hj)
  | changed hrep hch =>
    rcases hrep.mem_cases hj with hj' | rfl
    · exact hsame hj'
    · refine ⟨_, hrep.mem_new, hch.spec_eq.1, hch.spec_eq.2, ?_, fun hterm => ?_⟩
      · rcases hch.attempts with h | ⟨h, -⟩ <;> omega
      · rw [hch.live] at hterm
        cases hterm
  | stored _ => exact hsame hj
  | advanced _ => exact hsame hj

/-- A run id comes into a row with the completion of that row's job. -/
theorem runId_step {q : Queue} (h : Jobs.Invariant q) (op : Op) {j' : EvaluationJob}
    (hj' : j' ∈ (Jobs.step q op).jobs) {runId : UUID} (hrun : j'.runId = some runId) :
    (∃ j ∈ q.jobs, j.jobId = j'.jobId ∧ j.runId = some runId) ∨
      ∃ workerId, op = .completeJob j'.jobId workerId runId := by
  generalize hr : (perform q op).1 = r at *
  generalize hq' : Jobs.step q op = q' at *
  have heff : Jobs.Effect q op r q' := hr ▸ hq' ▸ perform_effect h.keyed op
  cases heff with
  | raised e => exact .inl ⟨j', hj', rfl, hrun⟩
  | idle _ => exact .inl ⟨j', hj', rfl, hrun⟩
  | enqueued _ hfresh _ =>
    rcases List.mem_append.mp hj' with hj' | hj'
    · exact .inl ⟨j', hj', rfl, hrun⟩
    · obtain rfl := List.mem_singleton.mp hj'
      rw [hfresh.2.2.2.2.2] at hrun
      cases hrun
  | @changed j j₁ jobs' hrep hch =>
    refine hrep.forall_mem (P := fun x => x.runId = some runId →
      (∃ j ∈ q.jobs, j.jobId = x.jobId ∧ j.runId = some runId) ∨
        ∃ workerId, op = .completeJob x.jobId workerId runId)
      (fun x hx hxrun => .inl ⟨x, hx, rfl, hxrun⟩) (fun hxrun => ?_) j' hj' hrun
    -- a replaced row was live, so it had no run yet
    have hnone := (h.rows j hrep.mem_old).run_none hch.live
    cases hch with
    | complete hown _ =>
      cases hxrun
      exact .inr ⟨_, rfl⟩
    | lease _ _ _ => exact absurd (hnone.symm.trans hxrun) (Option.some_ne_none _).symm
    | renew _ _ => exact absurd (hnone.symm.trans hxrun) (Option.some_ne_none _).symm
    | fail _ => exact absurd (hnone.symm.trans hxrun) (Option.some_ne_none _).symm
    | cancel _ => exact absurd (hnone.symm.trans hxrun) (Option.some_ne_none _).symm
  | stored _ => exact .inl ⟨j', hj', rfl, hrun⟩
  | advanced _ => exact .inl ⟨j', hj', rfl, hrun⟩

/-- The attempt a worker is at: the job, and which lease of it. -/
def attemptOf : Phase → Option (UUID × ℕ)
  | .attempt job _ _ => some (job.jobId, job.attempts)
  | _ => none

def SavedRun.key (r : SavedRun) : UUID × ℕ := (r.jobId, r.attempt)

/-- Where the main path of an attempt at `job` stands. -/
def MainStanding (q : Queue) (saved : List SavedRun) (job : EvaluationJob) : Main → Prop
  | .evaluating => (job.jobId, job.attempts) ∉ saved.map SavedRun.key
  | .saving run =>
    (job.jobId, job.attempts) ∉ saved.map SavedRun.key ∧ run.agentVersion = job.agentVersion
  | .completing runId => ∃ r ∈ saved, r.runId = runId ∧ r.jobId = job.jobId
  | .finished (.ok job') => job'.status.terminal = true → job' ∈ q.jobs
  | _ => True

def Standing (q : Queue) (saved : List SavedRun) : Phase → Prop
  | .attempt job main _ =>
    (∃ j ∈ q.jobs, j.jobId = job.jobId ∧ j.agentVersion = job.agentVersion ∧ 1 ≤ job.attempts ∧
      job.attempts ≤ j.attempts) ∧ MainStanding q saved job main
  | _ => True

/-- The invariant of the pool. -/
structure Sound {ι : Type} (s : Pool ι) : Prop where
  queue : Jobs.Invariant s.queue
  standing : ∀ i, Standing s.queue s.saved (s.workers i).phase
  /-- No two workers are at the same attempt. -/
  apart : ∀ i k x, attemptOf (s.workers i).phase = some x → attemptOf (s.workers k).phase = some x →
    i = k
  /-- Every saved run belongs to an attempt that was leased. -/
  leased : ∀ r ∈ s.saved, ∃ j ∈ s.queue.jobs, j.jobId = r.jobId ∧ j.agentVersion = r.agentVersion ∧
    1 ≤ r.attempt ∧ r.attempt ≤ j.attempts
  /-- No attempt saves twice. -/
  once : (s.saved.map SavedRun.key).Nodup
  credited : ∀ j ∈ s.queue.jobs, ∀ runId, j.runId = some runId →
    ∃ r ∈ s.saved, r.runId = runId ∧ r.jobId = j.jobId

section
variable {q q' : Queue} {saved : List SavedRun} {phase : Phase}

/-- What an attempt stands on stays in whatever the queue becomes. -/
theorem Standing.extends (h : Standing q saved phase) (hext : Extends q q') :
    Standing q' saved phase := by
  cases phase with
  | attempt job main heartbeat =>
    obtain ⟨⟨j, hj, hid, hversion, hpos, hle⟩, hmain⟩ := h
    obtain ⟨j', hj', hid', hspec, hle', -⟩ := hext j hj
    refine ⟨⟨j', hj', hid'.trans hid, ?_, hpos, by omega⟩, ?_⟩
    · rw [hspec, hversion]
    · cases main with
      | finished r =>
        cases r with
        | error e => trivial
        | ok job' =>
          intro hterm
          obtain ⟨j₁, hj₁, -, -, -, hfinal⟩ := hext job' (hmain hterm)
          rw [← hfinal hterm]
          exact hj₁
      | _ => exact hmain
  | _ => trivial

/-- A save by another attempt. -/
theorem Standing.cons (h : Standing q saved phase) {r : SavedRun}
    (hother : attemptOf phase ≠ some r.key) : Standing q (r :: saved) phase := by
  cases phase with
  | attempt job main heartbeat =>
    have hne : (job.jobId, job.attempts) ≠ r.key := fun he => hother (congrArg some he)
    have hfresh : (job.jobId, job.attempts) ∉ saved.map SavedRun.key →
        (job.jobId, job.attempts) ∉ (r :: saved).map SavedRun.key := fun hno hmem =>
      (List.mem_cons.mp hmem).elim hne hno
    refine ⟨h.1, ?_⟩
    have hmain := h.2
    cases main with
    | evaluating => exact hfresh hmain
    | saving run => exact ⟨hfresh hmain.1, hmain.2⟩
    | completing runId =>
      obtain ⟨x, hx, hrest⟩ := hmain
      exact ⟨x, List.mem_cons_of_mem _ hx, hrest⟩
    | finished result => cases result <;> exact hmain
    | _ => trivial
  | _ => trivial

end

section
variable {ι : Type} {s : Pool ι}

/-- **The queue moves.**  An operation keeps the pool sound when a job it completes gets a run that
    was saved for it. -/
theorem Sound.queue_step (h : Sound s) (op : Op)
    (hcomplete : ∀ jobId workerId runId, op = .completeJob jobId workerId runId →
      ∃ r ∈ s.saved, r.runId = runId ∧ r.jobId = jobId) :
    Sound { s with queue := Jobs.step s.queue op } where
  queue := invariant_step h.queue op
  standing i := (h.standing i).extends (extends_step h.queue op)
  apart := h.apart
  leased r hr := by
    obtain ⟨j, hj, hid, hversion, hpos, hle⟩ := h.leased r hr
    obtain ⟨j', hj', hid', hspec, hle', -⟩ := extends_step h.queue op j hj
    refine ⟨j', hj', hid'.trans hid, ?_, hpos, by omega⟩
    rw [hspec, hversion]
  once := h.once
  credited j' hj' runId hrun := by
    rcases runId_step h.queue op hj' hrun with ⟨j, hj, hid, hold⟩ | ⟨workerId, hop⟩
    · rw [← hid]
      exact h.credited j hj runId hold
    · exact hcomplete _ _ _ hop

variable [DecidableEq ι]

/-- Workers stay apart when one of them moves to an attempt nobody else is at. -/
theorem apart_update {workers : ι → Worker} {i : ι} {w : Worker}
    (h : ∀ i k x, attemptOf (workers i).phase = some x → attemptOf (workers k).phase = some x →
      i = k)
    (hw : ∀ x, attemptOf w.phase = some x → ∀ k, k ≠ i → attemptOf (workers k).phase ≠ some x) :
    ∀ k l x, attemptOf (Function.update workers i w k).phase = some x →
      attemptOf (Function.update workers i w l).phase = some x → k = l := by
  intro k l x hx hx'
  by_cases hk : k = i
  · by_cases hl : l = i
    · exact hk.trans hl.symm
    · subst hk
      rw [Function.update_self] at hx
      rw [Function.update_of_ne hl] at hx'
      exact absurd hx' (hw x hx l hl)
  · rw [Function.update_of_ne hk] at hx
    by_cases hl : l = i
    · subst hl
      rw [Function.update_self] at hx'
      exact absurd hx (hw x hx' k hk)
    · rw [Function.update_of_ne hl] at hx'
      exact h k l x hx hx'

/-- **A worker moves.**  Its new phase must hold of the queue, and no other worker may be at its
    attempt. -/
theorem Sound.put (h : Sound s) {i : ι} {w : Worker} (hw : Standing s.queue s.saved w.phase)
    (hapart : ∀ x, attemptOf w.phase = some x →
      ∀ k, k ≠ i → attemptOf (s.workers k).phase ≠ some x) :
    Sound (s.put i w s.queue) where
  queue := h.queue
  standing k := by
    by_cases hk : k = i
    · subst hk
      simpa [Pool.put] using hw
    · simpa [Pool.put, Function.update_of_ne hk] using h.standing k
  apart := apart_update h.apart hapart
  leased := h.leased
  once := h.once
  credited := h.credited

/-- A worker that leaves its attempt or stays at it. -/
theorem Sound.put_same (h : Sound s) {i : ι} {w : Worker} (hw : Standing s.queue s.saved w.phase)
    (hsame : attemptOf w.phase = none ∨ attemptOf w.phase = attemptOf (s.workers i).phase) :
    Sound (s.put i w s.queue) := by
  refine h.put hw fun x hx k hk hkx => hk ?_
  rcases hsame with hnone | hsame
  · rw [hnone] at hx
    cases hx
  · exact h.apart k i x hkx (hsame ▸ hx)

/-- **A worker saves.**  Its attempt has not saved yet, and has no other worker at it. -/
theorem Sound.save (h : Sound s) {i : ι} {job : EvaluationJob} {run : EvaluationRun}
    {heartbeat : Heartbeat} (hphase : (s.workers i).phase = .attempt job (.saving run) heartbeat)
    {w : Worker} {main : Main} (hw : w.phase = .attempt job main heartbeat)
    (hmain : MainStanding s.queue
      (⟨run.runId, run.agentVersion, job.jobId, job.attempts⟩ :: s.saved) job main) :
    Sound { s.put i w s.queue with
      saved := ⟨run.runId, run.agentVersion, job.jobId, job.attempts⟩ :: s.saved } := by
  have hstanding := h.standing i
  rw [hphase] at hstanding
  obtain ⟨⟨j, hj, hid, hversion, hpos, hle⟩, hfresh, hrun⟩ := hstanding
  have hat : attemptOf (s.workers i).phase = some (job.jobId, job.attempts) := by rw [hphase]; rfl
  have hother : ∀ k, k ≠ i → attemptOf (s.workers k).phase ≠ some (job.jobId, job.attempts) :=
    fun k hk hkx => hk (h.apart k i _ hkx hat)
  constructor
  · exact h.queue
  · intro k
    by_cases hk : k = i
    · subst hk
      show Standing _ _ (Function.update s.workers k w k).phase
      rw [Function.update_self, hw]
      exact ⟨⟨j, hj, hid, hversion, hpos, hle⟩, hmain⟩
    · show Standing _ _ (Function.update s.workers i w k).phase
      rw [Function.update_of_ne hk]
      exact (h.standing k).cons (hother k hk)
  · refine apart_update h.apart fun x hx k hk => ?_
    rw [hw] at hx
    cases hx
    exact hother k hk
  · intro r hr
    rcases List.mem_cons.mp hr with rfl | hr
    · exact ⟨j, hj, hid, hversion.trans hrun.symm, hpos, hle⟩
    · exact h.leased r hr
  · exact List.nodup_cons.mpr ⟨hfresh, h.once⟩
  · intro j' hj' runId hrunId
    obtain ⟨r, hr, hrest⟩ := h.credited j' hj' runId hrunId
    exact ⟨r, List.mem_cons_of_mem _ hr, hrest⟩

end

/-! ## Steps of a pool -/

section
variable {texts : Texts} {delivery : Delivery} {q : Queue} {α : Type}
  {call : Queue → Except StoreError α × Queue}

/-- A call that goes through a delivery leaves the queue as it was, or as the operation does. -/
theorem through_queue (op : Op) (hcall : (call q).2 = Jobs.step q op) :
    (delivery.through texts call q).2 = q ∨
      (delivery.through texts call q).2 = Jobs.step q op := by
  cases delivery with
  | answered => exact .inr hcall
  | unanswered e => exact .inr hcall
  | refused e => exact .inl rfl

/-- An answer is the answer of the transaction that was committed. -/
theorem through_ok {a : α} (h : (delivery.through texts call q).1 = .ok a) :
    (call q).1 = .ok a ∧ (delivery.through texts call q).2 = (call q).2 := by
  cases delivery with
  | answered => exact ⟨mapError_ok.mp h, rfl⟩
  | unanswered e => cases h
  | refused e => cases h

/-- **A call through a delivery keeps the pool sound**, if what it completes has been saved. -/
theorem Sound.through {ι : Type} {s : Pool ι} (h : Sound s)
    {call : Queue → Except StoreError α × Queue} (op : Op)
    (hcall : (call s.queue).2 = Jobs.step s.queue op)
    (hcomplete : ∀ jobId workerId runId, op = .completeJob jobId workerId runId →
      ∃ r ∈ s.saved, r.runId = runId ∧ r.jobId = jobId) :
    Sound { s with queue := (delivery.through texts call s.queue).2 } := by
  have hcases : (delivery.through texts call s.queue).2 = s.queue ∨
      (delivery.through texts call s.queue).2 = Jobs.step s.queue op := through_queue op hcall
  rcases hcases with hq | hq
  · rw [hq]
    exact h
  · rw [hq]
    exact h.queue_step op hcomplete

end

/-- The row an operation answers with is in the queue it leaves. -/
theorem mem_answer {q : Queue} (h : Jobs.Invariant q) (op : Op) {j : EvaluationJob}
    (hj : (perform q op).1 = .ok (some j)) : j ∈ (Jobs.step q op).jobs := by
  have heff := perform_effect h.keyed op
  rw [hj] at heff
  generalize Jobs.step q op = q' at *
  cases heff with
  | enqueued _ _ _ => exact List.mem_append_right _ (List.mem_singleton.mpr rfl)
  | changed hrep _ => exact hrep.mem_new

/-- A leased job is the row as it was, one attempt later. -/
theorem lease_answer {q : Queue} (h : Jobs.Invariant q) {workerId : String} {leaseSeconds : Int}
    {capabilities : Option WorkerCapabilities} {plan : ClaimPlan} {j' : EvaluationJob}
    (hj' : (leaseJob workerId leaseSeconds capabilities plan q).1 = .ok (some j')) :
    ∃ j ∈ q.jobs, j'.jobId = j.jobId ∧ j'.attempts = j.attempts + 1 := by
  rcases leaseJob_cases h.keyed workerId leaseSeconds capabilities plan with
    ⟨-, hl⟩ | ⟨-, ⟨e, -, hl⟩ | ⟨-, hl⟩ | ⟨j, hclaim, ⟨-, hl⟩ | ⟨-, jobs', -, hl⟩⟩⟩
  · rw [hl] at hj'; cases hj'
  · rw [hl] at hj'; cases hj'
  · rw [hl] at hj'; cases hj'
  · rw [hl] at hj'; cases hj'
  · rw [hl] at hj'
    cases hj'
    exact ⟨j, (nextClaim_some hclaim).1, rfl, rfl⟩

/-- A job that is read is one of the queue. -/
theorem mem_getJob {q : Queue} {jobId : UUID} {j : EvaluationJob} (h : getJob jobId q = .ok j) :
    j ∈ q.jobs := by
  unfold getJob at h
  split at h
  · rename_i hfound
    cases h
    exact (lookup_some hfound).1
  · cases h

/-- A run of the engine has the agent version of the job. -/
theorem agentVersion_evaluate {texts : Texts} {job : EvaluationJob}
    {inputs : Except PyException EngineInputs} {run : EvaluationRun}
    (h : evaluate texts job inputs = .ok run) : run.agentVersion = job.agentVersion := by
  obtain ⟨inputs, -, h⟩ := bind_ok h
  obtain ⟨caseResults, -, hrun⟩ := bind_ok (mapError_ok.mp h)
  cases hrun
  rfl

section
variable {o : EvaluationWorker} {w : Worker}

/-- In an attempt a main turn is a step of the attempt. -/
theorem phase_main {job : EvaluationJob} {main : Main} {heartbeat : Heartbeat}
    (h : w.phase = .attempt job main heartbeat) (answer : Answer) :
    (RunOnce.step o w (.main answer)).phase = .attempt job (main.step answer) heartbeat := by
  unfold RunOnce.step
  rw [h]

/-- Between the attempts a main turn begins the next one. -/
theorem phase_begin (h : attemptOf w.phase = none) (answer : Answer) :
    (RunOnce.step o w (.main answer)).phase = begin o w.capabilities w.phase answer := by
  obtain ⟨capabilities, phase⟩ := w
  cases phase with
  | refreshing => cases answer <;> rfl
  | attempt job main heartbeat => cases h
  | _ => rfl

/-- The heartbeat and its timer leave the main path alone. -/
theorem standing_beat {q : Queue} {saved : List SavedRun} (h : Standing q saved w.phase)
    (event : RunOnce.Event) (hevent : ∀ answer, event ≠ .main answer) :
    Standing q saved (RunOnce.step o w event).phase ∧
      attemptOf (RunOnce.step o w event).phase = attemptOf w.phase := by
  obtain ⟨capabilities, phase⟩ := w
  cases event with
  | main answer => exact absurd rfl (hevent answer)
  | timeout => cases phase <;> exact ⟨h, rfl⟩
  | stopped => cases phase <;> exact ⟨h, rfl⟩
  | beat answer => cases phase <;> exact ⟨h, rfl⟩

end

section
variable {ι : Type} [DecidableEq ι] {conf : ι → EvaluationWorker} {texts : Texts} {s : Pool ι}

/-- The main path of an attempt goes on. -/
theorem Sound.put_main (h : Sound s) {i : ι} {job : EvaluationJob} {main : Main}
    {heartbeat : Heartbeat} (hphase : (s.workers i).phase = .attempt job main heartbeat)
    (answer : Answer) (hmain : MainStanding s.queue s.saved job (main.step answer)) :
    Sound (s.put i (RunOnce.step (conf i) (s.workers i) (.main answer)) s.queue) := by
  have hnext := phase_main (o := conf i) hphase answer
  have hstanding := h.standing i
  rw [hphase] at hstanding
  refine h.put_same ?_ (.inr ?_)
  · rw [hnext]
    exact ⟨hstanding.1, hmain⟩
  · rw [hnext, hphase]
    rfl

/-- A call that may end the attempt with the job it returns. -/
theorem Sound.put_job {i : ι} {job : EvaluationJob} {main : Main} {heartbeat : Heartbeat}
    (hphase : (s.workers i).phase = .attempt job main heartbeat)
    {delivery : Delivery} {call : Queue → Except StoreError EvaluationJob × Queue}
    (hqueue : Sound { s with queue := (delivery.through texts call s.queue).2 })
    (hcall : ∀ job', (call s.queue).1 = .ok job' → job' ∈ (call s.queue).2.jobs)
    (hmain : ∀ r, (∀ job', r = .ok job' → job' ∈ (delivery.through texts call s.queue).2.jobs) →
      MainStanding (delivery.through texts call s.queue).2 s.saved job (main.step (.job r))) :
    Sound (s.put i (RunOnce.step (conf i) (s.workers i)
      (.main (.job (delivery.through texts call s.queue).1)))
      (delivery.through texts call s.queue).2) := by
  refine hqueue.put_main hphase _ (hmain _ fun job' hr => ?_)
  obtain ⟨hjob, hq⟩ := through_ok hr
  rw [hq]
  exact hcall job' hjob

/-- A worker that has no attempt yet gets one from `lease_job` only. -/
theorem Sound.put_begin (h : Sound s) {i : ι} {w : Worker} (hw : attemptOf w.phase = none) :
    Sound (s.put i w s.queue) := by
  refine h.put_same ?_ (.inl hw)
  cases hphase : w.phase with
  | attempt job main heartbeat =>
    rw [hphase] at hw
    cases hw
  | _ => trivial

/-- Leasing keeps the pool sound: the job is leased under a new attempt. -/
theorem Sound.lease (h : Sound s) {i : ι} {capabilities : WorkerCapabilities}
    (hphase : (s.workers i).phase = .leasing capabilities) (plan : ClaimPlan)
    (delivery : Delivery) :
    Sound (mainStep conf texts s i (.store plan delivery)) := by
  unfold mainStep
  simp only [hphase]
  let call := leaseJob (conf i).workerId (conf i).leaseSeconds (some capabilities) plan
  have hqueue : Sound { s with queue := (delivery.through texts call s.queue).2 } :=
    h.through (.leaseJob _ _ _ plan) rfl (fun _ _ _ hop => by cases hop)
  have hstep : ∀ r, (RunOnce.step (conf i) (s.workers i) (.main (.leased r))).phase =
      begin (conf i) (s.workers i).capabilities (.leasing capabilities) (.leased r) := by
    intro r
    rw [phase_begin (by rw [hphase]; rfl), hphase]
  show Sound (Pool.put _ i (RunOnce.step (conf i) (s.workers i)
    (.main (.leased (delivery.through texts call s.queue).1))) _)
  cases hr : (delivery.through texts call s.queue).1 with
  | error e => exact hqueue.put_begin (by rw [hstep]; rfl)
  | ok leased =>
    cases leased with
    | none => exact hqueue.put_begin (by rw [hstep]; rfl)
    | some job =>
      obtain ⟨hjob, hq⟩ := through_ok hr
      have hmem := mem_answer h.queue (.leaseJob _ _ _ plan) hjob
      obtain ⟨j, hj, hid, hattempts⟩ := lease_answer h.queue hjob
      -- the attempt is one more than anybody has seen of this job
      have hrow : ∀ j' ∈ s.queue.jobs, j'.jobId = job.jobId → j' = j := fun j' hj' he =>
        Keyed.eq_of_key h.queue.keyed hj' hj (he.trans hid)
      refine hqueue.put ?_ ?_
      · rw [hstep]
        refine ⟨⟨job, hq ▸ hmem, rfl, rfl, by omega, le_refl _⟩, fun hsaved => ?_⟩
        obtain ⟨r, hr, hkey⟩ := List.mem_map.mp hsaved
        obtain ⟨hrid, hrattempt⟩ := Prod.mk.inj hkey
        obtain ⟨j', hj', hid', -, -, hle⟩ := h.leased r hr
        rw [hrow j' hj' (hid'.trans hrid)] at hle
        omega
      · intro x hx k _ hkx
        rw [hstep] at hx
        cases hx
        have hk := h.standing k
        cases hkphase : (s.workers k).phase with
        | attempt job' main heartbeat =>
          rw [hkphase] at hk
          obtain ⟨⟨j', hj', hid', -, -, hle⟩, -⟩ := hk
          have hkx : attemptOf (s.workers k).phase = some (job.jobId, job.attempts) := hkx
          rw [hkphase] at hkx
          obtain ⟨hkid, hkattempts⟩ := Prod.mk.inj (Option.some.inj hkx)
          rw [hrow j' hj' (hid'.trans hkid)] at hle
          omega
        | _ =>
          have hkx : attemptOf (s.workers k).phase = some (job.jobId, job.attempts) := hkx
          rw [hkphase] at hkx
          cases hkx

/-- The calls of the `try` of `run_once`, from the evaluation to the job it ends with. -/
theorem Sound.attemptStep (h : Sound s) {i : ι} {job : EvaluationJob} {main : Main}
    {heartbeat : Heartbeat} (hphase : (s.workers i).phase = .attempt job main heartbeat)
    (reply : Reply) : Sound (mainStep conf texts s i reply) := by
  have hstanding := h.standing i
  rw [hphase] at hstanding
  cases main with
  | evaluating =>
    unfold Workers.mainStep
    simp only [hphase]
    cases reply with
    | evaluated inputs =>
      refine h.put_main hphase _ ?_
      cases hrun : evaluate texts job inputs with
      | error e => trivial
      | ok run => exact ⟨hstanding.2, agentVersion_evaluate hrun⟩
    | _ => exact h
  | saving run =>
    unfold Workers.mainStep
    simp only [hphase]
    cases reply with
    | store plan delivery =>
      have hsaved := h.queue_step (.saveRun run.runId) (fun _ _ _ hop => by cases hop)
      cases delivery with
      | answered =>
        exact hsaved.save hphase (phase_main hphase _) ⟨_, List.mem_cons_self, rfl, rfl⟩
      | unanswered e => exact hsaved.save hphase (phase_main hphase _) trivial
      | refused e => exact h.put_main hphase _ trivial
    | _ => exact h
  | completing runId =>
    unfold Workers.mainStep
    simp only [hphase]
    cases reply with
    | store plan delivery =>
      refine Sound.put_job hphase (h.through (.completeJob _ _ _) rfl ?_) (fun job' hjob => ?_)
        fun r hr => ?_
      · rintro _ _ _ ⟨⟩
        exact hstanding.2
      · exact mem_answer h.queue (.completeJob _ _ _) (congrArg (some <$> ·) hjob)
      · cases r with
        | error e => trivial
        | ok job' => exact fun _ => hr job' rfl
    | _ => exact h
  | failing message =>
    unfold Workers.mainStep
    simp only [hphase]
    cases reply with
    | store plan delivery =>
      refine Sound.put_job hphase (h.through (.failJob _ _ _) rfl fun _ _ _ hop => by cases hop)
        (fun job' hjob => ?_) fun r hr => ?_
      · exact mem_answer h.queue (.failJob _ _ _) (congrArg (some <$> ·) hjob)
      · cases r with
        | error e =>
          show MainStanding _ _ _ (if e.runtime then Main.getting else .finished (.error e))
          split <;> trivial
        | ok job' => exact fun _ => hr job' rfl
    | _ => exact h
  | getting =>
    unfold Workers.mainStep
    simp only [hphase]
    cases reply with
    | store plan delivery =>
      have hsame : (delivery.through texts (fun q => (getJob job.jobId q, q)) s.queue).2 =
          s.queue := by
        cases delivery <;> rfl
      have hqueue : Sound { s with queue :=
          (delivery.through texts (fun q => (getJob job.jobId q, q)) s.queue).2 } := by
        rw [hsame]
        exact h
      refine Sound.put_job hphase hqueue (fun job' hjob => mem_getJob hjob) fun r hr => ?_
      cases r with
      | error e => trivial
      | ok job' => exact fun _ => hr job' rfl
    | _ => exact h
  | finished r =>
    unfold Workers.mainStep
    simp only [hphase]
    exact h

/-- A step of a worker's main path keeps the pool sound, whatever its phase is. -/
theorem Sound.mainStep (h : Sound s) (i : ι) (reply : Reply) :
    Sound (mainStep conf texts s i reply) := by
  cases hphase : (s.workers i).phase with
  | refreshing =>
    unfold Workers.mainStep
    simp only [hphase]
    cases reply with
    | provider r =>
      refine h.put_begin ?_
      rw [phase_begin (by rw [hphase]; rfl), hphase]
      cases hr : refreshCapabilities (conf i) (s.workers i).capabilities r with
      | error e => simp only [begin, hr, attemptOf]
      | ok capabilities => simp only [begin, hr, attemptOf]
    | _ => exact h
  | registering capabilities =>
    unfold Workers.mainStep
    simp only [hphase]
    cases reply with
    | registered r =>
      refine h.put_begin ?_
      rw [phase_begin (by rw [hphase]; rfl), hphase]
      cases r <;> rfl
    | _ => exact h
  | leasing capabilities =>
    cases reply with
    | store plan delivery => exact h.lease hphase plan delivery
    | _ =>
      unfold Workers.mainStep
      simp only [hphase]
      exact h
  | attempt job main heartbeat => exact h.attemptStep hphase reply
  | _ =>
    unfold Workers.mainStep
    simp only [hphase]
    exact h

/-- A step of a worker's heartbeat keeps the pool sound. -/
theorem Sound.beatStep (h : Sound s) (i : ι) (reply : Reply) :
    Sound (beatStep conf texts s i reply) := by
  have hput : ∀ {t : Pool ι} (ht : Sound t) (answer : Answer), Sound
      (t.put i (RunOnce.step (conf i) (t.workers i) (.beat answer)) t.queue) := by
    intro t ht answer
    obtain ⟨hw, hsame⟩ := standing_beat (o := conf i) (ht.standing i) (.beat answer)
      (fun _ h => by cases h)
    exact ht.put_same hw (.inr hsame)
  unfold Workers.beatStep
  dsimp only
  split
  · exact hput h _
  · exact hput h _
  · rename_i job _ _ delivery _
    have hqueue : Sound { s with queue := (delivery.through texts
        (renewJobLease job.jobId (conf i).workerId (conf i).leaseSeconds) s.queue).2 } :=
      h.through (.renewJobLease _ _ _) rfl fun _ _ _ hop => by cases hop
    exact hput hqueue _
  · exact h

/-- **Step lemma.**  Every event keeps the pool sound. -/
theorem sound_step (h : Sound s) (event : Event ι) : Sound (step conf texts s event) := by
  cases event with
  | client call =>
    refine h.queue_step call.op fun _ _ _ hop => ?_
    cases call <;> cases hop
  | main i reply => exact h.mainStep i reply
  | beat i reply => exact h.beatStep i reply
  | timeout i =>
    obtain ⟨hw, hsame⟩ := standing_beat (o := conf i) (h.standing i) .timeout
      (fun _ h => by cases h)
    exact h.put_same hw (.inr hsame)
  | stopped i =>
    obtain ⟨hw, hsame⟩ := standing_beat (o := conf i) (h.standing i) .stopped
      (fun _ h => by cases h)
    exact h.put_same hw (.inr hsame)
  | start i capabilities => exact h.put_begin rfl

end

/-! ## Runs of a pool -/

section
variable {ι : Type} {s : Pool ι}

/-- A pool that has not begun is sound. -/
theorem sound_start (now : Timestamp) (quota : Option TenantQuotaLimits) (runs : List UUID)
    (capabilities : ι → WorkerCapabilities) : Sound (start now quota runs capabilities) where
  queue := invariant_empty now quota runs
  standing _ := trivial
  apart _ _ _ hx _ := by cases hx
  leased r hr := absurd hr List.not_mem_nil
  once := List.nodup_nil
  credited j hj := absurd hj List.not_mem_nil

/-- The attempts that saved are among the attempts that were leased. -/
theorem Sound.saved_le (h : Sound s) {j : EvaluationJob} (hj : j ∈ s.queue.jobs) :
    (s.saved.filter (·.jobId = j.jobId)).length ≤ j.attempts := by
  let saved := s.saved.filter (·.jobId = j.jobId)
  have hmem : ∀ r ∈ saved, r ∈ s.saved ∧ r.jobId = j.jobId := fun r hr =>
    ⟨(List.mem_filter.mp hr).1, of_decide_eq_true (List.mem_filter.mp hr).2⟩
  have hnodup : (saved.map (·.attempt)).Nodup := by
    refine List.Nodup.map_on (fun r hr r' hr' he => ?_) ((h.once.of_map _).filter _)
    refine List.inj_on_of_nodup_map h.once (hmem r hr).1 (hmem r' hr').1 ?_
    exact Prod.ext ((hmem r hr).2.trans (hmem r' hr').2.symm) he
  have hsub : saved.map (·.attempt) ⊆ List.range' 1 j.attempts := by
    intro n hn
    obtain ⟨r, hr, rfl⟩ := List.mem_map.mp hn
    obtain ⟨j', hj', hid, -, hpos, hle⟩ := h.leased r (hmem r hr).1
    obtain rfl := Keyed.eq_of_key h.queue.keyed hj' hj (hid.trans (hmem r hr).2)
    rw [List.mem_range'_1]
    omega
  have hlength := (List.subperm_of_subset hnodup hsub).length_le
  rw [List.length_map, List.length_range'] at hlength
  exact hlength

/-- The run of a completed job was saved in an attempt at this job, under its agent version. -/
theorem Sound.run_saved (h : Sound s) {j : EvaluationJob} (hj : j ∈ s.queue.jobs) {runId : UUID}
    (hrun : j.runId = some runId) :
    ∃ r ∈ s.saved, r.runId = runId ∧ r.jobId = j.jobId ∧ r.agentVersion = j.agentVersion := by
  obtain ⟨r, hr, hid, hjob⟩ := h.credited j hj runId hrun
  obtain ⟨j', hj', hid', hversion, -, -⟩ := h.leased r hr
  obtain rfl := Keyed.eq_of_key h.queue.keyed hj' hj (hid'.trans hjob)
  exact ⟨r, hr, hid, hjob, hversion.symm⟩

/-- A final job that `run_once` returns is the row the store has. -/
theorem Sound.returned_mem (h : Sound s) {i : ι} {job : EvaluationJob}
    (hreturned : outcome (s.workers i).phase = some (.returned (some job)))
    (hterm : job.status.terminal = true) : job ∈ s.queue.jobs := by
  have hstanding := h.standing i
  unfold outcome at hreturned
  split at hreturned
  · cases hreturned
  · cases hreturned
  · rename_i job' r hphase
    rw [hphase] at hstanding
    cases r with
    | error e => cases hreturned
    | ok returned =>
      cases hreturned
      exact hstanding.2 hterm
  · cases hreturned
  · cases hreturned

end

/-- **Safety of the worker pool.**  However many workers run, whatever calls are lost and whichever
    processes die: no attempt saves two runs, so that no job has more runs saved for it than
    attempts, nor more attempts than it may have; a completed job has a run that an attempt at this very job saved, under its agent version;
    a final job a worker returns is what the store has; and while the ids drawn for runs differ, no
    two jobs have one run. -/
theorem pool_safe {ι : Type} [DecidableEq ι] (conf : ι → EvaluationWorker) (texts : Texts)
    (now : Timestamp) (quota : Option TenantQuotaLimits) (runs : List UUID)
    (capabilities : ι → WorkerCapabilities) (events : List (Event ι)) :
    let s := run (step conf texts) (start now quota runs capabilities) events
    (s.saved.map fun r => (r.jobId, r.attempt)).Nodup ∧
    (∀ j ∈ s.queue.jobs,
      (s.saved.filter (·.jobId = j.jobId)).length ≤ j.attempts ∧ j.attempts ≤ j.maxAttempts ∧
      ∀ runId, j.runId = some runId →
        ∃ r ∈ s.saved, r.runId = runId ∧ r.jobId = j.jobId ∧ r.agentVersion = j.agentVersion) ∧
    (∀ i job, outcome (s.workers i).phase = some (.returned (some job)) →
      job.status.terminal = true → job ∈ s.queue.jobs) ∧
    ((s.saved.map (·.runId)).Nodup → ∀ j ∈ s.queue.jobs, ∀ j' ∈ s.queue.jobs,
      j.runId ≠ none → j.runId = j'.runId → j = j') := by
  intro s
  have h : Sound s := run_invariant (step conf texts) Sound (fun _ event hs => sound_step hs event)
    (sound_start now quota runs capabilities) events
  refine ⟨h.once,
    fun j hj => ⟨h.saved_le hj, (h.queue.rows j hj).attempts_le, fun _ => h.run_saved hj⟩,
    fun _ _ => h.returned_mem, fun hnodup j hj j' hj' hne heq => ?_⟩
  obtain ⟨runId, hrun⟩ := Option.ne_none_iff_exists'.mp hne
  obtain ⟨r, hr, hid, hjob, -⟩ := h.run_saved hj hrun
  obtain ⟨r', hr', hid', hjob', -⟩ := h.run_saved hj' (heq ▸ hrun)
  obtain rfl : r = r' := List.inj_on_of_nodup_map hnodup hr hr' (hid.trans hid'.symm)
  exact Keyed.eq_of_key h.queue.keyed hj hj' (hjob.symm.trans hjob')

end AEControl.Jobs.Workers
