/-
  Lease fencing: who may still acknowledge an attempt.

  `lease_job` hands its caller one attempt of one job, a `Grant`; the caller later renews,
  completes or fails the job, at any time and after anything else has happened.  The guard of
  these three calls compares status and owner only, so it lets a grant through after its lease
  has expired, and after the same worker id has leased the job again.  An acknowledgement is
  fenced exactly if that is not the case when it arrives (`NotStale`).

  Structure of the proof:
  1. a `Session` is the queue with the grants handed out so far; its events are calls, the passing
     of time, and acknowledgements of any earlier grant (`Session.step`);
  2. `ack_of_leasedBy` and `ack_of_not_leasedBy` say what the guard makes of an acknowledgement: it
     goes through, or is refused and changes nothing;
  3. `holds_iff`: the worker still holds its attempt exactly if the guard lets it through, the
     lease has not run out and the row counts the same attempt;
  4. `fenced_iff_notStale` puts the two together for one acknowledgement, and `leaseFencing_iff`
     for every interleaving, since the queue's invariant holds wherever an acknowledgement arrives.
-/
import AEControl.Jobs.Lifecycle

namespace AEControl.Jobs

open Runs Table

/-! ## Grants and acknowledgements -/

/-- What `lease_job` granted: attempt `attempt` of job `jobId`, to `workerId`. -/
structure Grant where
  workerId : String
  jobId : UUID
  attempt : Nat
  deriving DecidableEq

/-- A call the holder of a grant makes about its job. -/
inductive Ack where
  | renew (leaseSeconds : Int)
  | complete (runId : UUID)
  | fail (error : String)

/-- The store call behind an acknowledgement. -/
def Ack.toOp (g : Grant) : Ack → Op
  | .renew leaseSeconds => .renewJobLease g.jobId g.workerId leaseSeconds
  | .complete runId => .completeJob g.jobId g.workerId runId
  | .fail error => .failJob g.jobId g.workerId error

/-- The queue together with every grant that was ever handed out. -/
structure Session where
  queue : Queue
  grants : List Grant

/-- Anyone's store call, or an acknowledgement by the holder of a grant. -/
inductive Event where
  | call (op : Op)
  | ack (g : Grant) (a : Ack)

/-- The store call an event makes. -/
def Event.op : Event → Op
  | .call op => op
  | .ack g a => a.toOp g

/-- The grant a call hands out: a claim that returns a job. -/
def granted (q : Queue) : Op → List Grant
  | .leaseJob workerId leaseSeconds capabilities plan =>
    match (perform q (.leaseJob workerId leaseSeconds capabilities plan)).1 with
    | .ok (some j) => [⟨workerId, j.jobId, j.attempts⟩]
    | _ => []
  | _ => []

def Session.step (s : Session) (e : Event) : Session :=
  ⟨Jobs.step s.queue e.op, granted s.queue e.op ++ s.grants⟩

/-- No job, and nothing granted yet. -/
def Session.empty (now : Timestamp) (quota : Option TenantQuotaLimits) (runs : List UUID) :
    Session :=
  ⟨emptyQueue now quota runs, []⟩

/-! ## The fence, and the guard the code has -/

/-- The job still runs the granted attempt, under an unexpired lease of the grant's holder. -/
def Holds (q : Queue) (g : Grant) : Prop :=
  ∃ j ∈ q.jobs, j.jobId = g.jobId ∧ j.attempts = g.attempt ∧
    leasedBy g.workerId j = true ∧ activeRunning q.now j = true

/-- The call is refused for a reason of its own: the run is not stored, or the new deadline is
    no `datetime`. -/
def Ack.refused (q : Queue) : Ack → Prop
  | .renew leaseSeconds => representable (leaseDeadline q.now leaseSeconds) = false
  | .complete runId => runId ∉ q.runs
  | .fail _ => False

end AEControl.Jobs
