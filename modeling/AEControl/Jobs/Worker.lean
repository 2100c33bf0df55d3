/-
  `jobs.py`: one `run_once` of `EvaluationWorker`, beside its heartbeat.

  The main path and the heartbeat are two tasks of one event loop.  A `Worker` says which call each
  of them awaits; an event is the answer to one of these calls, or a turn of the heartbeat's timer,
  in any order.  The heartbeat's loop turns a `RuntimeError` into a return and lets every other
  exception through; `run_once` awaits it last, in its `finally`.

  Structure of the proof:
  1. `failure` is what a call of the heartbeat raises at an event.  It ends the heartbeat
     (`step_of_failure`), and nothing else makes it raise (`failure_of_raised`); it is `Harmless` if
     it is the lost lease, or a `RuntimeError` once the main path has told the heartbeat to stop;
  2. **the crux**, `step_iff`: while the heartbeat has raised nothing (`Quiet`), an event lets the
     renewals go on and `run_once` return what its main path has exactly if it is harmless;
  3. a harmless event leaves the heartbeat quiet (`quiet_step`), so `heartbeat_iff` follows for
     whole schedules, by induction on the events (`along_iff`).
-/
import AEControl.Lib.Runs
import AEControl.Evaluation.Compare
import AEControl.Models

namespace AEControl.Jobs.RunOnce

open Evaluation (EvaluationRun)

/-! ## The worker -/

/-- An `Exception`: its type, whether that is a `RuntimeError`, and its text. -/
structure PyException where
  type : String
  runtime : Bool
  text : String
  deriving DecidableEq

/-- `EvaluationWorker`, with or without a capability provider. -/
structure EvaluationWorker where
  workerId : String
  leaseSeconds : ℕ
  hasProvider : Bool
  lease_range : 3 ≤ leaseSeconds

/-- What the main path of an attempt awaits. -/
inductive Main where
  | evaluating
  | saving (run : EvaluationRun)
  | completing (runId : UUID)
  | failing (message : String)
  | getting
  /-- In the `finally`, with what it returns or raises; the heartbeat's stop is set. -/
  | finished (result : Except PyException EvaluationJob)

/-- What the heartbeat awaits, or how it ended. -/
inductive Heartbeat where
  | waiting
  | refreshing
  | registering (capabilities : WorkerCapabilities)
  | renewing
  | returned
  | raised (e : PyException)

/-- Where `run_once` is. -/
inductive Phase where
  | refreshing
  | registering (capabilities : WorkerCapabilities)
  | leasing (capabilities : WorkerCapabilities)
  /-- Over without an attempt: nothing was leased, or a call raised. -/
  | over (result : Except PyException Unit)
  | attempt (job : EvaluationJob) (main : Main) (heartbeat : Heartbeat)

/-- `self.capabilities`, and where `run_once` is. -/
structure Worker where
  capabilities : WorkerCapabilities
  phase : Phase

/-- The answer to a call. -/
inductive Answer where
  /-- The capability provider's. -/
  | capabilities (r : Except PyException WorkerCapabilities)
  /-- `register_worker`, `save_run` and `renew_job_lease`. -/
  | done (r : Except PyException Unit)
  | leased (r : Except PyException (Option EvaluationJob))
  /-- `EvaluationEngine().run`. -/
  | evaluated (r : Except PyException EvaluationRun)
  /-- `complete_job`, `fail_job` and `get_job`. -/
  | job (r : Except PyException EvaluationJob)

inductive Event where
  | main (answer : Answer)
  /-- `wait_for` times out. -/
  | timeout
  /-- `wait_for` sees the stop. -/
  | stopped
  | beat (answer : Answer)

/-! ## Steps -/

/-- `f"{type(error).__name__}: {error}"`. -/
def message (e : PyException) : String := e.type ++ ": " ++ e.text

/-- The `try` of `run_once` and its handler; an answer to another call changes nothing. -/
def Main.step : Main → Answer → Main
  | evaluating, .evaluated (.ok run) => saving run
  | evaluating, .evaluated (.error e) => failing (message e)
  | saving run, .done (.ok _) => completing run.runId
  | saving _, .done (.error e) => failing (message e)
  | completing _, .job (.ok job) => finished (.ok job)
  | completing _, .job (.error e) => failing (message e)
  | failing _, .job (.ok job) => finished (.ok job)
  | failing _, .job (.error e) => if e.runtime then getting else finished (.error e)
  | getting, .job r => finished r
  | main, _ => main

/-- `heartbeat_stop.is_set()`. -/
def Main.stopped : Main → Bool
  | finished _ => true
  | _ => false

variable (o : EvaluationWorker)

/-- `_refresh_capabilities`. -/
def refreshCapabilities (current : WorkerCapabilities) (r : Except PyException WorkerCapabilities) :
    Except PyException WorkerCapabilities :=
  if o.hasProvider then r else .ok current

/-- `except RuntimeError: return`. -/
def Heartbeat.except (e : PyException) : Heartbeat := if e.runtime then returned else raised e

/-- `_heartbeat`, with `stop.is_set()` and `self.capabilities`. -/
def Heartbeat.step (stop : Bool) (current : WorkerCapabilities) : Heartbeat → Event → Heartbeat
  | waiting, .timeout => refreshing
  | waiting, .stopped => if stop then returned else waiting
  | refreshing, .beat (.capabilities r) =>
    match refreshCapabilities o current r with
    | .ok capabilities => registering capabilities
    | .error e => .except e
  | registering _, .beat (.done (.ok _)) => renewing
  | registering _, .beat (.done (.error e)) => .except e
  | renewing, .beat (.done (.ok _)) => if stop then returned else waiting
  | renewing, .beat (.done (.error e)) => .except e
  | heartbeat, _ => heartbeat

/-- `self.capabilities` after a refresh. -/
def refreshed (current : WorkerCapabilities) (r : Except PyException WorkerCapabilities) :
    WorkerCapabilities :=
  match refreshCapabilities o current r with
  | .ok capabilities => capabilities
  | .error _ => current

/-- `run_once` up to the attempt. -/
def begin (current : WorkerCapabilities) : Phase → Answer → Phase
  | .refreshing, .capabilities r =>
    match refreshCapabilities o current r with
    | .ok capabilities => .registering capabilities
    | .error e => .over (.error e)
  | .registering capabilities, .done (.ok _) => .leasing capabilities
  | .registering _, .done (.error e) => .over (.error e)
  | .leasing _, .leased (.ok (some job)) => .attempt job .evaluating .waiting
  | .leasing _, .leased (.ok none) => .over (.ok ())
  | .leasing _, .leased (.error e) => .over (.error e)
  | phase, _ => phase

def step (w : Worker) (event : Event) : Worker :=
  match w.phase, event with
  | .attempt job main heartbeat, .main answer =>
    { w with phase := .attempt job (main.step answer) heartbeat }
  | .attempt job main heartbeat, event =>
    { capabilities := match heartbeat, event with
        | .refreshing, .beat (.capabilities r) => refreshed o w.capabilities r
        | _, _ => w.capabilities
      phase := .attempt job main (heartbeat.step o main.stopped w.capabilities event) }
  | .refreshing, .main (.capabilities r) =>
    ⟨refreshed o w.capabilities r, begin o w.capabilities .refreshing (.capabilities r)⟩
  | phase, .main answer => { w with phase := begin o w.capabilities phase answer }
  | _, _ => w

/-! ## What `run_once` returns -/

/-- The task an exception comes from. -/
inductive Source where
  | main
  | heartbeat
  deriving DecidableEq

inductive Outcome where
  | returned (job : Option EvaluationJob)
  | raised (source : Source) (e : PyException)

/-- What the main path returns or raises. -/
def Outcome.ofMain : Except PyException EvaluationJob → Outcome
  | .ok job => returned (some job)
  | .error e => raised .main e

/-- What `run_once` returns or raises, once both of its tasks are over: an exception of the
    heartbeat comes out of the `finally` in place of what the main path had. -/
def outcome : Phase → Option Outcome
  | .over (.ok _) => some (.returned none)
  | .over (.error e) => some (.raised .main e)
  | .attempt _ (.finished r) .returned => some (.ofMain r)
  | .attempt _ (.finished _) (.raised e) => some (.raised .heartbeat e)
  | _ => none

/-! ## Heartbeat trouble -/

/-- What the call that the heartbeat awaits raises. -/
def failure (w : Worker) (event : Event) : Option PyException :=
  match w.phase, event with
  | .attempt _ _ .refreshing, .beat (.capabilities r) =>
    match refreshCapabilities o w.capabilities r with
    | .ok _ => none
    | .error e => some e
  | .attempt _ _ (.registering _), .beat (.done (.error e)) => some e
  | .attempt _ _ .renewing, .beat (.done (.error e)) => some e
  | _, _ => none

/-- `_leased_job_or_error` of the renewal raised `e`. -/
def leaseLost (w : Worker) (e : PyException) : Bool :=
  match w.phase with
  | .attempt job _ .renewing =>
    e.runtime && e.text = "worker no longer owns the lease for job " ++ job.jobId.str
  | _ => false

/-- The main path of the attempt is in its `finally`. -/
def stopSet (w : Worker) : Bool :=
  match w.phase with
  | .attempt _ main _ => main.stopped
  | _ => false

/-- After a failure other than a lost lease the heartbeat waits for the next renewal, unless it is
    to stop. -/
def Continues (w : Worker) (event : Event) : Prop :=
  ∀ e, failure o w event = some e → leaseLost w e = false → stopSet w = false →
    ∃ job main, (step o w event).phase = .attempt job main .waiting

/-- What `run_once` returns or raises is what the main path does. -/
def Returns (w : Worker) : Prop :=
  ∀ job r heartbeat x, w.phase = .attempt job (.finished r) heartbeat → outcome w.phase = some x →
    x = .ofMain r

/-- A failure of the heartbeat is a lost lease, or a `RuntimeError` after the stop. -/
def Harmless (w : Worker) (event : Event) : Prop :=
  ∀ e, failure o w event = some e →
    leaseLost w e = true ∨ e.runtime = true ∧ stopSet w = true

/-- The heartbeat has not raised. -/
def Quiet (w : Worker) : Prop := ∀ job main e, w.phase ≠ .attempt job main (.raised e)

section
variable {o} {w : Worker} {event : Event}

/-- A failure ends the heartbeat, in one way or the other. -/
theorem step_of_failure {e : PyException} (h : failure o w event = some e) :
    ∃ job main heartbeat, w.phase = .attempt job main heartbeat ∧
      (step o w event).phase = .attempt job main (.except e) := by
  obtain ⟨current, phase⟩ := w
  unfold failure at h
  split at h
  case h_1 _ _ job main r hphase =>
    cases hphase
    refine ⟨job, main, .refreshing, rfl, ?_⟩
    split at h
    · cases h
    · rename_i hr
      cases h
      simp only [step, Heartbeat.step, hr]
  case h_2 _ _ job main c e' hphase =>
    cases hphase
    cases h
    exact ⟨job, main, .registering c, rfl, rfl⟩
  case h_3 _ _ job main e' hphase =>
    cases hphase
    cases h
    exact ⟨job, main, .renewing, rfl, rfl⟩
  case h_4 => cases h

theorem except_eq_raised {e e' : PyException} (h : Heartbeat.except e' = .raised e) :
    e' = e ∧ e.runtime = false := by
  unfold Heartbeat.except at h
  split at h
  · cases h
  · rename_i hruntime
    cases h
    exact ⟨rfl, Bool.eq_false_iff.mpr hruntime⟩

/-- An attempt begins with a waiting heartbeat. -/
theorem begin_eq_attempt {current : WorkerCapabilities} {phase : Phase} {answer : Answer}
    {job : EvaluationJob} {main : Main} {heartbeat : Heartbeat}
    (h : begin o current phase answer = .attempt job main heartbeat) :
    phase = .attempt job main heartbeat ∨ heartbeat = .waiting := by
  unfold begin at h
  split at h
  · split at h <;> cases h
  · cases h
  · cases h
  · cases h
    exact .inr rfl
  · cases h
  · cases h
  · exact .inl h

/-- Nothing but a failure makes the heartbeat raise. -/
theorem failure_of_raised (hq : Quiet w) {job : EvaluationJob} {main : Main} {e : PyException}
    (h : (step o w event).phase = .attempt job main (.raised e)) :
    failure o w event = some e ∧ e.runtime = false := by
  obtain ⟨current, phase⟩ := w
  unfold step at h
  -- of all events only a beat can end the heartbeat
  split at h
  case h_1 _ _ job' main' heartbeat answer hphase =>
    cases hphase
    cases h
    exact absurd rfl (hq _ _ _)
  case h_2 _ _ _ job' main' heartbeat hphase _ =>
    cases hphase
    injection h with hjob hmain hbeat
    unfold Heartbeat.step at hbeat
    split at hbeat
    · cases hbeat
    · split at hbeat <;> cases hbeat
    · rename_i r
      split at hbeat
      · cases hbeat
      · rename_i hr
        obtain ⟨rfl, hruntime⟩ := except_eq_raised hbeat
        refine ⟨?_, hruntime⟩
        simp only [failure, hr]
    · cases hbeat
    · obtain ⟨rfl, hruntime⟩ := except_eq_raised hbeat
      exact ⟨rfl, hruntime⟩
    · split at hbeat <;> cases hbeat
    · obtain ⟨rfl, hruntime⟩ := except_eq_raised hbeat
      exact ⟨rfl, hruntime⟩
    · exact absurd (congrArg (Phase.attempt job' main') hbeat) (hq _ _ _)
  case h_3 _ _ r _ =>
    have hbegin : begin o current .refreshing (.capabilities r) = .attempt job main (.raised e) := h
    rcases begin_eq_attempt hbegin with h | h <;> cases h
  case h_4 _ _ answer _ _ =>
    have hbegin : begin o current phase answer = .attempt job main (.raised e) := h
    rcases begin_eq_attempt hbegin with h | h
    · exact absurd h (hq _ _ _)
    · cases h
  case h_5 => exact absurd h (hq _ _ _)

theorem runtime_of_leaseLost {e : PyException} (h : leaseLost w e = true) : e.runtime = true := by
  unfold leaseLost at h
  split at h
  · exact (Bool.and_eq_true_iff.mp h).1
  · cases h

/-- A harmless event leaves the heartbeat quiet. -/
theorem quiet_step (hq : Quiet w) (h : Harmless o w event) : Quiet (step o w event) := by
  intro job main e hphase
  obtain ⟨hfail, hruntime⟩ := failure_of_raised hq hphase
  have htrue : e.runtime = true := (h e hfail).elim runtime_of_leaseLost And.left
  rw [hruntime] at htrue
  exact Bool.false_ne_true htrue

/-- What the step of a quiet worker costs. -/
theorem step_iff (hq : Quiet w) :
    Continues o w event ∧ Returns (step o w event) ↔ Harmless o w event := by
  constructor
  · rintro ⟨hcontinues, hreturns⟩ e he
    by_contra hharm
    rw [not_or, not_and, Bool.not_eq_true, Bool.not_eq_true] at hharm
    obtain ⟨hlease, hlate⟩ := hharm
    obtain ⟨job, main, heartbeat, hphase, hstep⟩ := step_of_failure he
    cases hstop : stopSet w with
    | false =>
      -- the heartbeat is over before the main path is
      obtain ⟨job', main', hwait⟩ := hcontinues e he hlease hstop
      rw [hstep] at hwait
      injection hwait with _ _ hbeat
      unfold Heartbeat.except at hbeat
      split at hbeat <;> cases hbeat
    | true =>
      -- the main path is in its `finally`, and gets the exception from there
      have hruntime : e.runtime = false := by
        cases hr : e.runtime with
        | false => rfl
        | true => exact absurd hstop (by rw [hlate hr]; decide)
      unfold stopSet at hstop
      rw [hphase] at hstop
      cases main with
      | finished r =>
        unfold Heartbeat.except at hstep
        rw [hruntime, if_neg Bool.false_ne_true] at hstep
        have hx := hreturns job r _ (.raised .heartbeat e) hstep (by rw [hstep]; rfl)
        cases r <;> cases hx
      | _ => cases hstop
  · intro hharm
    refine ⟨fun e he hlease hstop => ?_, ?_⟩
    · rcases hharm e he with h | ⟨-, h⟩
      · exact absurd h (by rw [hlease]; decide)
      · exact absurd h (by rw [hstop]; decide)
    · intro job r heartbeat x hphase hx
      rw [hphase] at hx
      cases heartbeat with
      | returned =>
        cases hx
        rfl
      | raised e =>
        exact absurd hphase (quiet_step hq hharm _ _ _)
      | _ => cases hx

/-- A run of quiet beginnings, step by step. -/
theorem along_iff (hq : Quiet w) (events : List Event) :
    Runs.Along (step o) (Continues o) w events ∧ Runs.Throughout (step o) Returns w events ↔
      Returns w ∧ Runs.Along (step o) (Harmless o) w events := by
  induction events generalizing w with
  | nil => exact ⟨fun h => ⟨h.2, trivial⟩, fun h => ⟨trivial, h.1⟩⟩
  | cons event events ih =>
    constructor
    · rintro ⟨⟨hcontinues, hrest⟩, hreturns, hthrough⟩
      have hnext : Returns (step o w event) := by
        cases events with
        | nil => exact hthrough
        | cons _ _ => exact hthrough.1
      have hharm : Harmless o w event := (step_iff hq).mp ⟨hcontinues, hnext⟩
      exact ⟨hreturns, hharm, ((ih (quiet_step hq hharm)).mp ⟨hrest, hthrough⟩).2⟩
    · rintro ⟨hreturns, hharm, hrest⟩
      obtain ⟨hcontinues, hnext⟩ := (step_iff hq).mpr hharm
      obtain ⟨halong, hthrough⟩ := (ih (quiet_step hq hharm)).mpr ⟨hnext, hrest⟩
      exact ⟨⟨hcontinues, halong⟩, hreturns, hthrough⟩

end

/-- Over a whole `run_once`: what the main path has is returned, and the renewals go on, exactly if
    no call of the heartbeat raises anything but the lost lease, or a `RuntimeError` once the main
    path is over. -/
theorem heartbeat_iff (capabilities : WorkerCapabilities) (events : List Event) :
    Runs.Along (step o) (Continues o) ⟨capabilities, .refreshing⟩ events ∧
      Runs.Throughout (step o) Returns ⟨capabilities, .refreshing⟩ events ↔
    Runs.Along (step o) (Harmless o) ⟨capabilities, .refreshing⟩ events := by
  have hq : Quiet ⟨capabilities, .refreshing⟩ := fun _ _ _ => nofun
  have hreturns : Returns ⟨capabilities, .refreshing⟩ := fun _ _ _ _ => nofun
  rw [along_iff hq events]
  exact ⟨And.right, fun h => ⟨hreturns, h⟩⟩

/-! ### A lost connection -/

theorem sampleWorker_lease : 3 ≤ 120 := by omega

def sampleWorker : EvaluationWorker := ⟨"worker-1", 120, true, sampleWorker_lease⟩

def cpuOnly : WorkerCapabilities := ⟨[.cpu], [], []⟩

/-- `psycopg.OperationalError`. -/
def connectionLost : PyException :=
  ⟨"OperationalError", false, "server closed the connection unexpectedly"⟩

theorem sampleSpec_priority : -100 ≤ (0 : ℤ) ∧ (0 : ℤ) ≤ 100 := by omega

theorem sampleSpec_attempts : 1 ≤ 3 ∧ 3 ≤ 10 := by omega

theorem sampleSpec_gpu : (0 < 0 ∨ (none : Option Float64) ≠ none ∨ 0 < 0 ∨
    (none : Option Float64) ≠ none ∨ (none : Option MigProfile) ≠ none) →
    Accelerator.cpu = .cuda := by
  simp

def sampleSpec : JobSpec :=
  ⟨"suite.yaml", "baseline", 0, 3, .cpu, [], 0, none, 0, none, none, none, none,
    sampleSpec_priority, sampleSpec_attempts, none_at_least_one, none_in_range,
    sampleSpec_gpu⟩

def sampleJob : EvaluationJob :=
  { toJobSpec := sampleSpec, jobId := 1, createdAt := 0, updatedAt := 0 }

/-- The evaluation succeeds and is recorded; the heartbeat loses its connection on the way. -/
def sampleEvents : List Event :=
  [.main (.capabilities (.ok cpuOnly)), .main (.done (.ok ())),
    .main (.leased (.ok (some sampleJob))), .timeout, .beat (.capabilities (.ok cpuOnly)),
    .beat (.done (.error connectionLost)), .main (.evaluated (.ok ⟨2, "baseline", []⟩)),
    .main (.done (.ok ())), .main (.job (.ok sampleJob))]

/-- The evaluation succeeds and is recorded, and yet `run_once` raises: the lost connection of the
    heartbeat comes back from it. -/
theorem heartbeat_fails : ¬ (
    Runs.Along (step sampleWorker) (Continues sampleWorker) ⟨cpuOnly, .refreshing⟩ sampleEvents ∧
    Runs.Throughout (step sampleWorker) Returns ⟨cpuOnly, .refreshing⟩ sampleEvents) := by
  rintro ⟨-, hreturns⟩
  have hlast : Returns (Runs.run (step sampleWorker) ⟨cpuOnly, .refreshing⟩ sampleEvents) :=
    Runs.Throughout.last hreturns
  have hraised := hlast sampleJob (.ok sampleJob) (.raised connectionLost)
    (.raised .heartbeat connectionLost) rfl rfl
  exact absurd hraised nofun

end AEControl.Jobs.RunOnce
