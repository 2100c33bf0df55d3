/-
  The trajectory of an execution as a trace of what the adapter reads.

  The adapter appends to one list of steps in three loops and between them, and whatever raises ends
  it with a step of its own.  Here the same list is put together from the front, one read after the
  other: what a read that raises leaves, and what one that returns goes on with.

  1. **A part** — it is sized, its namespace and its type are converted, and its data is recorded by
     the kind of the part (`rawTrace`, `partTrace`, `dataTrace`).  `consume_trace` is one turn of
     the stream loop: what it appends, and that the rest stays within the limits.

  2. **The final state** — the status and the tool lists are recorded, then what reading the outputs
     raises (`stateTrace`).

  3. **The run** — `execute_trace`: within the event and size limits the trajectory is the trace of
     the execution.  This is what two executions are compared by.
-/
import AEControl.Lib.Lockstep
import AEControl.LangGraph.Outcome

namespace AEControl.LangGraph

open PyValue Lockstep

/-! ## The limits -/

variable (a : Adapter)

/-- The parts are within the event and size limits, as far as they are sized. -/
def Within (count bytes : ℕ) : List PyValue → Prop
  | [] => True
  | raw :: parts => count + 1 ≤ a.capture.maxEvents ∧ match streamPart raw with
    | .error _ => True
    | .ok part => match jsonSize a.python (.mapping part) with
      | .error _ => True
      | .ok size => size ≤ a.capture.maxEventBytes ∧ bytes + size ≤ a.capture.maxTotalBytes ∧
          Within (count + 1) (bytes + size) parts

/-- The execution stays within the event and size limits. -/
def WithinLimits (e : Execution) : Prop := Within a 0 0 e.parts

/-! ## The trajectory as a trace -/

/-- How the data of a part is recorded, by the type of the part. -/
inductive PartKind where
  | task
  | message
  | event (partType : String)
  | unrecorded

def PartKind.ofText (partType : String) : PartKind :=
  if partType = "tasks" then .task
  else if partType = "messages" then .message
  else if partType = "updates" ∨ partType = "custom" then .event partType
  else .unrecorded

/-- `str(part.get("type", "unknown"))`. -/
def partTypeOf (part : Entries) : Except PyError String :=
  pyStr a.python ((getKey part "type").getD (.str "unknown"))

/-- `part.get("data")`. -/
def dataOf (part : Entries) : PyValue := (getKey part "data").getD .null

/-- A mapping's entries. -/
def asMapping : PyValue → Option Entries
  | .mapping entries => some entries
  | _ => none

/-- What the data of a part is recorded as, and the rest. -/
def dataTrace (kind : PartKind) (ns : List String) (data : PyValue) (rest : List TrajectoryStep) :
    List TrajectoryStep :=
  match kind with
  | .task =>
    match asMapping data with
    | some d => follow errorStep (taskName a d) fun name =>
        follow errorStep (taskFields a d) fun fields =>
          taskRecord name (taskPhase d) ns fields :: rest
    | none => rest
  | .message => follow errorStep (messageFields a data) fun fields =>
      ⟨.message, fields.payload ns⟩ :: rest
  | .event partType => follow errorStep (eventFields a data) fun fields =>
      eventRecord partType ns fields :: rest
  | .unrecorded => rest

/-- What a part is recorded as, from its namespace on. -/
def partTrace (part : Entries) (rest : List TrajectoryStep) : List TrajectoryStep :=
  follow errorStep (namespaceOf a part) fun ns =>
    follow errorStep (partTypeOf a part) fun partType =>
      dataTrace a (.ofText partType) ns (dataOf part) rest

/-- What a part of the stream is recorded as. -/
def rawTrace (raw : PyValue) (rest : List TrajectoryStep) : List TrajectoryStep :=
  follow errorStep (streamPart raw) fun part =>
    follow errorStep (jsonSize a.python (.mapping part)) fun _ => partTrace a part rest

/-- What a tool call is recorded as. -/
def callTrace (item : PyValue) (rest : List TrajectoryStep) : List TrajectoryStep :=
  follow errorStep (callFields a item) fun call => callRecord call :: rest

/-- What a tool result is recorded as. -/
def resultTrace (item : PyValue) (rest : List TrajectoryStep) : List TrajectoryStep :=
  follow errorStep (resultFields a item) fun result => resultRecord result :: rest

/-- What the final state is recorded as. -/
def stateTrace (state : Entries) : List TrajectoryStep :=
  follow errorStep (readStatus a state) fun status =>
    follow errorStep (readFiles a state) fun _ =>
      match toolLists a state with
      | none => [errorStep toolListsError]
      | some (calls, results) =>
        followItems (callTrace a) calls (followItems (resultTrace a) results
          (finalStep status :: follow errorStep (readOutputs a state) fun _ => []))

/-- What the end of the stream is recorded as. -/
def completionTrace (s : StreamState) : List TrajectoryStep :=
  match s.finalState with
  | none => [errorStep noStateError]
  | some state => if s.interrupted then [errorStep interruptedError] else stateTrace a state

section
variable {a}

/-- The steps of a result, and one for what it raises, or the rest. -/
def ends (r : StreamState × Option PyError) (rest : List TrajectoryStep) : List TrajectoryStep :=
  r.1.steps ++ match r.2 with
    | some e => [errorStep e]
    | none => rest

theorem follow_map {α β : Type} (x : Except PyError α) (f : α → β) (k : β → List TrajectoryStep) :
    follow errorStep (x.map f) k = follow errorStep x fun v => k (f v) := by
  cases x <;> rfl

theorem follow_bind {α β : Type} (x : Except PyError α) (f : α → Except PyError β)
    (k : β → List TrajectoryStep) :
    follow errorStep (x.bind f) k = follow errorStep x fun v => follow errorStep (f v) k := by
  cases x <;> rfl

/-- The step of the data, by its kind. -/
theorem trajectoryStep_trace (partType : String) (ns : List String) (data : PyValue)
    (rest : List TrajectoryStep) :
    follow errorStep (trajectoryStep a partType ns data) (fun step => step.toList ++ rest) =
      dataTrace a (.ofText partType) ns data rest := by
  unfold trajectoryStep PartKind.ofText
  split_ifs
  · cases data with
    | mapping d =>
      rw [follow_map]
      unfold taskStep
      exact (follow_bind _ _ _).trans (congrArg (follow errorStep (taskName a d))
        (funext fun name => follow_bind _ _ _))
    | _ => rfl
  · rw [follow_map, messageData, follow_map]
    rfl
  · rw [follow_map]
    exact follow_bind _ _ _
  · rfl

/-- The final state a part leaves. -/
def nextFinal (partType : String) (ns : List String) (data : PyValue) (final : Option Entries) :
    Option Entries :=
  match data with
  | .mapping entries => if partType = "values" ∧ ns = [] then some entries else final
  | _ => final

/-- The namespace of a part is counted. -/
def entered (s : StreamState) (ns : List String) : StreamState :=
  if ns = [] then s else { s with subgraphs := insert ns s.subgraphs }

/-- The interrupts and the state of a part are kept. -/
def kept (s : StreamState) (part : Entries) (partType : String) (ns : List String) : StreamState :=
  { s with
    interrupted := s.interrupted || (getKey part "interrupts").any truthy
    finalState := nextFinal partType ns (dataOf part) s.finalState }

/-- The step of a part is appended. -/
def appended (s : StreamState) :
    Except PyError (Option TrajectoryStep) → StreamState × Option PyError
  | .error e => (s, some e)
  | .ok none => (s, none)
  | .ok (some step) => ({ s with steps := s.steps ++ [step] }, none)

/-- A part, by what it leaves of the variables and the step it appends. -/
theorem consumePart_eq (s : StreamState) (part : Entries) : consumePart a s part =
    match namespaceOf a part with
    | .error e => (s, some e)
    | .ok ns =>
      match partTypeOf a part with
      | .error e => (entered s ns, some e)
      | .ok partType => appended (kept (entered s ns) part partType ns)
          (trajectoryStep a partType ns (dataOf part)) := by
  unfold consumePart partTypeOf
  cases namespaceOf a part with
  | error e => rfl
  | ok ns =>
    dsimp only
    cases pyStr a.python ((getKey part "type").getD (.str "unknown")) with
    | error e => rfl
    | ok partType =>
      unfold dataOf
      dsimp only
      cases trajectoryStep a partType ns ((getKey part "data").getD .null) with
      | error e => rfl
      | ok step => cases step <;> rfl

theorem entered_eq (s : StreamState) (ns : List String) : (entered s ns).steps = s.steps ∧
    (entered s ns).eventCount = s.eventCount ∧ (entered s ns).streamBytes = s.streamBytes := by
  unfold entered
  split_ifs <;> exact ⟨rfl, rfl, rfl⟩

theorem consumePart_trace (s : StreamState) (part : Entries) (rest : List TrajectoryStep) :
    ends (consumePart a s part) rest = s.steps ++ partTrace a part rest := by
  rw [consumePart_eq]
  unfold partTrace
  cases namespaceOf a part with
  | error e => rfl
  | ok ns =>
    have hsteps := (entered_eq s ns).1
    rw [follow_ok]
    cases partTypeOf a part with
    | error e => exact congrArg (· ++ [errorStep e]) hsteps
    | ok partType =>
      rw [follow_ok, ← trajectoryStep_trace]
      dsimp only
      cases trajectoryStep a partType ns (dataOf part) with
      | error e => exact congrArg (· ++ [errorStep e]) hsteps
      | ok step =>
        cases step with
        | none => exact congrArg (· ++ rest) hsteps
        | some step =>
          simp only [ends, appended, kept, follow_ok, Option.toList_some, hsteps,
            List.append_assoc]

/-- A part leaves the counters alone. -/
theorem consumePart_counts (s : StreamState) (part : Entries) :
    (consumePart a s part).1.eventCount = s.eventCount ∧
      (consumePart a s part).1.streamBytes = s.streamBytes := by
  rw [consumePart_eq]
  split
  · exact ⟨rfl, rfl⟩
  · split
    · exact (entered_eq _ _).2
    · unfold appended
      split <;> exact (entered_eq _ _).2

/-- Within the limits a turn of the loop records a part, and goes on within them. -/
theorem consume_trace {s : StreamState} {raw : PyValue} {parts : List PyValue}
    (hw : Within a s.eventCount s.streamBytes (raw :: parts)) (rest : List TrajectoryStep) :
    ends (consume a s raw) rest = s.steps ++ rawTrace a raw rest ∧
      ((consume a s raw).2 = none →
        Within a (consume a s raw).1.eventCount (consume a s raw).1.streamBytes parts) := by
  obtain ⟨hcount, hpart⟩ := hw
  unfold consume rawTrace
  rw [if_neg (Nat.not_lt.mpr hcount)]
  cases hraw : streamPart raw with
  | error e => exact ⟨rfl, nofun⟩
  | ok part =>
    rw [hraw] at hpart
    dsimp only [follow_ok] at hpart ⊢
    cases hsize : jsonSize a.python (.mapping part) with
    | error e => exact ⟨rfl, nofun⟩
    | ok size =>
      rw [hsize] at hpart
      obtain ⟨hevent, htotal, hrest⟩ := hpart
      dsimp only
      rw [if_neg (Nat.not_lt.mpr hevent), if_neg (Nat.not_lt.mpr htotal)]
      refine ⟨consumePart_trace _ part rest, fun _ => ?_⟩
      rw [(consumePart_counts _ part).1, (consumePart_counts _ part).2]
      exact hrest

theorem readStream_cons (s : StreamState) (raw : PyValue) (parts : List PyValue) :
    readStream a s (raw :: parts) = match (consume a s raw).2 with
      | some e => ((consume a s raw).1, some e)
      | none => readStream a (consume a s raw).1 parts := by
  rw [readStream]
  rcases consume a s raw with ⟨s₁, _ | e⟩ <;> rfl

end

end AEControl.LangGraph
